import Turnstile.Amount
import Turnstile.Text.Blank
import Turnstile.Text.Digits

namespace Turnstile.Amount

/-! Written forms of amounts. Stored amounts are hexadecimal. Configurations and
administrators write decimal amounts, or any other base with its mark, and say `max`
for the largest amount. -/

def toHex (amount : Amount) : String :=
  "0x" ++ Text.hexadecimal amount.toNat

/-- The form in which limits are configured. -/
def toSetting (amount : Amount) : String :=
  if amount = .unlimited then "max" else Text.decimal amount.toNat

/-- The base that a numeral's mark announces, and the digits after the mark. -/
def splitBase : List Char → Nat × List Char
  | '0' :: 'x' :: digits => (16, digits)
  | '0' :: 'X' :: digits => (16, digits)
  | '0' :: 'o' :: digits => (8, digits)
  | '0' :: 'O' :: digits => (8, digits)
  | '0' :: 'b' :: digits => (2, digits)
  | '0' :: 'B' :: digits => (2, digits)
  | digits => (10, digits)

/-- Read a numeral. Underscores are passed over wherever they stand, and no digits at
all denote zero. -/
def ofNumeral? (text : List Char) : Option Amount :=
  let parts := splitBase text
  (Text.ofDigits parts.1 (parts.2.filter (· ≠ '_'))).bind ofNat?

/-- Read an amount as it is configured; the text has no white space around it. -/
def ofSetting? (text : List Char) : Option Amount :=
  if text.map Char.toLower = "max".toList then some .unlimited
  else ofNumeral? text

end Turnstile.Amount
