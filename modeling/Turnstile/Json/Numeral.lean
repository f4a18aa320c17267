import Turnstile.Text.Magnitude

namespace Turnstile.Json

/-! Numbers as JSON writes them. -/

/-- The parts of a number as it is written. -/
structure Numeral where
  negative : Bool
  whole : List Char
  fraction : List Char
  /-- Whether the exponent is negative, and its digits. -/
  exponent : Option (Bool × List Char)
deriving DecidableEq, Inhabited

namespace Numeral

/-! ## Reading -/

def leadingDigits (input : List Char) : List Char :=
  input.takeWhile Char.isDigit

def afterDigits (input : List Char) : List Char :=
  input.dropWhile Char.isDigit

private theorem length_leadingDigits_add (input : List Char) :
    (leadingDigits input).length + (afterDigits input).length = input.length := by
  rw [← List.length_append, leadingDigits, afterDigits, List.takeWhile_append_dropWhile]

/-- A sign, and what follows it. -/
def readSign : List Char → Bool × List Char
  | '-' :: rest => (true, rest)
  | input => (false, input)

def readFraction : List Char → Option (List Char × List Char)
  | '.' :: rest =>
      if (leadingDigits rest).isEmpty then none
      else some (leadingDigits rest, afterDigits rest)
  | input => some ([], input)

def readPower (negative : Bool) (input : List Char) :
    Option (Option (Bool × List Char) × List Char) :=
  if (leadingDigits input).isEmpty then none
  else some (some (negative, leadingDigits input), afterDigits input)

def readExponent (input : List Char) : Option (Option (Bool × List Char) × List Char) :=
  match input with
  | [] => some (none, [])
  | mark :: rest =>
      if mark = 'e' || mark = 'E' then
        match rest with
        | '-' :: digits => readPower true digits
        | '+' :: digits => readPower false digits
        | digits => readPower false digits
      else some (none, mark :: rest)

/-- Read a number: no leading zeros, and digits after a point or an exponent mark. -/
def read (input : List Char) : Option (Numeral × List Char) :=
  let signed := readSign input
  let whole := leadingDigits signed.2
  if whole.isEmpty || (whole.head? = some '0' && whole.length ≠ 1) then none
  else do
    let (fraction, afterFraction) ← readFraction (afterDigits signed.2)
    let (exponent, rest) ← readExponent afterFraction
    return ({ negative := signed.1, whole, fraction, exponent }, rest)

private theorem length_readSign_le (input : List Char) :
    (readSign input).2.length ≤ input.length := by
  unfold readSign
  split <;> simp

private theorem length_readFraction_le {input fraction rest : List Char}
    (found : readFraction input = some (fraction, rest)) : rest.length ≤ input.length := by
  unfold readFraction at found
  split at found
  next tail =>
    split at found
    · cases found
    · have lengths := length_leadingDigits_add tail
      simp only [Option.some.injEq, Prod.mk.injEq] at found
      rw [← found.2, List.length_cons]
      omega
  next =>
    simp only [Option.some.injEq, Prod.mk.injEq] at found
    simp [found.2]

private theorem length_readPower_le {negative : Bool} {input rest : List Char}
    {power : Option (Bool × List Char)}
    (found : readPower negative input = some (power, rest)) : rest.length ≤ input.length := by
  unfold readPower at found
  split at found
  · cases found
  · have lengths := length_leadingDigits_add input
    simp only [Option.some.injEq, Prod.mk.injEq] at found
    rw [← found.2]
    omega

private theorem length_readExponent_le {input rest : List Char}
    {exponent : Option (Bool × List Char)}
    (found : readExponent input = some (exponent, rest)) : rest.length ≤ input.length := by
  unfold readExponent at found
  split at found
  · simp_all
  next mark tail =>
    split at found
    · split at found <;> have bound := length_readPower_le found <;> simp_all <;> omega
    · simp only [Option.some.injEq, Prod.mk.injEq] at found
      simp [← found.2]

theorem length_read_lt {input rest : List Char} {numeral : Numeral}
    (found : read input = some (numeral, rest)) : rest.length < input.length := by
  unfold read at found
  simp only at found
  split at found
  · cases found
  next digits =>
    simp only [bind, Option.bind_eq_some_iff, pure] at found
    rcases found with ⟨fraction, inFraction, exponent, inExponent, result⟩
    have sign := length_readSign_le input
    have whole := length_leadingDigits_add (readSign input).2
    have atFraction := length_readFraction_le inFraction
    have atExponent := length_readExponent_le inExponent
    have nonempty : 0 < (leadingDigits (readSign input).2).length := by
      apply List.length_pos_iff.mpr
      intro empty
      simp [empty] at digits
    simp only [Option.some.injEq, Prod.mk.injEq] at result
    rw [← result.2]
    omega

/-! ## Values -/

def digitsValue (digits : List Char) : Nat :=
  (Text.ofDigits 10 digits).getD 0

/-- The natural number below `2 ^ 64` that is written without sign, point and
exponent. -/
def natural? (numeral : Numeral) : Option Nat :=
  let number := digitsValue numeral.whole
  if numeral.negative || !numeral.fraction.isEmpty || numeral.exponent.isSome
      || UInt64.size ≤ number then none
  else some number

/-- Append digits to a number while it stays below `2 ^ 64`; also the digits that are
left over. -/
def appendFitting (number : Nat) : List Char → Nat × List Char
  | [] => (number, [])
  | digit :: rest =>
      let longer := number * 10 + (digit.toNat - '0'.toNat)
      if longer < UInt64.size then appendFitting longer rest else (number, digit :: rest)

/-- The number is too large to be read. It is read as a double, from as many leading
digits as fit into 64 bits and a power of ten. -/
def isOverlarge (numeral : Numeral) : Bool :=
  let shift : Int := match numeral.exponent with
    | none => 0
    | some (true, digits) => -(digitsValue digits : Int)
    | some (false, digits) => digitsValue digits
  let (whole, counted) := appendFitting 0 numeral.whole
  let (significand, ignored) := appendFitting whole numeral.fraction
  Text.productExceedsDouble significand
    (shift + counted.length + ignored.length - numeral.fraction.length)

/-- A reader gives the number up before its last digit: the exponent reaches `2 ^ 31`
earlier, which makes the number too large. -/
def isAbandoned (numeral : Numeral) : Bool :=
  match numeral.exponent with
  | some (false, digits) =>
      decide (Nat.pow 2 31 ≤ digitsValue digits.dropLast)
        && decide (digitsValue (numeral.whole ++ numeral.fraction) ≠ 0)
  | _ => false

/-! ## Writing -/

def write (numeral : Numeral) (rest : List Char) : List Char :=
  let withExponent := match numeral.exponent with
    | none => rest
    | some (true, digits) => 'e' :: '-' :: (digits ++ rest)
    | some (false, digits) => 'e' :: (digits ++ rest)
  let withFraction :=
    if numeral.fraction.isEmpty then withExponent
    else '.' :: (numeral.fraction ++ withExponent)
  if numeral.negative then '-' :: (numeral.whole ++ withFraction)
  else numeral.whole ++ withFraction

end Numeral

end Turnstile.Json
