import Turnstile.Json.Value

namespace Turnstile.Json

/-! Strings as JSON writes them. -/

def hexUnit? (digits : List Char) : Option Nat :=
  if digits.length = 4 then Text.ofDigits 16 digits else none

def isHighSurrogate (unit : Nat) : Bool := 0xd800 ≤ unit && unit < 0xdc00

def isLowSurrogate (unit : Nat) : Bool := 0xdc00 ≤ unit && unit < 0xe000

/-- The character of a surrogate pair. -/
def joinSurrogates (high low : Nat) : Char :=
  Char.ofNat (0x10000 + (high - 0xd800) * 0x400 + (low - 0xdc00))

/-- The characters that one letter after a backslash stands for. -/
def escaped? : Char → Option Char
  | '"' => some '"'
  | '\\' => some '\\'
  | '/' => some '/'
  | 'b' => some '\x08'
  | 'f' => some '\x0c'
  | 'n' => some '\n'
  | 'r' => some '\r'
  | 't' => some '\t'
  | _ => none

/-- Read a string whose opening quote has been read. The characters read so far come
newest first, `none` once a surrogate stood alone. -/
def readString (content : Option (List Char)) : List Char → Option (Literal × List Char)
  | [] => none
  | '"' :: rest =>
      match content with
      | some chars => some (.text (String.ofList chars.reverse), rest)
      | none => some (.unpaired false, rest)
  | '\\' :: 'u' :: a :: b :: c :: d :: '\\' :: 'u' :: e :: f :: g :: h :: rest =>
      match hexUnit? [a, b, c, d], hexUnit? [e, f, g, h] with
      | some first, second =>
          if isHighSurrogate first then
            match second with
            | some second =>
                if isLowSurrogate second then
                  readString (content.map (joinSurrogates first second :: ·)) rest
                else readString none ('\\' :: 'u' :: e :: f :: g :: h :: rest)
            | none => none
          else
            let content := if isLowSurrogate first then none
              else content.map (Char.ofNat first :: ·)
            readString content ('\\' :: 'u' :: e :: f :: g :: h :: rest)
      | none, _ => none
  | '\\' :: 'u' :: a :: b :: c :: d :: rest =>
      match hexUnit? [a, b, c, d] with
      | some unit =>
          if isHighSurrogate unit || isLowSurrogate unit then
            match content, rest with
            | some _, '"' :: after => some (.unpaired (isHighSurrogate unit), after)
            | _, _ => readString none rest
          else readString (content.map (Char.ofNat unit :: ·)) rest
      | none => none
  | '\\' :: letter :: rest =>
      match escaped? letter with
      | some char => readString (content.map (char :: ·)) rest
      | none => none
  | char :: rest =>
      if char = '\\' || char < ' ' then none
      else readString (content.map (char :: ·)) rest

theorem length_readString_lt {content : Option (List Char)} {input rest : List Char}
    {literal : Literal} (read : readString content input = some (literal, rest)) :
    rest.length < input.length := by
  fun_induction readString content input <;> simp_all <;> omega

end Turnstile.Json
