import Turnstile.Json.Quoted

namespace Turnstile.Json

/-! Where a reader stops that looks for a word and cannot make one out. It goes through
the bytes of the text one at a time and has taken the byte that is wrong, but not one
that it only had to look at. -/

/-- What is left behind a number of bytes. If they end inside of a character, nothing is
left that could be read. -/
def dropBytes (count : Nat) : List Char → List Char
  | [] => []
  | char :: rest =>
      if count = 0 then char :: rest
      else if char.utf8Size ≤ count then dropBytes (count - char.utf8Size) rest
      else []

/-! ## Names and numbers -/

/-- The first letter that differs from the name is taken. -/
def stopInName : (name input : List Char) → List Char
  | expected :: name, char :: rest =>
      if char = expected then stopInName name rest else dropBytes 1 (char :: rest)
  | _, input => input

/-- What stands in the place of the digits of an exponent is taken. -/
def stopInExponent : List Char → List Char
  | '+' :: rest => dropBytes 1 rest
  | '-' :: rest => dropBytes 1 rest
  | input => dropBytes 1 input

def stopBeforeExponent : List Char → List Char
  | 'e' :: rest => stopInExponent rest
  | 'E' :: rest => stopInExponent rest
  | input => input

/-- What stands in the place of the digits of a fraction is not taken. -/
def stopInFraction (input : List Char) : List Char :=
  if (Numeral.leadingDigits input).isEmpty then input
  else stopBeforeExponent (Numeral.afterDigits input)

def stopBehindWhole : List Char → List Char
  | '.' :: rest => stopInFraction rest
  | input => stopBeforeExponent input

/-- Behind a leading zero no digit is taken. -/
def stopInNumber : List Char → List Char
  | [] => []
  | char :: rest =>
      if char = '0' then
        if (Numeral.leadingDigits rest).isEmpty then stopBehindWhole rest else rest
      else if char.isDigit then stopBehindWhole (Numeral.afterDigits rest)
      else dropBytes 1 (char :: rest)

/-! ## Strings -/

/-- A string whose opening quote has been taken. A half of a surrogate pair is an end,
too; behind a high one the next byte is taken to see whether it starts the other half. -/
def stopInString (input : List Char) : List Char :=
  match input with
  | [] => []
  | '"' :: rest => rest
  | '\\' :: 'u' :: rest =>
      match hexUnit? (rest.take 4) with
      | none => dropBytes 4 rest
      | some unit =>
          if isLowSurrogate unit then rest.drop 4
          else if isHighSurrogate unit then
            match _behind : rest.drop 4 with
            | '\\' :: 'u' :: more =>
                match hexUnit? (more.take 4) with
                | none => dropBytes 4 more
                | some second =>
                    if isLowSurrogate second then stopInString (more.drop 4)
                    else more.drop 4
            | '\\' :: more => dropBytes 1 more
            | more => dropBytes 1 more
          else stopInString (rest.drop 4)
  | '\\' :: letter :: rest =>
      if (escaped? letter).isSome then stopInString rest else dropBytes 1 (letter :: rest)
  | char :: rest => if char < ' ' then rest else stopInString rest
termination_by input.length
decreasing_by
  · have lengths := congrArg List.length _behind
    simp only [List.length_drop, List.length_cons] at lengths ⊢
    omega
  · simp only [List.length_drop, List.length_cons]
    omega
  · simp only [List.length_cons]
    omega
  · simp only [List.length_cons]
    omega

/-! ## Words -/

/-- What is left behind the place where a reader stops that does not find a word. -/
def stop : List Char → List Char
  | 'n' :: rest => stopInName ['u', 'l', 'l'] rest
  | 't' :: rest => stopInName ['r', 'u', 'e'] rest
  | 'f' :: rest => stopInName ['a', 'l', 's', 'e'] rest
  | '"' :: rest => stopInString rest
  | '-' :: rest => stopInNumber rest
  | char :: rest => if char.isDigit then stopInNumber (char :: rest) else char :: rest
  | [] => []

end Turnstile.Json
