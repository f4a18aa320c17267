import Turnstile.Text.Digits

namespace Turnstile.Toml

/-! Quoted strings. Basic strings know escapes, literal strings do not; both come on one
line or, between triple quotes, on many. Line ends inside of a string are single line
feeds, however they are written. Every reader starts behind the opening quotes and
returns what follows the closing ones. -/

/-- Characters that may stand for themselves: no control characters but the tab. -/
def isPlain (char : Char) : Bool :=
  char = '\t' || (' ' ≤ char && char ≠ '\x7f')

def isSpace (char : Char) : Bool :=
  char = ' ' || char = '\t'

/-- The character with the given code, surrogates aside. -/
def scalar? (digits : List Char) : Option Char :=
  (Text.ofDigits 16 digits).bind fun code =>
    if code < 0xd800 ∨ (0xdfff < code ∧ code < 0x110000) then some (Char.ofNat code) else none

/-- The character that an escape stands for, given what follows the backslash. -/
def readEscape : List Char → Option (Char × List Char)
  | 'b' :: rest => some ('\x08', rest)
  | 't' :: rest => some ('\t', rest)
  | 'n' :: rest => some ('\n', rest)
  | 'f' :: rest => some ('\x0c', rest)
  | 'r' :: rest => some ('\r', rest)
  | '"' :: rest => some ('"', rest)
  | '\\' :: rest => some ('\\', rest)
  | 'u' :: rest =>
      if (rest.take 4).length = 4 then
        (scalar? (rest.take 4)).map fun char => (char, rest.drop 4)
      else none
  | 'U' :: rest =>
      if (rest.take 8).length = 8 then
        (scalar? (rest.take 8)).map fun char => (char, rest.drop 8)
      else none
  | _ => none

/-- What a string read so far makes of its characters, which come newest first. -/
def finishString (chars rest : List Char) : Option (String × List Char) :=
  some (String.ofList chars.reverse, rest)

def readLiteral (chars : List Char) : List Char → Option (String × List Char)
  | [] => none
  | '\'' :: rest => finishString chars rest
  | char :: rest => if isPlain char then readLiteral (char :: chars) rest else none

/-- The fuel is a bound for the number of characters and escapes. -/
def readBasic : (fuel : Nat) → (chars : List Char) → List Char → Option (String × List Char)
  | 0, _, _ => none
  | _, _, [] => none
  | _ + 1, chars, '"' :: rest => finishString chars rest
  | fuel + 1, chars, '\\' :: rest => do
      let (char, rest) ← readEscape rest
      readBasic fuel (char :: chars) rest
  | fuel + 1, chars, char :: rest =>
      if isPlain char then readBasic fuel (char :: chars) rest else none

/-- A line end of either kind at the front of a text. -/
def afterLineEnd? : List Char → Option (List Char)
  | '\n' :: rest => some rest
  | '\r' :: '\n' :: rest => some rest
  | _ => none

/-- A line end right behind the opening quotes belongs to them. -/
def skipFirstLineEnd (input : List Char) : List Char :=
  (afterLineEnd? input).getD input

/-- Three quotes end a string on many lines; one or two more before them belong to it. -/
def closing? (quote : Char) (input : List Char) : Option (List Char × List Char) :=
  let quotes := (input.takeWhile (· = quote)).length
  if quotes < 3 then none
  else
    let kept := min (quotes - 3) 2
    some (List.replicate kept quote, input.drop (kept + 3))

def readLiteralLines : (fuel : Nat) → (chars : List Char) → List Char →
    Option (String × List Char)
  | 0, _, _ => none
  | _, _, [] => none
  | fuel + 1, chars, char :: rest =>
      match closing? '\'' (char :: rest), afterLineEnd? (char :: rest) with
      | some (quotes, rest), _ => finishString (quotes ++ chars) rest
      | none, some rest => readLiteralLines fuel ('\n' :: chars) rest
      | none, none => if isPlain char then readLiteralLines fuel (char :: chars) rest else none

/-- What follows a backslash at the end of a line and all the blanks after it. -/
def afterContinuation? (input : List Char) : Option (List Char) :=
  (afterLineEnd? (input.dropWhile isSpace)).map fun rest =>
    skipBlankLines rest.length rest
where
  skipBlankLines : Nat → List Char → List Char
    | 0, input => input
    | fuel + 1, input =>
        match afterLineEnd? (input.dropWhile isSpace) with
        | some rest => skipBlankLines fuel rest
        | none => input.dropWhile isSpace

def readBasicLines : (fuel : Nat) → (chars : List Char) → List Char →
    Option (String × List Char)
  | 0, _, _ => none
  | _, _, [] => none
  | fuel + 1, chars, '\\' :: rest =>
      match afterContinuation? rest with
      | some rest => readBasicLines fuel chars rest
      | none => do
          let (char, rest) ← readEscape rest
          readBasicLines fuel (char :: chars) rest
  | fuel + 1, chars, char :: rest =>
      match closing? '"' (char :: rest), afterLineEnd? (char :: rest) with
      | some (quotes, rest), _ => finishString (quotes ++ chars) rest
      | none, some rest => readBasicLines fuel ('\n' :: chars) rest
      | none, none => if isPlain char then readBasicLines fuel (char :: chars) rest else none

/-- Read a string on one line, from its opening quote. -/
def readQuotedLine : List Char → Option (String × List Char)
  | '"' :: rest => readBasic (rest.length + 1) [] rest
  | '\'' :: rest => readLiteral [] rest
  | _ => none

/-- Read any string, from its opening quotes. -/
def readQuoted : List Char → Option (String × List Char)
  | '"' :: '"' :: '"' :: rest =>
      readBasicLines (rest.length + 1) [] (skipFirstLineEnd rest)
  | '\'' :: '\'' :: '\'' :: rest =>
      readLiteralLines (rest.length + 1) [] (skipFirstLineEnd rest)
  | input => readQuotedLine input

end Turnstile.Toml
