import Turnstile.Toml.Quoted
import Turnstile.Toml.Scalar
import Turnstile.Toml.Tree

namespace Turnstile.Toml

/-! Reading documents, version 1.0 of the format. Every reader takes something off the
front of a text and returns it with the rest. -/

/-- How deep arrays and inline tables may be nested, and how many parts a key may have:
fewer than this. -/
def nestingBound : Nat := 80

/-! ## Between values -/

def skipSpace (input : List Char) : List Char :=
  input.dropWhile isSpace

/-- What follows a comment, if there is one. -/
def skipComment : List Char → List Char
  | '#' :: rest => rest.dropWhile isPlain
  | input => input

/-- Nothing but blanks and a comment up to the end of the line. -/
def finishLine (input : List Char) : Option (List Char) :=
  match skipComment (skipSpace input) with
  | [] => some []
  | rest => afterLineEnd? rest

/-- Skip blanks, comments and line ends. -/
def skipLines : (fuel : Nat) → List Char → List Char
  | 0, input => input
  | fuel + 1, input =>
      let rest := skipComment (skipSpace input)
      match afterLineEnd? rest with
      | some rest => skipLines fuel rest
      | none => rest

def skipGap (input : List Char) : List Char :=
  skipLines input.length input

def expect (sign : Char) : List Char → Option (List Char)
  | [] => none
  | char :: rest => if char = sign then some rest else none

/-! ## Keys -/

def isBareKeyChar (char : Char) : Bool :=
  char.isAlphanum || char = '_' || char = '-'

def readKeyPart (input : List Char) : Option (String × List Char) :=
  let bare := input.takeWhile isBareKeyChar
  if bare.isEmpty then readQuotedLine input
  else some (String.ofList bare, input.drop bare.length)

/-- The parts of a key, with points and blanks between them. -/
def readKeyParts : (bound : Nat) → List Char → Option (List String × List Char)
  | 0, _ => none
  | bound + 1, input => do
      let (part, rest) ← readKeyPart (skipSpace input)
      match skipSpace rest with
      | '.' :: rest => do
          let (parts, rest) ← readKeyParts bound rest
          return (part :: parts, rest)
      | rest => return ([part], rest)

def readKey (input : List Char) : Option (List String × List Char) :=
  readKeyParts (nestingBound - 1) input

/-! ## Values -/

/-- A word; a blank may stand between a date and a time. -/
def readWord (input : List Char) : Option (Value × List Char) := do
  let word := input.takeWhile isWordChar
  let rest := input.drop word.length
  let joined := match rest with
    | ' ' :: digit :: _ => isDate word && digit.isDigit
    | _ => false
  if joined then
    let time := (rest.drop 1).takeWhile isWordChar
    return (← ofWord? (word ++ ' ' :: time), rest.drop (time.length + 1))
  else
    return (← ofWord? word, rest)

section Nested

variable (readValue : List Char → Option (Value × List Char))

/-- The items of an array, from behind its opening bracket or a comma. -/
def readItems : (fuel : Nat) → List Char → Option (List Value × List Char)
  | 0, _ => none
  | fuel + 1, input =>
      match skipGap input with
      | ']' :: rest => some ([], rest)
      | input => do
          let (item, rest) ← readValue input
          match skipGap rest with
          | ']' :: rest => return ([item], rest)
          | ',' :: rest => do
              let (items, rest) ← readItems fuel rest
              return (item :: items, rest)
          | _ => none

def readPair (input : List Char) : Option ((List String × Value) × List Char) := do
  let (key, rest) ← readKey input
  let (value, rest) ← readValue (skipSpace (← expect '=' rest))
  return ((key, value), rest)

/-- The pairs of an inline table, from the first key or from behind a comma. -/
def readPairs : (fuel : Nat) → Members → List Char → Option (Members × List Char)
  | 0, _, _ => none
  | fuel + 1, members, input => do
      let ((key, value), rest) ← readPair readValue input
      let members ← members.assign key.dropLast (key.getLast?.getD "") value
      match skipSpace rest with
      | '}' :: rest => return (members, rest)
      | ',' :: rest => readPairs fuel members rest
      | _ => none

def readInlineTable (input : List Char) : Option (Value × List Char) :=
  match skipSpace input with
  | '}' :: rest => some (.table [], rest)
  | input => do
      let (members, rest) ← readPairs readValue input.length [] input
      return (.table (membersToValues members), rest)

end Nested

/-- A value inside of at most as many arrays and inline tables as the bound says. -/
def readValue : (bound : Nat) → List Char → Option (Value × List Char)
  | _, '"' :: rest => (readQuoted ('"' :: rest)).map fun read => (.text read.1, read.2)
  | _, '\'' :: rest => (readQuoted ('\'' :: rest)).map fun read => (.text read.1, read.2)
  | 0, '[' :: _ => none
  | 0, '{' :: _ => none
  | bound + 1, '[' :: rest => do
      let (items, rest) ← readItems (readValue bound) (rest.length + 1) rest
      return (.array items, rest)
  | bound + 1, '{' :: rest => readInlineTable (readValue bound) rest
  | _, input => readWord input

/-! ## Lines -/

/-- The header of a table. -/
def readHeader (draft : Draft) (input : List Char) : Option (Draft × List Char) := do
  let (path, rest) ← readKey input
  return (← draft.openTable? path, ← finishLine (← expect ']' rest))

/-- The header of an array of tables. -/
def readElementHeader (draft : Draft) (input : List Char) : Option (Draft × List Char) := do
  let (path, rest) ← readKey input
  return (← draft.openElement? path, ← finishLine (← expect ']' (← expect ']' rest)))

def readAssignment (draft : Draft) (input : List Char) : Option (Draft × List Char) := do
  let ((key, value), rest) ← readPair (readValue (nestingBound - 1)) input
  return (← draft.assign? key.dropLast (key.getLast?.getD "") value, ← finishLine rest)

def readLines : (fuel : Nat) → Draft → List Char → Option Draft
  | 0, _, _ => none
  | fuel + 1, draft, input =>
      match skipGap input with
      | [] => some draft
      | '[' :: '[' :: rest => do
          let (draft, rest) ← readElementHeader draft rest
          readLines fuel draft rest
      | '[' :: rest => do
          let (draft, rest) ← readHeader draft rest
          readLines fuel draft rest
      | input => do
          let (draft, rest) ← readAssignment draft input
          readLines fuel draft rest

/-- The table that a document describes. A byte order mark may come first. -/
def Value.ofText? (text : String) : Option Value := do
  let chars := match text.toList with
    | '\ufeff' :: rest => rest
    | chars => chars
  let draft ← readLines (chars.length + 1) .empty chars
  return .table (membersToValues (← draft.finish?))

end Turnstile.Toml
