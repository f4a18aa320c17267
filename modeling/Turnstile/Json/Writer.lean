import Turnstile.Json.Value
import Turnstile.Text.Digits

namespace Turnstile.Json

/-! Written forms of JSON values. Every writer puts a form in front of the text that
follows it. -/

/-- The form of a character inside of a string. -/
def writeChar (char : Char) (rest : List Char) : List Char :=
  match char with
  | '"' => '\\' :: '"' :: rest
  | '\\' => '\\' :: '\\' :: rest
  | '\x08' => '\\' :: 'b' :: rest
  | '\x0c' => '\\' :: 'f' :: rest
  | '\n' => '\\' :: 'n' :: rest
  | '\r' => '\\' :: 'r' :: rest
  | '\t' => '\\' :: 't' :: rest
  | char =>
      if char < ' ' then '\\' :: 'u' :: (Text.fixedHex 4 char.toNat ++ rest)
      else char :: rest

def writeString (content : List Char) (rest : List Char) : List Char :=
  '"' :: content.foldr writeChar ('"' :: rest)

/-- A string of which no text is known is written as one surrogate. -/
def Literal.write : Literal → List Char → List Char
  | .text content, rest => writeString content.toList rest
  | .unpaired _, rest => "\"\\ud800\"".toList ++ rest

def writeWord (word : String) (rest : List Char) : List Char :=
  word.toList ++ rest

namespace Value

/-! ## On one line -/

mutual
def write : Value → List Char → List Char
  | .null, rest => writeWord "null" rest
  | .bool true, rest => writeWord "true" rest
  | .bool false, rest => writeWord "false" rest
  | .natural found, rest => writeWord (Text.decimal found) rest
  | .number numeral, rest => numeral.write rest
  | .string literal, rest => literal.write rest
  | .array items, rest => '[' :: writeItems items (']' :: rest)
  | .object members, rest => '{' :: writeMembers members ('}' :: rest)
  | .cut, rest => rest

def writeItems : List Value → List Char → List Char
  | [], rest => rest
  | [item], rest => item.write rest
  | item :: next :: items, rest => item.write (',' :: writeItems (next :: items) rest)

def writeMembers : List (Literal × Value) → List Char → List Char
  | [], rest => rest
  | [(key, value)], rest => key.write (':' :: value.write rest)
  | (key, value) :: next :: members, rest =>
      key.write (':' :: value.write (',' :: writeMembers (next :: members) rest))
end

def toLine (value : Value) : String :=
  String.ofList (value.write [])

/-! ## Over many lines

Every item and every member has a line of its own, two blanks deeper than what it
belongs to. What is empty stays on its line. -/

def newLine (level : Nat) (rest : List Char) : List Char :=
  '\n' :: (List.replicate (2 * level) ' ' ++ rest)

mutual
def spread (level : Nat) : Value → List Char → List Char
  | .array [], rest => '[' :: ']' :: rest
  | .array (item :: items), rest =>
      '[' :: newLine (level + 1)
        (spreadItems (level + 1) (item :: items) (newLine level (']' :: rest)))
  | .object [], rest => '{' :: '}' :: rest
  | .object (member :: members), rest =>
      '{' :: newLine (level + 1)
        (spreadMembers (level + 1) (member :: members) (newLine level ('}' :: rest)))
  | value, rest => value.write rest

def spreadItems (level : Nat) : List Value → List Char → List Char
  | [], rest => rest
  | [item], rest => item.spread level rest
  | item :: next :: items, rest =>
      item.spread level (',' :: newLine level (spreadItems level (next :: items) rest))

def spreadMembers (level : Nat) : List (Literal × Value) → List Char → List Char
  | [], rest => rest
  | [(key, value)], rest => key.write (':' :: ' ' :: value.spread level rest)
  | (key, value) :: next :: members, rest =>
      key.write (':' :: ' ' :: value.spread level
        (',' :: newLine level (spreadMembers level (next :: members) rest)))
end

def toLines (value : Value) : String :=
  String.ofList (value.spread 0 [])

end Value

end Turnstile.Json
