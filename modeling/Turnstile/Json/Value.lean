import Turnstile.Json.Numeral

namespace Turnstile.Json

/-! JSON values, including what is left of a text that stops being JSON half-way. -/

/-- The contents of a string. Half of a surrogate pair can be written down but is no
text; a string that has one is harmless as long as nobody asks for its text. -/
inductive Literal where
  | text (content : String)
  /-- `atEnd` if the first such half is a high one and ends the string. -/
  | unpaired (atEnd : Bool)
deriving DecidableEq

instance : Coe String Literal := ⟨.text⟩

instance : Inhabited Literal := ⟨.text ""⟩

def Literal.isUnpaired : Literal → Bool
  | .text _ => false
  | .unpaired _ => true

inductive Value where
  | null
  | bool (truth : Bool)
  /-- A number without sign, point and exponent; those read from a text are below
  `2 ^ 64`. -/
  | natural (number : Nat)
  /-- Every other number, as it was written. -/
  | number (numeral : Numeral)
  | string (literal : Literal)
  | array (items : List Value)
  | object (members : List (Literal × Value))
  /-- Where the text stopped being JSON. As the last item of an array it can also stand
  for something that is no value, or for nothing behind a comma, in a text that goes on
  with the end of the array. -/
  | cut

instance : Inhabited Value := ⟨.null⟩

namespace Value

def ofText (text : String) : Value :=
  .string (.text text)

/-- An object with the given members. -/
def record (members : List (String × Value)) : Value :=
  .object (members.map fun member => (.text member.1, member.2))

/-! ## Measures -/

mutual
/-- How deep arrays and objects are nested. -/
def depth : Value → Nat
  | .array items => depthOfItems items + 1
  | .object members => depthOfMembers members + 1
  | _ => 0

def depthOfItems : List Value → Nat
  | [] => 0
  | item :: rest => max item.depth (depthOfItems rest)

def depthOfMembers : List (Literal × Value) → Nat
  | [] => 0
  | (_, value) :: rest => max value.depth (depthOfMembers rest)
end

mutual
/-- No part of the value satisfies the test. -/
def free (barred : Value → Bool) : Value → Bool
  | .array items => !barred (.array items) && freeItems barred items
  | .object members => !barred (.object members) && freeMembers barred members
  | value => !barred value

def freeItems (barred : Value → Bool) : List Value → Bool
  | [] => true
  | item :: rest => item.free barred && freeItems barred rest

def freeMembers (barred : Value → Bool) : List (Literal × Value) → Bool
  | [] => true
  | (_, value) :: rest => value.free barred && freeMembers barred rest
end

def isCut : Value → Bool
  | .cut => true
  | _ => false

/-- The text of the value was JSON to its end. -/
def isWhole (value : Value) : Bool :=
  value.free isCut

/-- The value of the last member of that name. -/
def member? (value : Value) (name : String) : Option Value :=
  match value with
  | .object members =>
      (members.reverse.find? fun member => member.1 = .text name).map Prod.snd
  | _ => none

end Value

end Turnstile.Json
