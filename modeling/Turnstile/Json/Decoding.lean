import Turnstile.Json.Reader

namespace Turnstile.Json

/-! Reading domain values out of JSON values. A structure is an object with its fields
as members or an array of its fields in order; members with other names are passed
over. -/

inductive Fault where
  /-- The text is not JSON, or a number or string in it denotes nothing. -/
  | malformed
  /-- The value is not of the shape asked for. -/
  | mismatch
deriving DecidableEq, Inhabited

abbrev Decoded := Except Fault

/-- Where the values come from that are decoded. -/
inductive Source where
  /-- From a text, each at the time when it is asked for. -/
  | text
  /-- From a value that has been read as a whole before. -/
  | value
deriving DecidableEq, Inhabited

/-- The fields of a structure by name. -/
abbrev Fields := String → Option Value

namespace Value

/-- What is wrong with a value found where another kind of value is asked for. -/
def fault : Value → Fault
  | .cut => .malformed
  | .string (.unpaired _) => .malformed
  | .number numeral => if numeral.isOverlarge then .malformed else .mismatch
  | _ => .mismatch

/-- A value that cannot be kept even without being asked for its kind. -/
def isUnreadable : Value → Bool
  | .object members =>
      members.any fun member => member.1.isUnpaired
  | value => value.fault = .malformed

def decodeBool : Value → Decoded Bool
  | .bool truth => .ok truth
  | value => .error value.fault

def decodeText : Value → Decoded String
  | .string (.text content) => .ok content
  | value => .error value.fault

def decodeBelow (bound : Nat) : Value → Decoded Nat
  | .natural found => if found < bound then .ok found else .error .mismatch
  | value => .error value.fault

def decodeList {Item : Type} (decode : Value → Decoded Item) : Value → Decoded (List Item)
  | .array items => items.mapM decode
  | value => .error value.fault

/-! ## Structures -/

/-- Every name is used once, and what has no name here can be passed over. -/
def checkMembers (names seen : List String) : List (Literal × Value) → Decoded Unit
  | [] => .ok ()
  | (.unpaired _, _) :: _ => .error .malformed
  | (.text name, value) :: rest =>
      if names.contains name then
        if seen.contains name then .error .mismatch
        else checkMembers names (name :: seen) rest
      else if value.isWhole then checkMembers names seen rest
      else .error .malformed

/-- The fields of a structure with the given field names. An array may have more
items than there are fields only where `surplus` says so. -/
def fields (names : List String) (surplus : Bool) (value : Value) : Decoded Fields :=
  match value with
  | .object members =>
      match checkMembers names [] members with
      | .error fault => .error fault
      | .ok () => .ok fun name =>
          (members.find? fun member => member.1 = .text name).map Prod.snd
  | .array items =>
      if names.length < items.length && !surplus then .error .malformed
      else .ok fun name => (names.zip items).lookup name
  | value => .error value.fault

/-- The first fault that is met when the fields of a structure are read in the order in
which they are written. -/
def surveyMembers (checks : List (String × (Value → Decoded Unit))) (seen : List String) :
    List (Literal × Value) → Decoded (List String)
  | [] => .ok seen
  | (.unpaired _, _) :: _ => .error .malformed
  | (.text name, value) :: rest =>
      match checks.lookup name with
      | some check =>
          if seen.contains name then .error .mismatch
          else
            match check value with
            | .error fault => .error fault
            | .ok () => surveyMembers checks (name :: seen) rest
      | none =>
          if value.isWhole then surveyMembers checks seen rest else .error .malformed

def surveyItems (checks : List (String × (Value → Decoded Unit))) :
    List Value → Decoded (List String)
  | [] => .ok []
  | item :: rest =>
      match checks with
      | [] => .error .malformed
      | (name, check) :: others =>
          match check item with
          | .error fault => .error fault
          | .ok () => (surveyItems others rest).map (name :: ·)

/-- Read a structure just to find its first fault; a required field that is missing
counts as the last. -/
def survey (checks : List (String × (Value → Decoded Unit))) (required : Bool)
    (value : Value) : Decoded Unit := do
  let seen ← match value with
    | .object members => surveyMembers checks [] members
    | .array items => surveyItems checks items
    | value => .error value.fault
  if required && checks.any fun check => !seen.contains check.1 then .error .mismatch
  else .ok ()

end Value

def Fields.required {Item : Type} (fields : Fields) (name : String)
    (decode : Value → Decoded Item) : Decoded Item :=
  match fields name with
  | some value => decode value
  | none => .error .mismatch

def Fields.optional {Item : Type} (fields : Fields) (name : String)
    (decode : Value → Decoded Item) (default : Item) : Decoded Item :=
  match fields name with
  | some value => decode value
  | none => .ok default

end Turnstile.Json
