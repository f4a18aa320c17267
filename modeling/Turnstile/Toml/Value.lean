import Turnstile.Json.Value

namespace Turnstile.Toml

/-! TOML values, and the JSON values in whose place they can be read. -/

inductive Value where
  | text (content : String)
  | bool (truth : Bool)
  | integer (number : Int)
  /-- A number with a fraction or an exponent, an infinity or no number at all. -/
  | float (digits : String)
  /-- A date, a time of day or both. -/
  | datetime (written : String)
  | array (items : List Value)
  | table (members : List (String × Value))

namespace Value

instance : Inhabited Value := ⟨.table []⟩

def integerToJson : Int → Json.Value
  | .ofNat number => .natural number
  | .negSucc number =>
      .number { negative := true, whole := Nat.toDigits 10 (number + 1), fraction := [],
                exponent := none }

mutual
/-- The value as JSON: floats have no counterpart there, and dates are objects of
their own. -/
def toJson : Value → Json.Value
  | .text content => .ofText content
  | .bool truth => .bool truth
  | .integer number => integerToJson number
  | .float _ => .null
  | .datetime written => .record [("datetime", .ofText written)]
  | .array items => .array (itemsToJson items)
  | .table members => .object (membersToJson members)

def itemsToJson : List Value → List Json.Value
  | [] => []
  | item :: rest => item.toJson :: itemsToJson rest

def membersToJson : List (String × Value) → List (Json.Literal × Json.Value)
  | [] => []
  | (key, value) :: rest => (.text key, value.toJson) :: membersToJson rest
end

end Value

end Turnstile.Toml
