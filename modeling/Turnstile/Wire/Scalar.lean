import Turnstile.Amount.Written
import Turnstile.Json.Decoding
import Turnstile.Role
import Turnstile.Clock

namespace Turnstile

/-! JSON forms of the values that everything else is made of. -/

open Json

namespace Address

def encode (address : Address) : Value :=
  .ofText address.toHex

def ofBytes? (bytes : List Nat) : Option Address :=
  if bytes.length = 20 then
    ofNat? (bytes.foldl (fun number byte => number * 256 + byte) 0)
  else none

/-- What the bytes of an address may be followed by: one more item, if a reader that asks
for a byte there finds none and yet gets past the item. In a text it does not get past a
list or an object. -/
def passesOver (source : Source) : Value → Bool
  | .natural number => decide (256 ≤ number)
  | .array _ => decide (source = .value)
  | .object _ => decide (source = .value)
  | .string (.unpaired atEnd) => atEnd
  | .number numeral => !numeral.isAbandoned
  | _ => true

/-- An address is its written form, or the list of its twenty bytes. -/
def decode (source : Source) : Value → Decoded Address
  | .string (.text content) =>
      match ofText? content.toList with
      | some address => .ok address
      | none => .error .mismatch
  | .array items => do
      let bytes ← (items.take 20).mapM (Value.decodeBelow 256)
      match ofBytes? bytes with
      | some address =>
          match items.drop 20 with
          | [] => .ok address
          | [surplus] => if passesOver source surplus then .ok address else .error .mismatch
          | _ => .error .mismatch
      | none => .error .mismatch
  | value => .error value.fault

@[simp] theorem decode_encode (source : Source) (address : Address) :
    decode source address.encode = .ok address := by
  simp [decode, encode, Value.ofText, ofText?_toHex]

end Address

namespace Amount

def encode (amount : Amount) : Value :=
  .ofText amount.toHex

/-- An amount is a numeral, or a number that a JSON reader takes for a natural one. -/
def decode : Value → Decoded Amount
  | .string (.text content) =>
      match ofNumeral? content.toList with
      | some amount => .ok amount
      | none => .error .mismatch
  | .natural found =>
      match ofNat? found with
      | some amount => .ok amount
      | none => .error .mismatch
  | value => .error value.fault

end Amount

namespace Seconds

def encode (seconds : Seconds) : Value :=
  .natural seconds.toNat

def decode (value : Value) : Decoded Seconds :=
  (value.decodeBelow UInt64.size).map UInt64.ofNat

@[simp] theorem decode_encode (seconds : Seconds) : decode seconds.encode = .ok seconds := by
  rw [decode, encode, Value.decodeBelow, if_pos seconds.toNat_lt]
  simp [Except.map]

end Seconds

/-- The single text of a value that stands for one of several names. A name may also be
written as an object with that name as its only member, which holds nothing. -/
def Json.Value.decodeName : Value → Decoded String
  | .object [(.text name, .null)] => .ok name
  | value => value.decodeText

namespace Role

def encode (role : Role) : Value :=
  .ofText role.name

def decode (value : Value) : Decoded Role := do
  match ofName? (← value.decodeName) with
  | some role => .ok role
  | none => .error .mismatch

@[simp] theorem decode_encode (role : Role) : decode role.encode = .ok role := by
  cases role <;> rfl

end Role

namespace Grant

def encode (grant : Grant) : Value :=
  .record [("role", grant.role.encode), ("account", grant.account.encode)]

def decode (source : Source) (value : Value) : Decoded Grant := do
  let fields ← value.fields ["role", "account"] false
  return {
    role := ← fields.required "role" Role.decode
    account := ← fields.required "account" (Address.decode source) }

end Grant

end Turnstile
