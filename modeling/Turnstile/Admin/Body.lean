import Turnstile.Admin.Request
import Turnstile.Text.MediaType
import Turnstile.Wire.Configuration

namespace Turnstile.Admin

/-! Reading the bodies of requests. A body is one JSON structure and has to say so in its
content type. Of several faults the one that stands first in the body counts, and text
behind the structure counts last. -/

open Json

/-- The fields of a body with what each of them has to be. -/
abbrev Shape := List (String × (Value → Decoded Unit))

def checked {Item : Type} (decode : Value → Decoded Item) (value : Value) : Decoded Unit :=
  (decode value).map fun _ => ()

/-- Bodies of more bytes are not read. -/
def maximalSize : Nat := 2 * 1024 * 1024

def hasJsonType (request : Request) : Bool :=
  match request.contentType.bind fun header => Text.MediaType.ofText? header.toList with
  | some mediaType => mediaType.isJson
  | none => false

def rejectionOf : Fault → Rejection
  | .malformed => .malformedBody
  | .mismatch => .mismatchedBody

/-- Read the body of a request as a structure of the given shape. -/
def readBody {Content : Type} (request : Request) (shape : Shape) (required : Bool)
    (decode : Fields → Decoded Content) : Except Rejection Content :=
  if !hasJsonType request then .error .foreignContentType
  else if maximalSize < request.body.utf8ByteSize then .error .oversizedBody
  else
    let document := Document.read request.body
    match document.value.survey shape required with
    | .error fault => .error (rejectionOf fault)
    | .ok () =>
        if !document.complete then .error .malformedBody
        else
          ((document.value.fields (shape.map Prod.fst) false).bind decode).mapError rejectionOf

/-! ## Shapes -/

structure MembershipBody where
  accounts : List String
  whitelisted : Bool
deriving DecidableEq

def readMembership (request : Request) : Except Rejection MembershipBody :=
  readBody request
    [("accounts", checked decodeTexts), ("whitelisted", checked Value.decodeBool)] true
    fun fields => return {
      accounts := ← fields.required "accounts" decodeTexts
      whitelisted := ← fields.required "whitelisted" Value.decodeBool }

def readEnabled (request : Request) : Except Rejection Bool :=
  readBody request [("enabled", checked Value.decodeBool)] true fun fields =>
    fields.required "enabled" Value.decodeBool

structure ExemptionsBody where
  asset : String
  accounts : List String
  exempt : List Bool
deriving DecidableEq

def decodeFlags : Value → Decoded (List Bool) :=
  Value.decodeList Value.decodeBool

def readExemptions (request : Request) : Except Rejection ExemptionsBody :=
  readBody request
    [("asset", checked Value.decodeText), ("accounts", checked decodeTexts),
      ("exempt", checked decodeFlags)] true
    fun fields => return {
      asset := ← fields.required "asset" Value.decodeText
      accounts := ← fields.required "accounts" decodeTexts
      exempt := ← fields.required "exempt" decodeFlags }

/-- Limits may leave out any field. -/
def readLimits (request : Request) : Except Rejection LimitSettings :=
  readBody request
    [("max_transfer_amount", checked Value.decodeText),
      ("cooldown_secs", checked Seconds.decode),
      ("period_limit", checked Value.decodeText),
      ("period_duration_secs", checked Seconds.decode)] false
    LimitSettings.ofFields

structure ChecksBody where
  limitChecks : Bool
  whitelistChecks : Bool
deriving DecidableEq

def readChecks (request : Request) : Except Rejection ChecksBody :=
  readBody request
    [("limit_checks_enabled", checked Value.decodeBool),
      ("whitelist_checks_enabled", checked Value.decodeBool)] true
    fun fields => return {
      limitChecks := ← fields.required "limit_checks_enabled" Value.decodeBool
      whitelistChecks := ← fields.required "whitelist_checks_enabled" Value.decodeBool }

end Turnstile.Admin
