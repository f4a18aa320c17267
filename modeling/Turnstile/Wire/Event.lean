import Turnstile.Event
import Turnstile.Wire.Standing

namespace Turnstile

/-! JSON forms of events: an object with a tag under the name `event`, which tells what
has happened, and the fields of such an event. A reader finds the tag wherever it stands;
it also takes an array that starts with the tag. -/

open Json

/-- A name of capitalized words as it is written in small letters, with a mark between
the words. -/
def Text.snakeCase (name : String) : String :=
  match name.toList with
  | [] => ""
  | first :: rest =>
      String.ofList (first.toLower :: rest.flatMap fun char =>
        if char.isUpper then ['_', char.toLower] else [char.toLower])

namespace Collaborator

def encode (collaborator : Collaborator) : Value :=
  .ofText collaborator.name

def decode (value : Value) : Decoded Collaborator := do
  match ofName? (← value.decodeName) with
  | some collaborator => .ok collaborator
  | none => .error .mismatch

end Collaborator

namespace Event

def encodedFields : Event → List (String × Value)
  | .whitelistUpdated account whitelisted =>
      [("account", account.encode), ("whitelisted", .bool whitelisted)]
  | .whitelistingToggled enabled => [("enabled", .bool enabled)]
  | .roleGranted role account sender =>
      [("role", role.encode), ("account", account.encode), ("sender", sender.encode)]
  | .roleRevoked role account sender =>
      [("role", role.encode), ("account", account.encode), ("sender", sender.encode)]
  | .defaultLimitsUpdated asset limits =>
      [("asset", asset.encode), ("limits", limits.encode)]
  | .userLimitsUpdated asset account limits =>
      [("asset", asset.encode), ("account", account.encode), ("limits", limits.encode)]
  | .userLimitsReset asset account =>
      [("asset", asset.encode), ("account", account.encode)]
  | .userPeriodReset asset account =>
      [("asset", asset.encode), ("account", account.encode)]
  | .exemptionUpdated asset account exempt =>
      [("asset", asset.encode), ("account", account.encode), ("exempt", .bool exempt)]
  | .transferRecorded asset account amount periodTotal =>
      [("asset", asset.encode), ("account", account.encode), ("amount", amount.encode),
        ("period_total", periodTotal.encode)]
  | .configUpdated limitChecks whitelistChecks =>
      [("limit_checks_enabled", .bool limitChecks),
        ("whitelist_checks_enabled", .bool whitelistChecks)]
  | .paused account => [("account", account.encode)]
  | .unpaused account => [("account", account.encode)]
  | .collaboratorReplaced collaborator => [("collaborator", collaborator.encode)]
  | .tokensRecovered asset destination amount =>
      [("asset", asset.encode), ("to", destination.encode), ("amount", amount.encode)]
  | .transfer asset source destination amount =>
      [("asset", asset.encode), ("from", source.encode), ("to", destination.encode),
        ("amount", amount.encode)]

/-- What has happened, in capitalized words. -/
def title : Event → String
  | .whitelistUpdated .. => "WhitelistUpdated"
  | .whitelistingToggled .. => "WhitelistingToggled"
  | .roleGranted .. => "RoleGranted"
  | .roleRevoked .. => "RoleRevoked"
  | .defaultLimitsUpdated .. => "DefaultLimitsUpdated"
  | .userLimitsUpdated .. => "UserLimitsUpdated"
  | .userLimitsReset .. => "UserLimitsReset"
  | .userPeriodReset .. => "UserPeriodReset"
  | .exemptionUpdated .. => "ExemptionUpdated"
  | .transferRecorded .. => "TransferRecorded"
  | .configUpdated .. => "ConfigUpdated"
  | .paused .. => "Paused"
  | .unpaused .. => "Unpaused"
  | .collaboratorReplaced .. => "CollaboratorReplaced"
  | .tokensRecovered .. => "TokensRecovered"
  | .transfer .. => "Transfer"

/-- The name that an event is told by. It is made from the title; names of kinds are
written down for themselves. -/
def tag (event : Event) : String :=
  Text.snakeCase event.title

def encode (event : Event) : Value :=
  .record (("event", .ofText event.tag) :: event.encodedFields)

/-- The names of the fields of a kind, in their order. -/
def fieldNames : (kind : String) → List String
  | "whitelist_updated" => ["account", "whitelisted"]
  | "whitelisting_toggled" => ["enabled"]
  | "role_granted" => ["role", "account", "sender"]
  | "role_revoked" => ["role", "account", "sender"]
  | "default_limits_updated" => ["asset", "limits"]
  | "user_limits_updated" => ["asset", "account", "limits"]
  | "user_limits_reset" => ["asset", "account"]
  | "user_period_reset" => ["asset", "account"]
  | "exemption_updated" => ["asset", "account", "exempt"]
  | "transfer_recorded" => ["asset", "account", "amount", "period_total"]
  | "config_updated" => ["limit_checks_enabled", "whitelist_checks_enabled"]
  | "paused" => ["account"]
  | "unpaused" => ["account"]
  | "collaborator_replaced" => ["collaborator"]
  | "tokens_recovered" => ["asset", "to", "amount"]
  | "transfer" => ["asset", "from", "to", "amount"]
  | _ => []

/-- In an event a name that is written as an object may hold an empty object, too. -/
def withoutEmptyObject : Value → Value
  | .object [(name, .object [])] => .object [(name, .null)]
  | value => value

/-- The event of a kind with the given fields. -/
def ofFields (kind : String) (fields : Fields) : Decoded Event :=
  let address (name : String) := fields.required name (Address.decode .value)
  let amount (name : String) := fields.required name Amount.decode
  let flag (name : String) := fields.required name Value.decodeBool
  let role := fields.required "role" fun value => Role.decode (withoutEmptyObject value)
  let limits := fields.required "limits" Limits.decode
  match kind with
  | "whitelist_updated" =>
      return .whitelistUpdated (← address "account") (← flag "whitelisted")
  | "whitelisting_toggled" => return .whitelistingToggled (← flag "enabled")
  | "role_granted" =>
      return .roleGranted (← role) (← address "account") (← address "sender")
  | "role_revoked" =>
      return .roleRevoked (← role) (← address "account") (← address "sender")
  | "default_limits_updated" =>
      return .defaultLimitsUpdated (← address "asset") (← limits)
  | "user_limits_updated" =>
      return .userLimitsUpdated (← address "asset") (← address "account") (← limits)
  | "user_limits_reset" =>
      return .userLimitsReset (← address "asset") (← address "account")
  | "user_period_reset" =>
      return .userPeriodReset (← address "asset") (← address "account")
  | "exemption_updated" =>
      return .exemptionUpdated (← address "asset") (← address "account") (← flag "exempt")
  | "transfer_recorded" =>
      return .transferRecorded (← address "asset") (← address "account")
        (← amount "amount") (← amount "period_total")
  | "config_updated" =>
      return .configUpdated (← flag "limit_checks_enabled")
        (← flag "whitelist_checks_enabled")
  | "paused" => return .paused (← address "account")
  | "unpaused" => return .unpaused (← address "account")
  | "collaborator_replaced" =>
      return .collaboratorReplaced (← fields.required "collaborator" fun value =>
        Collaborator.decode (withoutEmptyObject value))
  | "tokens_recovered" =>
      return .tokensRecovered (← address "asset") (← address "to") (← amount "amount")
  | "transfer" =>
      return .transfer (← address "asset") (← address "from") (← address "to")
        (← amount "amount")
  | _ => .error .mismatch

/-- The kind and what is left for the fields. -/
def splitKind : Value → Decoded (String × Value)
  | .object members =>
      match members.filter fun member => member.1 = .text "event" with
      | [(_, kind)] => do
          let kind ← kind.decodeText
          return (kind, .object (members.filter fun member => member.1 ≠ .text "event"))
      | _ => .error .mismatch
  | .array (kind :: items) => do
      return (← kind.decodeText, .array items)
  | value => .error value.fault

/-- How deep an event may be nested with everything that is passed over in it. -/
def maximalDepth : Nat := 127

def decode (value : Value) : Decoded Event := do
  if !value.free Value.isUnreadable || maximalDepth < value.depth then .error .malformed
  else
    let (kind, content) ← splitKind value
    let fields ← content.fields (fieldNames kind) false
    ofFields kind fields

/-- Read an event from a text that holds nothing else. -/
def ofText? (text : String) : Option Event :=
  (Value.ofText? text).bind fun value => (decode value).toOption

end Event

end Turnstile
