import Turnstile.Json.Writer
import Turnstile.Snapshot
import Turnstile.Wire.Standing

namespace Turnstile

/-! JSON forms of snapshots, and the texts they are stored as. -/

open Json

def encodeList {Item : Type} (encode : Item → Value) (items : List Item) : Value :=
  .array (items.map encode)

namespace Whitelist.Snapshot

def encode (snapshot : Whitelist.Snapshot) : Value :=
  .record [
    ("enabled", .bool snapshot.enabled),
    ("members", encodeList Address.encode snapshot.members),
    ("roles", encodeList Grant.encode snapshot.roles)]

def decode (source : Source) (value : Value) : Decoded Whitelist.Snapshot := do
  let fields ← value.fields ["enabled", "members", "roles"] false
  return {
    enabled := ← fields.required "enabled" Value.decodeBool
    members := ← fields.required "members" (Value.decodeList (Address.decode source))
    roles := ← fields.required "roles" (Value.decodeList (Grant.decode source)) }

end Whitelist.Snapshot

namespace Limiter.Snapshot

def encodeDefault (entry : Address × Limits) : Value :=
  .record [("asset", entry.1.encode), ("limits", entry.2.encode)]

def decodeDefault (source : Source) (value : Value) : Decoded (Address × Limits) := do
  let fields ← value.fields ["asset", "limits"] false
  return (← fields.required "asset" (Address.decode source),
    ← fields.required "limits" Limits.decode)

def encodeStanding (entry : Position × Standing) : Value :=
  .record [
    ("asset", entry.1.asset.encode),
    ("account", entry.1.account.encode),
    ("state", entry.2.encode)]

def decodeStanding (source : Source) (value : Value) : Decoded (Position × Standing) := do
  let fields ← value.fields ["asset", "account", "state"] false
  let position : Position := {
    asset := ← fields.required "asset" (Address.decode source)
    account := ← fields.required "account" (Address.decode source) }
  return (position, ← fields.required "state" Standing.decode)

def encode (snapshot : Limiter.Snapshot) : Value :=
  .record [
    ("defaults", encodeList encodeDefault snapshot.defaults),
    ("principals", encodeList encodeStanding snapshot.standings),
    ("roles", encodeList Grant.encode snapshot.roles)]

def decode (source : Source) (value : Value) : Decoded Limiter.Snapshot := do
  let fields ← value.fields ["defaults", "principals", "roles"] false
  return {
    defaults := ← fields.required "defaults" (Value.decodeList (decodeDefault source))
    standings := ← fields.required "principals" (Value.decodeList (decodeStanding source))
    roles := ← fields.required "roles" (Value.decodeList (Grant.decode source)) }

end Limiter.Snapshot

namespace Switches

def encode (switches : Switches) : Value :=
  .record [
    ("paused", .bool switches.paused),
    ("whitelist_checks_enabled", .bool switches.whitelistChecks),
    ("limit_checks_enabled", .bool switches.limitChecks),
    ("version", .natural switches.version.toNat)]

def decode (value : Value) : Decoded Switches := do
  let fields ← value.fields
    ["paused", "whitelist_checks_enabled", "limit_checks_enabled", "version"] false
  return {
    paused := ← fields.required "paused" Value.decodeBool
    whitelistChecks := ← fields.required "whitelist_checks_enabled" Value.decodeBool
    limitChecks := ← fields.required "limit_checks_enabled" Value.decodeBool
    version := UInt64.ofNat (← fields.required "version" (Value.decodeBelow UInt64.size)) }

end Switches

namespace Gate.Snapshot

def encodeBalance (record : Position × Amount) : Value :=
  .record [
    ("asset", record.1.asset.encode),
    ("account", record.1.account.encode),
    ("amount", record.2.encode)]

def decodeBalance (source : Source) (value : Value) : Decoded (Position × Amount) := do
  let fields ← value.fields ["asset", "account", "amount"] false
  let position : Position := {
    asset := ← fields.required "asset" (Address.decode source)
    account := ← fields.required "account" (Address.decode source) }
  return (position, ← fields.required "amount" Amount.decode)

def encode (snapshot : Gate.Snapshot) : Value :=
  .record [
    ("settings", snapshot.switches.encode),
    ("roles", encodeList Grant.encode snapshot.roles),
    ("balances", encodeList encodeBalance snapshot.balances)]

def decode (source : Source) (value : Value) : Decoded Gate.Snapshot := do
  let fields ← value.fields ["settings", "roles", "balances"] false
  return {
    switches := ← fields.required "settings" Switches.decode
    roles := ← fields.required "roles" (Value.decodeList (Grant.decode source))
    balances := ← fields.required "balances" (Value.decodeList (decodeBalance source)) }

end Gate.Snapshot

namespace Snapshot

def encode (snapshot : Snapshot) : Value :=
  .record [
    ("version", .natural snapshot.version.toNat),
    ("taken_at", Seconds.encode snapshot.takenAt),
    ("whitelist", snapshot.whitelist.encode),
    ("limiter", snapshot.limiter.encode),
    ("gate", snapshot.gate.encode)]

/-- Decode a snapshot from the text that it is stored as. -/
def decode (value : Value) : Decoded Snapshot := do
  let fields ← value.fields ["version", "taken_at", "whitelist", "limiter", "gate"] false
  return {
    version := UInt32.ofNat (← fields.required "version" (Value.decodeBelow UInt32.size))
    takenAt := ← fields.required "taken_at" Seconds.decode
    whitelist := ← fields.required "whitelist" (Whitelist.Snapshot.decode .text)
    limiter := ← fields.required "limiter" (Limiter.Snapshot.decode .text)
    gate := ← fields.required "gate" (Gate.Snapshot.decode .text) }

/-! ## Stored texts -/

/-- Why a stored text is not taken for a snapshot. -/
inductive LoadFailure where
  | encoding
  | version (found : UInt32)
deriving DecidableEq

def LoadFailure.message : LoadFailure → String
  | .encoding => "snapshot encoding error"
  | .version found =>
      "unsupported snapshot version " ++ Text.decimal found.toNat ++ ", expected " ++
        Text.decimal currentVersion.toNat

/-- The text that a snapshot is stored as. -/
def toText (snapshot : Snapshot) : String :=
  snapshot.encode.toLines

/-- Read a stored text. Its version is looked at last. -/
def ofText (text : String) : Except LoadFailure Snapshot :=
  let document := Document.read text
  match decode document.value with
  | .ok snapshot =>
      if !document.complete then .error .encoding
      else if snapshot.version = currentVersion then .ok snapshot
      else .error (.version snapshot.version)
  | .error _ => .error .encoding

end Snapshot

end Turnstile
