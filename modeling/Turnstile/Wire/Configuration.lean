import Turnstile.Configuration.Flaw
import Turnstile.Toml.Document
import Turnstile.Wire.Snapshot

namespace Turnstile

/-! JSON forms of configurations, and configurations in TOML. A section may also be
written as an array of its fields; in TOML such an array may have items to spare, which
is what `surplus` says. -/

open Json

namespace LimitSettings

def fieldNames : List String :=
  ["max_transfer_amount", "cooldown_secs", "period_limit", "period_duration_secs"]

def encodedFields (settings : LimitSettings) : List (String × Value) :=
  [("max_transfer_amount", .ofText settings.cap),
    ("cooldown_secs", Seconds.encode settings.cooldown),
    ("period_limit", .ofText settings.quota),
    ("period_duration_secs", Seconds.encode settings.period)]

def encode (settings : LimitSettings) : Value :=
  .record settings.encodedFields

def ofFields (fields : Fields) : Decoded LimitSettings := do
  return {
    cap := ← fields.optional "max_transfer_amount" Value.decodeText "max"
    cooldown := ← fields.optional "cooldown_secs" Seconds.decode 0
    quota := ← fields.optional "period_limit" Value.decodeText "max"
    period := ← fields.optional "period_duration_secs" Seconds.decode Limits.defaultPeriod }

def decode (surplus : Bool) (value : Value) : Decoded LimitSettings := do
  ofFields (← value.fields fieldNames surplus)

end LimitSettings

namespace AssetSettings

/-- The limits stand beside the asset, in one object. -/
def encode (settings : AssetSettings) : Value :=
  .record (("asset", .ofText settings.asset) :: settings.limits.encodedFields)

def decode : Value → Decoded AssetSettings
  | .object members => do
      let fields ← (Value.object members).fields ("asset" :: LimitSettings.fieldNames) false
      return {
        asset := ← fields.required "asset" Value.decodeText
        limits := ← LimitSettings.ofFields fields }
  | value => .error value.fault

end AssetSettings

namespace ExemptionSettings

def encode (settings : ExemptionSettings) : Value :=
  .record [("asset", .ofText settings.asset), ("account", .ofText settings.account)]

def decode (surplus : Bool) (value : Value) : Decoded ExemptionSettings := do
  let fields ← value.fields ["asset", "account"] surplus
  return {
    asset := ← fields.required "asset" Value.decodeText
    account := ← fields.required "account" Value.decodeText }

end ExemptionSettings

def decodeTexts : Value → Decoded (List String) :=
  Value.decodeList Value.decodeText

def encodeTexts (texts : List String) : Value :=
  encodeList Value.ofText texts

namespace IdentitySection

def encode (settings : IdentitySection) : Value :=
  .record [("identity", .ofText settings.identity), ("admin", .ofText settings.admin)]

def decode (surplus : Bool) (value : Value) : Decoded IdentitySection := do
  let fields ← value.fields ["identity", "admin"] surplus
  return {
    identity := ← fields.optional "identity" Value.decodeText ""
    admin := ← fields.optional "admin" Value.decodeText "" }

end IdentitySection

namespace GateSection

def encode (settings : GateSection) : Value :=
  .record [
    ("paused", .bool settings.paused),
    ("whitelist_checks_enabled", .bool settings.whitelistChecks),
    ("limit_checks_enabled", .bool settings.limitChecks),
    ("minters", encodeTexts settings.minters)]

def decode (surplus : Bool) (value : Value) : Decoded GateSection := do
  let fields ← value.fields
    ["paused", "whitelist_checks_enabled", "limit_checks_enabled", "minters"] surplus
  return {
    paused := ← fields.optional "paused" Value.decodeBool false
    whitelistChecks := ← fields.optional "whitelist_checks_enabled" Value.decodeBool true
    limitChecks := ← fields.optional "limit_checks_enabled" Value.decodeBool true
    minters := ← fields.optional "minters" decodeTexts [] }

end GateSection

namespace WhitelistSection

def encode (settings : WhitelistSection) : Value :=
  .record [
    ("enabled", .bool settings.enabled),
    ("members", encodeTexts settings.members),
    ("whitelisters", encodeTexts settings.whitelisters)]

def decode (surplus : Bool) (value : Value) : Decoded WhitelistSection := do
  let fields ← value.fields ["enabled", "members", "whitelisters"] surplus
  return {
    enabled := ← fields.optional "enabled" Value.decodeBool true
    members := ← fields.optional "members" decodeTexts []
    whitelisters := ← fields.optional "whitelisters" decodeTexts [] }

end WhitelistSection

namespace LimitsSection

def encode (settings : LimitsSection) : Value :=
  .record [
    ("fallback", settings.fallback.encode),
    ("assets", encodeList AssetSettings.encode settings.assets),
    ("managers", encodeTexts settings.managers),
    ("exemptions", encodeList ExemptionSettings.encode settings.exemptions)]

def decode (surplus : Bool) (value : Value) : Decoded LimitsSection := do
  let fields ← value.fields ["fallback", "assets", "managers", "exemptions"] surplus
  return {
    fallback := ← fields.optional "fallback" (LimitSettings.decode surplus) {}
    assets := ← fields.optional "assets" (Value.decodeList AssetSettings.decode) []
    managers := ← fields.optional "managers" decodeTexts []
    exemptions := ← fields.optional "exemptions"
      (Value.decodeList (ExemptionSettings.decode surplus)) [] }

end LimitsSection

namespace PersistenceSection

def encode (settings : PersistenceSection) : Value :=
  .record [
    ("enabled", .bool settings.enabled),
    ("snapshot_path", .ofText settings.path),
    ("snapshot_interval_secs", Seconds.encode settings.interval)]

def decode (surplus : Bool) (value : Value) : Decoded PersistenceSection := do
  let fields ← value.fields ["enabled", "snapshot_path", "snapshot_interval_secs"] surplus
  let default : PersistenceSection := {}
  return {
    enabled := ← fields.optional "enabled" Value.decodeBool default.enabled
    path := ← fields.optional "snapshot_path" Value.decodeText default.path
    interval := ← fields.optional "snapshot_interval_secs" Seconds.decode default.interval }

end PersistenceSection

namespace AdminSection

def encode (settings : AdminSection) : Value :=
  .record [
    ("enabled", .bool settings.enabled),
    ("api_key", .ofText settings.apiKey),
    ("bind_address", .ofText settings.bindAddress),
    ("operator", .ofText settings.operator),
    ("request_timeout_secs", Seconds.encode settings.requestTimeout)]

def decode (surplus : Bool) (value : Value) : Decoded AdminSection := do
  let fields ← value.fields
    ["enabled", "api_key", "bind_address", "operator", "request_timeout_secs"] surplus
  let default : AdminSection := {}
  return {
    enabled := ← fields.optional "enabled" Value.decodeBool default.enabled
    apiKey := ← fields.optional "api_key" Value.decodeText default.apiKey
    bindAddress := ← fields.optional "bind_address" Value.decodeText default.bindAddress
    operator := ← fields.optional "operator" Value.decodeText default.operator
    requestTimeout :=
      ← fields.optional "request_timeout_secs" Seconds.decode default.requestTimeout }

end AdminSection

namespace ObservabilitySection

def encode (settings : ObservabilitySection) : Value :=
  .record [
    ("log_level", .ofText settings.logLevel),
    ("metrics_enabled", .bool settings.metricsEnabled),
    ("metrics_address", .ofText settings.metricsAddress)]

def decode (surplus : Bool) (value : Value) : Decoded ObservabilitySection := do
  let fields ← value.fields ["log_level", "metrics_enabled", "metrics_address"] surplus
  let default : ObservabilitySection := {}
  return {
    logLevel := ← fields.optional "log_level" Value.decodeText default.logLevel
    metricsEnabled := ← fields.optional "metrics_enabled" Value.decodeBool
      default.metricsEnabled
    metricsAddress := ← fields.optional "metrics_address" Value.decodeText
      default.metricsAddress }

end ObservabilitySection

namespace Configuration

def encode (configuration : Configuration) : Value :=
  .record [
    ("service", configuration.service.encode),
    ("gate", configuration.gate.encode),
    ("whitelist", configuration.whitelist.encode),
    ("limits", configuration.limits.encode),
    ("persistence", configuration.persistence.encode),
    ("admin", configuration.admin.encode),
    ("observability", configuration.observability.encode)]

def decode (surplus : Bool) (value : Value) : Decoded Configuration := do
  let fields ← value.fields
    ["service", "gate", "whitelist", "limits", "persistence", "admin", "observability"] surplus
  return {
    service := ← fields.optional "service" (IdentitySection.decode surplus) {}
    gate := ← fields.optional "gate" (GateSection.decode surplus) {}
    whitelist := ← fields.optional "whitelist" (WhitelistSection.decode surplus) {}
    limits := ← fields.optional "limits" (LimitsSection.decode surplus) {}
    persistence := ← fields.optional "persistence" (PersistenceSection.decode surplus) {}
    admin := ← fields.optional "admin" (AdminSection.decode surplus) {}
    observability := ← fields.optional "observability" (ObservabilitySection.decode surplus) {} }

/-! ## TOML -/

/-- Why a text is not taken for a configuration. -/
inductive ReadFailure where
  /-- It is not TOML, or not of the shape of a configuration. -/
  | unreadable
  | flawed (flaws : List Flaw)

def ReadFailure.message : ReadFailure → String
  | .unreadable => "Parse error"
  | .flawed flaws => "Validation failed: " ++ Flaw.joinMessages ", " flaws

/-- The configuration that a TOML document describes, if it has no flaws. -/
def ofToml (text : String) : Except ReadFailure Configuration :=
  match (Toml.Value.ofText? text).map fun document => decode true document.toJson with
  | some (.ok configuration) =>
      match configuration.validate with
      | .ok () => .ok configuration
      | .error flaws => .error (.flawed flaws)
  | _ => .error .unreadable

end Configuration

end Turnstile
