import Turnstile.Standing
import Turnstile.Wire.Scalar

namespace Turnstile

/-! JSON forms of limits and of standings. -/

open Json

namespace Limits

def fieldNames : List String :=
  ["max_transfer_amount", "cooldown_period", "period_limit", "period_duration"]

def encode (limits : Limits) : Value :=
  .record [
    ("max_transfer_amount", limits.cap.encode),
    ("cooldown_period", Seconds.encode limits.cooldown),
    ("period_limit", limits.quota.encode),
    ("period_duration", Seconds.encode limits.period)]

def decode (value : Value) : Decoded Limits := do
  let fields ← value.fields fieldNames false
  return {
    cap := ← fields.required "max_transfer_amount" Amount.decode
    cooldown := ← fields.required "cooldown_period" Seconds.decode
    quota := ← fields.required "period_limit" Amount.decode
    period := ← fields.required "period_duration" Seconds.decode }

end Limits

namespace Standing

def fieldNames : List String :=
  ["custom", "has_custom_cap", "has_custom_cooldown", "has_custom_period", "exempt",
    "last_transfer_at", "period_total", "period_reset_at"]

def encode (standing : Standing) : Value :=
  .record [
    ("custom", standing.overrides.values.encode),
    ("has_custom_cap", .bool standing.overrides.hasCap),
    ("has_custom_cooldown", .bool standing.overrides.hasCooldown),
    ("has_custom_period", .bool standing.overrides.hasPeriod),
    ("exempt", .bool standing.exempt),
    ("last_transfer_at", Seconds.encode standing.lastTransferAt),
    ("period_total", standing.window.total.encode),
    ("period_reset_at", Seconds.encode standing.window.resetAt)]

def decode (value : Value) : Decoded Standing := do
  let fields ← value.fields fieldNames false
  let overrides : Overrides := {
    values := ← fields.required "custom" Limits.decode
    hasCap := ← fields.required "has_custom_cap" Value.decodeBool
    hasCooldown := ← fields.required "has_custom_cooldown" Value.decodeBool
    hasPeriod := ← fields.required "has_custom_period" Value.decodeBool }
  let exempt ← fields.required "exempt" Value.decodeBool
  let lastTransferAt ← fields.required "last_transfer_at" Seconds.decode
  let window : Window := {
    total := ← fields.required "period_total" Amount.decode
    resetAt := ← fields.required "period_reset_at" Seconds.decode }
  return { overrides, exempt, lastTransferAt, window }

end Standing

end Turnstile
