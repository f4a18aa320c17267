import Turnstile.Admin.Response
import Turnstile.Wire.Configuration

namespace Turnstile.Admin

/-! JSON forms of what administrators are answered. Amounts are written as in
configurations. -/

open Json

def softwareVersion : String := "0.1.0"

def StatusReport.encode (report : StatusReport) : Value :=
  .record [
    ("version", .ofText softwareVersion),
    ("identity", report.identity.encode),
    ("operator", report.operator.encode),
    ("settings", report.switches.encode),
    ("whitelist_enabled", .bool report.whitelistEnabled),
    ("whitelist_members", .natural report.whitelistMembers),
    ("tracked_principals", .natural report.trackedPositions)]

def encodeLimits (limits : Limits) : Value :=
  (LimitSettings.ofLimits limits).encode

def PositionReport.encode (report : PositionReport) : Value :=
  .record [
    ("asset", report.view.position.asset.encode),
    ("account", report.view.position.account.encode),
    ("balance", .ofText report.balance.toDecimal),
    ("whitelisted", .bool report.whitelisted),
    ("allowed_sender", .bool report.allowedSender),
    ("exempt", .bool report.view.exempt),
    ("limits", encodeLimits report.view.limits),
    ("remaining_allowance", .ofText report.view.remaining.toSetting),
    ("period_reset_at", Seconds.encode report.view.periodResetAt),
    ("next_valid_transfer_time", Seconds.encode report.view.nextValidTransferTime)]

def encodePath : Option String → Value
  | some path => .ofText path
  | none => .null

def Answer.encode : Answer → Value
  | .status report => report.encode
  | .position report => report.encode
  | .limits shown => encodeLimits shown
  | .switches shown => shown.encode
  | .saved path => .record [("path", encodePath path)]
  | .done => .record [("ok", .bool true)]

def encodeExplanation (explanation : String × String) : Value :=
  .record [("error", .ofText explanation.1), ("message", .ofText explanation.2)]

/-- The body of a response, if it has one. -/
def Response.body? (response : Response) : Option Value :=
  if response.bodiless then none
  else
    match response.reply with
    | .ok answer => some answer.encode
    | .error rejection => rejection.explanation?.map encodeExplanation

end Turnstile.Admin
