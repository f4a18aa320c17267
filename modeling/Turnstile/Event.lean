import Turnstile.Limits

namespace Turnstile

/-! State changes as an observer sees them. -/

/-- A component that the gate relies on and that can be exchanged. -/
inductive Collaborator where
  | whitelist
  | limiter
deriving DecidableEq, Inhabited

namespace Collaborator

def all : List Collaborator := [.whitelist, .limiter]

def name : Collaborator → String
  | .whitelist => "whitelist_manager"
  | .limiter => "transfer_limiter"

def ofName? (text : String) : Option Collaborator :=
  all.find? fun collaborator => collaborator.name = text

@[simp] theorem ofName?_name (collaborator : Collaborator) :
    ofName? collaborator.name = some collaborator := by
  cases collaborator <;> decide

end Collaborator

inductive Event where
  | whitelistUpdated (account : Address) (whitelisted : Bool)
  | whitelistingToggled (enabled : Bool)
  | roleGranted (role : Role) (account sender : Address)
  | roleRevoked (role : Role) (account sender : Address)
  | defaultLimitsUpdated (asset : Address) (limits : Limits)
  | userLimitsUpdated (asset account : Address) (limits : Limits)
  | userLimitsReset (asset account : Address)
  | userPeriodReset (asset account : Address)
  | exemptionUpdated (asset account : Address) (exempt : Bool)
  | transferRecorded (asset account : Address) (amount periodTotal : Amount)
  | configUpdated (limitChecks whitelistChecks : Bool)
  | paused (account : Address)
  | unpaused (account : Address)
  | collaboratorReplaced (collaborator : Collaborator)
  | tokensRecovered (asset destination : Address) (amount : Amount)
  /-- Minted amounts come from the null identity and burned amounts go to it. -/
  | transfer (asset source destination : Address) (amount : Amount)
deriving DecidableEq

instance : Inhabited Event := ⟨.whitelistingToggled false⟩

/-- The name of an event's kind. -/
def Event.kind : Event → String
  | .whitelistUpdated .. => "whitelist_updated"
  | .whitelistingToggled .. => "whitelisting_toggled"
  | .roleGranted .. => "role_granted"
  | .roleRevoked .. => "role_revoked"
  | .defaultLimitsUpdated .. => "default_limits_updated"
  | .userLimitsUpdated .. => "user_limits_updated"
  | .userLimitsReset .. => "user_limits_reset"
  | .userPeriodReset .. => "user_period_reset"
  | .exemptionUpdated .. => "exemption_updated"
  | .transferRecorded .. => "transfer_recorded"
  | .configUpdated .. => "config_updated"
  | .paused .. => "paused"
  | .unpaused .. => "unpaused"
  | .collaboratorReplaced .. => "collaborator_replaced"
  | .tokensRecovered .. => "tokens_recovered"
  | .transfer .. => "transfer"

/-! ## Subscriptions -/

/-- How many events a subscriber that reads nothing can fall behind. -/
def Event.backlog : Nat := 1024

/-- What a subscriber reads after the given events were published: how many of the
oldest it has lost, and the rest. -/
def Event.received (published : List Event) : Nat × List Event :=
  let lost := published.length - backlog
  (lost, published.drop lost)

end Turnstile
