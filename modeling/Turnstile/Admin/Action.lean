import Turnstile.Checkpoint

namespace Turnstile.Admin

/-! What an administrator can ask for. -/

inductive Action where
  | showStatus
  | showPosition (position : Position)
  | setMembership (accounts : List Address) (whitelisted : Bool)
  | setWhitelistEnabled (enabled : Bool)
  | setExemptions (asset : Address) (accounts : List Address) (exempt : List Bool)
  | setDefaultLimits (asset : Address) (limits : Limits)
  | setUserLimits (position : Position) (limits : Limits)
  | resetUserLimits (position : Position)
  | resetUserPeriod (position : Position)
  | setChecks (limitChecks whitelistChecks : Bool)
  | setPaused (paused : Bool)
  | save
deriving DecidableEq

/-- The command that an action comes down to, given by the operator; reading and saving
need none. -/
def Action.command? (operator : Address) : Action → Option Checkpoint.Command
  | .showStatus => none
  | .showPosition _ => none
  | .setMembership accounts whitelisted =>
      some (.whitelist operator (.setMembership accounts whitelisted))
  | .setWhitelistEnabled enabled => some (.whitelist operator (.setEnabled enabled))
  | .setExemptions asset accounts exempt =>
      some (.limiter operator (.setExemptions asset accounts exempt))
  | .setDefaultLimits asset limits =>
      some (.limiter operator (.setDefaultLimits asset limits))
  | .setUserLimits position limits =>
      some (.limiter operator (.setUserLimits position limits))
  | .resetUserLimits position => some (.limiter operator (.resetUserLimits position))
  | .resetUserPeriod position => some (.limiter operator (.resetUserPeriod position))
  | .setChecks limitChecks whitelistChecks =>
      some (.gate (.setChecks operator limitChecks whitelistChecks))
  | .setPaused paused => some (.gate (.setPaused operator paused))
  | .save => none

end Turnstile.Admin
