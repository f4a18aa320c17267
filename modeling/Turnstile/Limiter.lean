import Turnstile.Authority
import Turnstile.Standing

namespace Turnstile

/-! Limits and consumption per asset and account. Defaults belong to assets,
overrides and consumption to positions. Enforcement reads the time and the asset's
defaults first and then decides and writes in one step on the standing of one
position. -/

structure Limiter where
  /-- The limits of assets without defaults of their own. -/
  fallback : Limits
  defaults : Table Address Limits
  standings : Table Position Standing
  authority : Authority
deriving DecidableEq, Inhabited

namespace Limiter

def founded (admin : Address) (fallback : Limits) : Except Refusal Limiter := do
  fallback.check
  let authority ← Authority.founded admin
  return { fallback, defaults := .empty, standings := .empty, authority }

/-! ## Reads -/

def defaultLimits (limiter : Limiter) (asset : Address) : Limits :=
  (limiter.defaults.get? asset).getD limiter.fallback

/-- The stored standing, `none` if the position was never touched. -/
def standing? (limiter : Limiter) (position : Position) : Option Standing :=
  limiter.standings.get? position

def standing (limiter : Limiter) (position : Position) : Standing :=
  (limiter.standing? position).getD .fresh

def trackedPositions (limiter : Limiter) : Nat :=
  limiter.standings.size

def isExempt (limiter : Limiter) (position : Position) : Bool :=
  (limiter.standing position).exempt

/-- The limits in force at a position, exemption aside. -/
def enforcedLimits (limiter : Limiter) (position : Position) : Limits :=
  (limiter.standing position).limits (limiter.defaultLimits position.asset)

/-- The limits in force at a position. An exempt account has only a period. -/
def effectiveLimits (limiter : Limiter) (position : Position) : Limits :=
  let enforced := limiter.enforcedLimits position
  if limiter.isExempt position then { Limits.unlimited with period := enforced.period }
  else enforced

def allowsAmount (limiter : Limiter) (position : Position) (amount : Amount) : Bool :=
  limiter.isExempt position || decide (amount ≤ (limiter.enforcedLimits position).cap)

/-- What is left of the quota and when it is renewed. A window that has ended, or was
never opened, counts as opened now. -/
def remainingAllowance (limiter : Limiter) (position : Position) (now : Seconds) :
    Amount × Seconds :=
  if limiter.isExempt position then (.unlimited, 0)
  else
    let standing := limiter.standing position
    let limits := limiter.enforcedLimits position
    (standing.remaining limits now, (standing.windowAt limits.period now).resetAt)

/-- Zero if a transfer would pass the cooldown now, else the time from which it will. -/
def nextValidTransferTime (limiter : Limiter) (position : Position) (now : Seconds) :
    Seconds :=
  if limiter.isExempt position then 0
  else
    ((limiter.standing position).waitUntil?
      (limiter.enforcedLimits position).cooldown now).getD 0

/-- What an operator wants to know about one position. -/
structure View where
  position : Position
  exempt : Bool
  limits : Limits
  remaining : Amount
  periodResetAt : Seconds
  nextValidTransferTime : Seconds
deriving DecidableEq

def view (limiter : Limiter) (position : Position) (now : Seconds) : View :=
  let allowance := limiter.remainingAllowance position now
  { position
    exempt := limiter.isExempt position
    limits := limiter.effectiveLimits position
    remaining := allowance.1
    periodResetAt := allowance.2
    nextValidTransferTime := limiter.nextValidTransferTime position now }

/-! ## Writes -/

def withStanding (limiter : Limiter) (position : Position) (standing : Standing) : Limiter :=
  { limiter with standings := limiter.standings.insert position standing }

/-- Keep a record for the position from now on. -/
def touch (limiter : Limiter) (position : Position) : Limiter :=
  limiter.withStanding position (limiter.standing position)

/-- Change the standing of a position, if there is a record of it. -/
def amend (limiter : Limiter) (position : Position) (change : Standing → Standing) :
    Limiter :=
  match limiter.standing? position with
  | some standing => limiter.withStanding position (change standing)
  | none => limiter

theorem standing?_withStanding (limiter : Limiter) (position sought : Position)
    (standing : Standing) :
    (limiter.withStanding position standing).standing? sought =
      if position = sought then some standing else limiter.standing? sought := by
  simpa only [rank_eq_iff, standing?, withStanding] using
    limiter.standings.get?_insert position sought standing

theorem standing_withStanding (limiter : Limiter) (position sought : Position)
    (standing : Standing) :
    (limiter.withStanding position standing).standing sought =
      if position = sought then standing else limiter.standing sought := by
  rw [Limiter.standing, standing?_withStanding]
  split <;> rfl

@[simp] theorem standing_touch (limiter : Limiter) (position sought : Position) :
    (limiter.touch position).standing sought = limiter.standing sought := by
  rw [touch, standing_withStanding]
  split
  next same => rw [same]
  next => rfl

def tracking (limiter : Limiter) : List Reading :=
  [.trackedPositions limiter.trackedPositions]

/-! ### Defaults -/

def updateDefaults (limiter : Limiter) (caller asset : Address)
    (change : Limits → Limits) : Outcome Limiter :=
  let limits := change (limiter.defaultLimits asset)
  .guarded limiter (limiter.authority.require .admin caller) <|
    .accepted { limiter with defaults := limiter.defaults.insert asset limits }
      [.defaultLimitsUpdated asset limits] []

def setDefaultCap (limiter : Limiter) (caller asset : Address) (cap : Amount) :
    Outcome Limiter :=
  .guarded limiter (checkPositive cap) <|
    limiter.updateDefaults caller asset fun limits => { limits with cap }

def setDefaultCooldown (limiter : Limiter) (caller asset : Address) (cooldown : Seconds) :
    Outcome Limiter :=
  limiter.updateDefaults caller asset fun limits => { limits with cooldown }

def setDefaultPeriod (limiter : Limiter) (caller asset : Address) (quota : Amount)
    (period : Seconds) : Outcome Limiter :=
  .guarded limiter (checkPeriod quota period) <|
    limiter.updateDefaults caller asset fun limits => { limits with quota, period }

def setDefaultLimits (limiter : Limiter) (caller asset : Address) (limits : Limits) :
    Outcome Limiter :=
  .guarded limiter limits.check <| limiter.updateDefaults caller asset fun _ => limits

/-! ### Overrides -/

def updateOverrides (limiter : Limiter) (caller : Address) (position : Position)
    (change : Overrides → Overrides) : Outcome Limiter :=
  let standing := limiter.standing position
  let changed := { standing with overrides := change standing.overrides }
  let limits := changed.limits (limiter.defaultLimits position.asset)
  let updated := limiter.withStanding position changed
  .guarded limiter (limiter.authority.require .limitManager caller) <|
    .accepted updated [.userLimitsUpdated position.asset position.account limits]
      updated.tracking

def setUserCap (limiter : Limiter) (caller : Address) (position : Position)
    (cap : Amount) : Outcome Limiter :=
  .guarded limiter (checkPositive cap) <|
    limiter.updateOverrides caller position fun overrides => overrides.setCap cap

def setUserCooldown (limiter : Limiter) (caller : Address) (position : Position)
    (cooldown : Seconds) : Outcome Limiter :=
  limiter.updateOverrides caller position fun overrides => overrides.setCooldown cooldown

def setUserPeriod (limiter : Limiter) (caller : Address) (position : Position)
    (quota : Amount) (period : Seconds) : Outcome Limiter :=
  .guarded limiter (checkPeriod quota period) <|
    limiter.updateOverrides caller position fun overrides => overrides.setPeriod quota period

def setUserLimits (limiter : Limiter) (caller : Address) (position : Position)
    (limits : Limits) : Outcome Limiter :=
  .guarded limiter limits.check <|
    limiter.updateOverrides caller position fun _ => .setAll limits

/-- Lower every override of a position; what it has consumed stays. -/
def resetUserLimits (limiter : Limiter) (caller : Address) (position : Position) :
    Outcome Limiter :=
  .guarded limiter (limiter.authority.require .limitManager caller) <|
    .accepted (limiter.amend position Standing.clearOverrides)
      [.userLimitsReset position.asset position.account] []

/-- Close the accounting window of a position. -/
def resetUserPeriod (limiter : Limiter) (caller : Address) (position : Position) :
    Outcome Limiter :=
  .guarded limiter (limiter.authority.require .limitManager caller) <|
    .accepted (limiter.amend position Standing.resetWindow)
      [.userPeriodReset position.asset position.account] []

/-! ### Exemptions -/

def withExemption (limiter : Limiter) (position : Position) (exempt : Bool) : Limiter :=
  limiter.withStanding position { limiter.standing position with exempt }

def checkSameLength {First Second : Type} (first : List First) (second : List Second) :
    Except Refusal Unit :=
  if first.length = second.length then .ok ()
  else .error (.invalidArgument (.lengthMismatch first.length second.length))

/-- Exempt each account, or end its exemption, as the flag beside it says. -/
def setExemptions (limiter : Limiter) (caller asset : Address) (accounts : List Address)
    (exempt : List Bool) : Outcome Limiter :=
  let changes := accounts.zip exempt
  let updated := changes.foldl
    (fun limiter change => limiter.withExemption ⟨asset, change.1⟩ change.2) limiter
  .guarded limiter (limiter.authority.require .admin caller) <|
    .guarded limiter (checkSameLength accounts exempt) <|
      .accepted updated
        (changes.map fun change => .exemptionUpdated asset change.1 change.2)
        updated.tracking

/-! ### Enforcement -/

/-- Decide on the standing of a position under the given limits of its asset, and
write the decision. An exempt account always passes and nothing is decided. A
refusal leaves the standing as it is, but it does leave a record. -/
def commit (limiter : Limiter) (position : Position) (defaults : Limits)
    (judge : Standing → Limits → Except Refusal Standing)
    (report : Limiter → Standing → Outcome Limiter) : Outcome Limiter :=
  let standing := limiter.standing position
  if standing.exempt then .accepted (limiter.touch position) [] []
  else
    match judge standing (standing.limits defaults) with
    | .error refusal => .refused (limiter.touch position) refusal
    | .ok judged => report (limiter.withStanding position judged) judged

def reportNothing (limiter : Limiter) (_ : Standing) : Outcome Limiter :=
  .accepted limiter [] []

def reportConsumption (position : Position) (amount : Amount) (limiter : Limiter)
    (standing : Standing) : Outcome Limiter :=
  .accepted limiter
    [.transferRecorded position.asset position.account amount standing.window.total]
    limiter.tracking

/-- Pass the cooldown and start it anew. -/
def enforceCooldown (limiter : Limiter) (now : Seconds) (caller : Address)
    (position : Position) : Outcome Limiter :=
  .guarded limiter (limiter.authority.require .caller caller) <|
    limiter.commit position (limiter.defaultLimits position.asset)
      (fun standing limits => standing.pace limits now) reportNothing

/-- Take the amount out of the quota. -/
def recordTransfer (limiter : Limiter) (now : Seconds) (caller : Address)
    (position : Position) (amount : Amount) : Outcome Limiter :=
  .guarded limiter (limiter.authority.require .caller caller) <|
    limiter.commit position (limiter.defaultLimits position.asset)
      (fun standing limits => standing.consume limits amount now)
      (reportConsumption position amount)

/-- The second half of `charge`: cap, cooldown and quota under defaults and a time that
were read before. -/
def commitCharge (limiter : Limiter) (defaults : Limits) (now : Seconds)
    (position : Position) (amount : Amount) : Outcome Limiter :=
  limiter.commit position defaults
    (fun standing limits => standing.charge limits amount now)
    (reportConsumption position amount)

/-- Cap, cooldown and quota in one step. -/
def charge (limiter : Limiter) (now : Seconds) (caller : Address) (position : Position)
    (amount : Amount) : Outcome Limiter :=
  .guarded limiter (limiter.authority.require .caller caller) <|
    limiter.commitCharge (limiter.defaultLimits position.asset) now position amount

def assignRole (limiter : Limiter) (caller : Address) (role : Role) (account : Address)
    (held : Bool) : Outcome Limiter :=
  limiter.authority.reassign limiter (fun authority => { limiter with authority })
    caller role account held

/-! ## Commands -/

inductive Command where
  | assignManager (account : Address) (held : Bool)
  | assignCaller (account : Address) (held : Bool)
  | setDefaultCap (asset : Address) (cap : Amount)
  | setDefaultCooldown (asset : Address) (cooldown : Seconds)
  | setDefaultPeriod (asset : Address) (quota : Amount) (period : Seconds)
  | setDefaultLimits (asset : Address) (limits : Limits)
  | setUserCap (position : Position) (cap : Amount)
  | setUserCooldown (position : Position) (cooldown : Seconds)
  | setUserPeriod (position : Position) (quota : Amount) (period : Seconds)
  | setUserLimits (position : Position) (limits : Limits)
  | resetUserLimits (position : Position)
  | resetUserPeriod (position : Position)
  | setExemptions (asset : Address) (accounts : List Address) (exempt : List Bool)
  | enforceCooldown (position : Position)
  | recordTransfer (position : Position) (amount : Amount)
  | charge (position : Position) (amount : Amount)
deriving DecidableEq

/-- The role that a command asks of its caller. -/
def Command.role : Command → Role
  | .setUserCap .. | .setUserCooldown .. | .setUserPeriod .. | .setUserLimits .. => .limitManager
  | .resetUserLimits _ | .resetUserPeriod _ => .limitManager
  | .enforceCooldown _ | .recordTransfer .. | .charge .. => .caller
  | .assignManager .. | .assignCaller .. | .setExemptions .. => .admin
  | .setDefaultCap .. | .setDefaultCooldown .. | .setDefaultPeriod .. => .admin
  | .setDefaultLimits .. => .admin

def perform (limiter : Limiter) (now : Seconds) (caller : Address) :
    Command → Outcome Limiter
  | .assignManager account held => limiter.assignRole caller .limitManager account held
  | .assignCaller account held => limiter.assignRole caller .caller account held
  | .setDefaultCap asset cap => limiter.setDefaultCap caller asset cap
  | .setDefaultCooldown asset cooldown => limiter.setDefaultCooldown caller asset cooldown
  | .setDefaultPeriod asset quota period => limiter.setDefaultPeriod caller asset quota period
  | .setDefaultLimits asset limits => limiter.setDefaultLimits caller asset limits
  | .setUserCap position cap => limiter.setUserCap caller position cap
  | .setUserCooldown position cooldown => limiter.setUserCooldown caller position cooldown
  | .setUserPeriod position quota period => limiter.setUserPeriod caller position quota period
  | .setUserLimits position limits => limiter.setUserLimits caller position limits
  | .resetUserLimits position => limiter.resetUserLimits caller position
  | .resetUserPeriod position => limiter.resetUserPeriod caller position
  | .setExemptions asset accounts exempt => limiter.setExemptions caller asset accounts exempt
  | .enforceCooldown position => limiter.enforceCooldown now caller position
  | .recordTransfer position amount => limiter.recordTransfer now caller position amount
  | .charge position amount => limiter.charge now caller position amount

/-! ## Snapshots -/

/-- What of a limiter survives a restart. The fallback is not part of it. Of several
records for one key the last counts. -/
structure Snapshot where
  defaults : List (Address × Limits)
  standings : List (Position × Standing)
  roles : List Grant
deriving DecidableEq, Inhabited

def snapshot (limiter : Limiter) : Snapshot where
  defaults := limiter.defaults.entries
  standings := limiter.standings.entries
  roles := limiter.authority.toList

def ofSnapshot (fallback : Limits) (snapshot : Snapshot) : Limiter where
  fallback := fallback
  defaults := Table.ofList snapshot.defaults
  standings := Table.ofList snapshot.standings
  authority := Authority.ofGrants snapshot.roles

/-- What is recorded when a limiter is restored. -/
def restoredReadings (limiter : Limiter) : List Reading :=
  limiter.tracking

end Limiter

end Turnstile
