import Turnstile.Limits

namespace Turnstile

/-! How an account stands in an asset: its overrides, its exemption, the time of its
last transfer and the accounting window it is in. Time and limits are arguments of
every decision; nothing here reads a clock.

Zero stands for "never" in both stored times. A window is rotated only when
something is consumed after its end. -/

/-- What has been consumed, and when the count starts again. -/
structure Window where
  total : Amount
  resetAt : Seconds
deriving DecidableEq, Inhabited

structure Standing where
  overrides : Overrides
  exempt : Bool
  lastTransferAt : Seconds
  window : Window
deriving DecidableEq

namespace Standing

/-- The standing of an account that nothing has touched. -/
def fresh : Standing where
  overrides := .none
  exempt := false
  lastTransferAt := 0
  window := ⟨.zero, 0⟩

instance : Inhabited Standing := ⟨fresh⟩

/-- The limits in force, exemption aside. -/
def limits (standing : Standing) (defaults : Limits) : Limits :=
  standing.overrides.apply defaults

/-! ## Cooldown -/

/-- The earliest time the next transfer may pass, `none` before the first one. -/
def nextAllowedAt? (standing : Standing) (cooldown : Seconds) : Option Seconds :=
  if standing.lastTransferAt = 0 then none
  else some (Seconds.deadline standing.lastTransferAt cooldown)

/-- The time that a transfer now would have to wait for, `none` if it need not. -/
def waitUntil? (standing : Standing) (cooldown now : Seconds) : Option Seconds :=
  (standing.nextAllowedAt? cooldown).filter (now < ·)

theorem waitUntil?_eq_ite (standing : Standing) (cooldown now : Seconds) :
    standing.waitUntil? cooldown now =
      if standing.lastTransferAt = 0 ∨
          Seconds.deadline standing.lastTransferAt cooldown ≤ now then none
      else some (Seconds.deadline standing.lastTransferAt cooldown) := by
  unfold waitUntil? nextAllowedAt?
  by_cases never : standing.lastTransferAt = 0
  · simp [never]
  · by_cases early : now < Seconds.deadline standing.lastTransferAt cooldown
    · simp [never, Option.filter, early, UInt64.not_le.mpr early]
    · simp [never, Option.filter, early, UInt64.not_lt.mp early]

def checkCooldown (standing : Standing) (cooldown now : Seconds) : Except Refusal Unit :=
  match standing.waitUntil? cooldown now with
  | some next => .error (.cooldownNotElapsed next)
  | none => .ok ()

/-! ## Accounting windows -/

/-- The window as the next transfer will find it: an ended window, or one never
opened, is empty and starts now. -/
def windowAt (standing : Standing) (period now : Seconds) : Window :=
  if standing.window.resetAt = 0 ∨ standing.window.resetAt ≤ now then
    ⟨.zero, Seconds.deadline now period⟩
  else standing.window

/-- The window that consuming the amount would leave, nothing being written yet. -/
def planConsumption (standing : Standing) (limits : Limits) (amount : Amount)
    (now : Seconds) : Except Refusal Window :=
  let window := standing.windowAt limits.period now
  let exceeded := Refusal.exceedsPeriodLimit amount window.total limits.quota
  match window.total.checkedAdd amount with
  | none => .error exceeded
  | some total => if limits.quota < total then .error exceeded else .ok ⟨total, window.resetAt⟩

/-- What is left of the quota now. -/
def remaining (standing : Standing) (limits : Limits) (now : Seconds) : Amount :=
  limits.quota.saturatingSub (standing.windowAt limits.period now).total

/-! ## Enforcement -/

def checkCap (limits : Limits) (amount : Amount) : Except Refusal Unit :=
  if limits.cap < amount then .error (.limitExceeded amount limits.cap) else .ok ()

/-- Pass the cooldown and start it anew. -/
def pace (standing : Standing) (limits : Limits) (now : Seconds) :
    Except Refusal Standing := do
  standing.checkCooldown limits.cooldown now
  return { standing with lastTransferAt := now }

/-- Take the amount out of the quota. -/
def consume (standing : Standing) (limits : Limits) (amount : Amount) (now : Seconds) :
    Except Refusal Standing := do
  let window ← standing.planConsumption limits amount now
  return { standing with window }

/-- Cap, cooldown and quota in that order, all or nothing. -/
def charge (standing : Standing) (limits : Limits) (amount : Amount) (now : Seconds) :
    Except Refusal Standing := do
  checkCap limits amount
  standing.checkCooldown limits.cooldown now
  let window ← standing.planConsumption limits amount now
  return { standing with lastTransferAt := now, window }

/-! ## Administration -/

def clearOverrides (standing : Standing) : Standing :=
  { standing with overrides := standing.overrides.clear }

def resetWindow (standing : Standing) : Standing :=
  { standing with window := ⟨.zero, 0⟩ }

end Standing

end Turnstile
