import Turnstile.Refusal

namespace Turnstile

/-! The four dimensions in which an account's transfers of an asset are limited. -/

structure Limits where
  /-- The most that one transfer may move. -/
  cap : Amount
  /-- The least time between two transfers. -/
  cooldown : Seconds
  /-- The most that may be moved within one accounting window. -/
  quota : Amount
  /-- The duration of an accounting window. -/
  period : Seconds
deriving DecidableEq, Inhabited

/-- A window of one day. -/
def Limits.defaultPeriod : Seconds := 86400

/-- No cap, no cooldown and no quota. -/
def Limits.unlimited : Limits where
  cap := .unlimited
  cooldown := 0
  quota := .unlimited
  period := defaultPeriod

/-! Values that would lock an account out or leave a window without duration are
refused before anything is written. -/

def checkPositive (amount : Amount) : Except Refusal Unit :=
  if amount = .zero then .error (.invalidArgument .amountTooSmall) else .ok ()

def checkPeriod (quota : Amount) (period : Seconds) : Except Refusal Unit := do
  checkPositive quota
  if period = 0 then .error (.invalidArgument .zeroPeriod) else .ok ()

def Limits.check (limits : Limits) : Except Refusal Unit := do
  checkPositive limits.cap
  checkPeriod limits.quota limits.period

/-- Limits under which every dimension leaves room. -/
def Limits.Valid (limits : Limits) : Prop :=
  limits.cap ≠ .zero ∧ limits.quota ≠ .zero ∧ limits.period ≠ 0

instance (limits : Limits) : Decidable limits.Valid :=
  inferInstanceAs (Decidable (_ ∧ _ ∧ _))

theorem Limits.check_eq_ok_iff {limits : Limits} : limits.check = .ok () ↔ limits.Valid := by
  unfold Limits.check checkPeriod checkPositive Limits.Valid
  by_cases cap : limits.cap = .zero <;> by_cases quota : limits.quota = .zero <;>
    by_cases period : limits.period = 0 <;>
    simp [cap, quota, period, bind, Except.bind]

/-! ## Overrides -/

/-- Limits set for one account, each dimension in force only while its flag is up.
Quota and period rise and fall together. -/
structure Overrides where
  values : Limits
  hasCap : Bool
  hasCooldown : Bool
  hasPeriod : Bool
deriving DecidableEq

namespace Overrides

def none : Overrides where
  values := .unlimited
  hasCap := false
  hasCooldown := false
  hasPeriod := false

instance : Inhabited Overrides := ⟨none⟩

/-- The limits that result from the overrides in force over an asset's defaults. -/
def apply (overrides : Overrides) (defaults : Limits) : Limits where
  cap := if overrides.hasCap then overrides.values.cap else defaults.cap
  cooldown := if overrides.hasCooldown then overrides.values.cooldown else defaults.cooldown
  quota := if overrides.hasPeriod then overrides.values.quota else defaults.quota
  period := if overrides.hasPeriod then overrides.values.period else defaults.period

/-- Lower every flag; the values stay behind unused. -/
def clear (overrides : Overrides) : Overrides where
  values := overrides.values
  hasCap := false
  hasCooldown := false
  hasPeriod := false

def setCap (overrides : Overrides) (cap : Amount) : Overrides :=
  { overrides with values.cap := cap, hasCap := true }

def setCooldown (overrides : Overrides) (cooldown : Seconds) : Overrides :=
  { overrides with values.cooldown := cooldown, hasCooldown := true }

def setPeriod (overrides : Overrides) (quota : Amount) (period : Seconds) : Overrides :=
  { overrides with values.quota := quota, values.period := period, hasPeriod := true }

def setAll (limits : Limits) : Overrides where
  values := limits
  hasCap := true
  hasCooldown := true
  hasPeriod := true

@[simp] theorem apply_none (defaults : Limits) : none.apply defaults = defaults := rfl

@[simp] theorem apply_clear (overrides : Overrides) (defaults : Limits) :
    overrides.clear.apply defaults = defaults := rfl

@[simp] theorem apply_setAll (limits defaults : Limits) :
    (setAll limits).apply defaults = limits := rfl

end Overrides

end Turnstile
