import Turnstile.Proofs.Limiter.Congruence

namespace Turnstile

/-! Limiters that differ at most in records that say no more than the lack of a record.
Such a difference is all that a refused command leaves, and no command can tell it. -/

namespace Limiter

structure Alike (left right : Limiter) : Prop where
  fallback : left.fallback = right.fallback
  defaults : left.defaults = right.defaults
  authority : left.authority = right.authority
  standing : ∀ position, left.standing position = right.standing position

namespace Alike

variable {left middle right : Limiter}

theorem refl (limiter : Limiter) : limiter.Alike limiter :=
  ⟨rfl, rfl, rfl, fun _ => rfl⟩

theorem symm (alike : left.Alike right) : right.Alike left :=
  ⟨alike.fallback.symm, alike.defaults.symm, alike.authority.symm,
    fun position => (alike.standing position).symm⟩

theorem trans (first : left.Alike middle) (second : middle.Alike right) : left.Alike right :=
  ⟨first.fallback.trans second.fallback, first.defaults.trans second.defaults,
    first.authority.trans second.authority,
    fun position => (first.standing position).trans (second.standing position)⟩

/-! ## Reads -/

theorem defaultLimits (alike : left.Alike right) (asset : Address) :
    left.defaultLimits asset = right.defaultLimits asset := by
  rw [Limiter.defaultLimits, Limiter.defaultLimits, alike.defaults, alike.fallback]

/-! ## Writes -/

theorem touch (limiter : Limiter) (position : Position) :
    limiter.Alike (limiter.touch position) :=
  ⟨rfl, rfl, rfl, fun sought => (standing_touch limiter position sought).symm⟩

theorem withStanding (alike : left.Alike right) (position : Position)
    (standing : Standing) :
    (left.withStanding position standing).Alike (right.withStanding position standing) where
  fallback := alike.fallback
  defaults := alike.defaults
  authority := alike.authority
  standing sought := by
    rw [standing_withStanding, standing_withStanding, alike.standing]

/-- A change that keeps a fresh standing fresh may as well be made to the record that is
not there. -/
theorem withStanding_amend (limiter : Limiter) {change : Standing → Standing}
    (fresh : change .fresh = .fresh) (position : Position) :
    (limiter.withStanding position (change (limiter.standing position))).Alike
      (limiter.amend position change) := by
  unfold Limiter.amend Limiter.standing
  cases record : limiter.standing? position with
  | some standing => exact refl _
  | none =>
      have untouched : limiter.withStanding position .fresh = limiter.touch position := by
        rw [Limiter.touch, Limiter.standing, record, Option.getD_none]
      simp only [Option.getD_none, fresh]
      rw [untouched]
      exact (touch limiter position).symm

theorem amend (alike : left.Alike right) {change : Standing → Standing}
    (fresh : change .fresh = .fresh) (position : Position) :
    (left.amend position change).Alike (right.amend position change) := by
  have written := alike.withStanding position (change (left.standing position))
  have rightAmended := withStanding_amend right fresh position
  rw [← alike.standing] at rightAmended
  exact ((withStanding_amend left fresh position).symm.trans written).trans rightAmended

theorem withExemption (alike : left.Alike right) (position : Position) (exempt : Bool) :
    (left.withExemption position exempt).Alike (right.withExemption position exempt) := by
  have written := alike.withStanding position { left.standing position with exempt }
  rw [Limiter.withExemption, Limiter.withExemption, ← alike.standing]
  exact written

end Alike

/-! ## Refused commands leave no trace -/

section Same

variable {limiter : Limiter} {Same : Limiter → Prop}

private theorem atomic_updateDefaults (same : Same limiter) (caller asset : Address)
    (change : Limits → Limits) : (limiter.updateDefaults caller asset change).Atomic Same :=
  (Outcome.atomic_accepted ..).guarded same _

private theorem atomic_updateOverrides (same : Same limiter) (caller : Address)
    (position : Position) (change : Overrides → Overrides) :
    (limiter.updateOverrides caller position change).Atomic Same :=
  (Outcome.atomic_accepted ..).guarded same _

/-- Only an enforcement can leave a trace. -/
theorem atomic_perform_of_role (same : Same limiter) (now : Seconds) (caller : Address)
    {command : Command} (managed : command.role ≠ .caller) :
    (limiter.perform now caller command).Atomic Same := by
  cases command with
  | assignManager | assignCaller => exact Authority.atomic_reassign same ..
  | setDefaultCooldown asset cooldown =>
      exact atomic_updateDefaults same caller asset fun limits => { limits with cooldown }
  | setDefaultCap | setDefaultPeriod | setDefaultLimits =>
      exact (atomic_updateDefaults same ..).guarded same _
  | setUserCooldown position cooldown =>
      exact atomic_updateOverrides same caller position (·.setCooldown cooldown)
  | setUserCap | setUserPeriod | setUserLimits =>
      exact (atomic_updateOverrides same ..).guarded same _
  | resetUserLimits | resetUserPeriod => exact (Outcome.atomic_accepted ..).guarded same _
  | setExemptions => exact ((Outcome.atomic_accepted ..).guarded same _).guarded same _
  | enforceCooldown | recordTransfer | charge => exact absurd rfl managed

end Same

private theorem atomic_commit {limiter : Limiter} {position : Position} {defaults : Limits}
    {judge : Standing → Limits → Except Refusal Standing}
    {report : Limiter → Standing → Outcome Limiter}
    (reported : ∀ changed standing, (report changed standing).answer = .ok ()) :
    (limiter.commit position defaults judge report).Atomic limiter.Alike := by
  simp only [commit]
  split
  · exact Outcome.atomic_accepted ..
  · split
    · exact Outcome.atomic_refused (.touch limiter position) _
    · exact Outcome.atomic_of_ok (reported _ _)

theorem atomic_perform (limiter : Limiter) (now : Seconds) (caller : Address)
    (command : Command) : (limiter.perform now caller command).Atomic limiter.Alike := by
  have same := Alike.refl limiter
  cases command with
  | enforceCooldown | recordTransfer | charge =>
      exact (atomic_commit fun _ _ => rfl).guarded same _
  | _ => exact atomic_perform_of_role same now caller nofun

/-! ## No command tells the difference -/

theorem congruence_alike : Congruence .everything Alike where
  authority := Alike.authority
  defaultLimits alike asset _ := alike.defaultLimits asset
  standing alike position _ := alike.standing position
  withAuthority alike _ := ⟨alike.fallback, alike.defaults, rfl, alike.standing⟩
  withDefault alike asset limits :=
    ⟨alike.fallback, congrArg (·.insert asset limits) alike.defaults, alike.authority,
      alike.standing⟩
  withStanding := Alike.withStanding
  amend alike _ fresh position _ := alike.amend fresh position
  withExemption := Alike.withExemption

end Limiter

end Turnstile
