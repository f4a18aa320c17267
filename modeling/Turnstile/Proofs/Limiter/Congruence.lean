import Turnstile.Proofs.Limiter.Target

namespace Turnstile

/-! Limiters that count as the same. If they agree on whatever lies in a scope, and writes
to both keep it so, then commands within the scope are answered alike by both and keep them
the same. -/

namespace Limiter

/-! ## Scopes -/

/-- Some assets, and positions in them. -/
structure Scope where
  assets : Address → Prop
  positions : Position → Prop
  covered : ∀ position, positions position → assets position.asset

def Scope.ofAssets (assets : Address → Prop) : Scope where
  assets := assets
  positions position := assets position.asset
  covered _ := id

def Scope.everything : Scope :=
  .ofAssets fun _ => True

namespace Target

/-- What lies in the scope decides the answer. Exemptions are set without a look at the
positions. -/
def Within (scope : Scope) : Target → Prop
  | .grants | .exemptions .. => True
  | .defaults asset => scope.assets asset
  | .standing position => scope.positions position

theorem within_everything (target : Target) : target.Within .everything := by
  cases target <;> trivial

end Target

/-! ## Congruences -/

/-- Limiters that are the same agree on the scope, and stay the same when the same is written
to both. -/
structure Congruence (scope : Scope) (Same : Limiter → Limiter → Prop) : Prop where
  authority : ∀ {left right}, Same left right → left.authority = right.authority
  defaultLimits : ∀ {left right}, Same left right → ∀ asset, scope.assets asset →
    left.defaultLimits asset = right.defaultLimits asset
  standing : ∀ {left right}, Same left right → ∀ position, scope.positions position →
    left.standing position = right.standing position
  withAuthority : ∀ {left right}, Same left right → ∀ authority,
    Same { left with authority } { right with authority }
  withDefault : ∀ {left right}, Same left right → ∀ asset limits,
    Same { left with defaults := left.defaults.insert asset limits }
      { right with defaults := right.defaults.insert asset limits }
  withStanding : ∀ {left right}, Same left right → ∀ position standing,
    Same (left.withStanding position standing) (right.withStanding position standing)
  amend : ∀ {left right}, Same left right → ∀ {change : Standing → Standing},
    change .fresh = .fresh → ∀ position, scope.positions position →
      Same (left.amend position change) (right.amend position change)
  withExemption : ∀ {left right}, Same left right → ∀ position exempt,
    Same (left.withExemption position exempt) (right.withExemption position exempt)

namespace Congruence

variable {scope : Scope} {Same : Limiter → Limiter → Prop} {left right : Limiter}

theorem require (congruence : Congruence scope Same) (same : Same left right) (role : Role)
    (caller : Address) :
    left.authority.require role caller = right.authority.require role caller := by
  rw [congruence.authority same]

theorem touch (congruence : Congruence scope Same) (same : Same left right)
    {position : Position} (within : scope.positions position) :
    Same (left.touch position) (right.touch position) := by
  rw [Limiter.touch, Limiter.touch, congruence.standing same position within]
  exact congruence.withStanding same position _

theorem withExemptions (congruence : Congruence scope Same) (same : Same left right)
    (asset : Address) (changes : List (Address × Bool)) :
    Same
      (changes.foldl (fun limiter change => limiter.withExemption ⟨asset, change.1⟩ change.2)
        left)
      (changes.foldl (fun limiter change => limiter.withExemption ⟨asset, change.1⟩ change.2)
        right) := by
  induction changes generalizing left right with
  | nil => exact same
  | cons change rest induction => exact induction (congruence.withExemption same _ _)

/-! ## Commands -/

private theorem related_updateDefaults (congruence : Congruence scope Same) (same : Same left right)
    {asset : Address} (within : scope.assets asset) (caller : Address)
    (change : Limits → Limits) :
    Outcome.Related Same (left.updateDefaults caller asset change)
      (right.updateDefaults caller asset change) := by
  rw [updateDefaults, updateDefaults, congruence.require same,
    congruence.defaultLimits same asset within]
  apply Outcome.Related.guarded _ same
  exact Outcome.related_accepted (congruence.withDefault same asset _) _ _ _

private theorem related_updateOverrides (congruence : Congruence scope Same)
    (same : Same left right) {position : Position} (within : scope.positions position)
    (caller : Address) (change : Overrides → Overrides) :
    Outcome.Related Same (left.updateOverrides caller position change)
      (right.updateOverrides caller position change) := by
  rw [updateOverrides, updateOverrides, congruence.require same,
    congruence.defaultLimits same _ (scope.covered position within),
    congruence.standing same position within]
  apply Outcome.Related.guarded _ same
  exact Outcome.related_accepted (congruence.withStanding same position _) _ _ _

private theorem related_amend (congruence : Congruence scope Same) (same : Same left right)
    {position : Position} (within : scope.positions position) (caller : Address)
    {change : Standing → Standing} (fresh : change .fresh = .fresh) (events : List Event) :
    Outcome.Related Same
      (.guarded left (left.authority.require .limitManager caller) <|
        .accepted (left.amend position change) events [])
      (.guarded right (right.authority.require .limitManager caller) <|
        .accepted (right.amend position change) events []) := by
  rw [congruence.require same]
  apply Outcome.Related.guarded _ same
  exact Outcome.related_accepted (congruence.amend same fresh position within) _ _ _

private theorem related_setExemptions (congruence : Congruence scope Same) (same : Same left right)
    (caller asset : Address) (accounts : List Address) (exempt : List Bool) :
    Outcome.Related Same (left.setExemptions caller asset accounts exempt)
      (right.setExemptions caller asset accounts exempt) := by
  rw [setExemptions, setExemptions, congruence.require same]
  apply Outcome.Related.guarded _ same
  apply Outcome.Related.guarded _ same
  exact Outcome.related_accepted (congruence.withExemptions same asset _) _ _ _

private theorem related_assignRole (congruence : Congruence scope Same) (same : Same left right)
    (caller : Address) (role : Role) (account : Address) (held : Bool) :
    Outcome.Related Same (left.assignRole caller role account held)
      (right.assignRole caller role account held) := by
  rw [assignRole, assignRole, congruence.authority same]
  exact Authority.related_reassign same _ (congruence.withAuthority same) caller role account
    held

private theorem related_commit (congruence : Congruence scope Same) (same : Same left right)
    {position : Position} (within : scope.positions position) (defaults : Limits)
    (judge : Standing → Limits → Except Refusal Standing)
    {report : Limiter → Standing → Outcome Limiter}
    (reported : ∀ first second standing, Same first second →
      Outcome.Related Same (report first standing) (report second standing)) :
    Outcome.Related Same (left.commit position defaults judge report)
      (right.commit position defaults judge report) := by
  have touched := congruence.touch same within
  simp only [commit, congruence.standing same position within]
  split
  · exact Outcome.related_accepted touched [] [] []
  · split
    · exact Outcome.related_refused touched _
    · exact reported _ _ _ (congruence.withStanding same position _)

private theorem related_enforcement (congruence : Congruence scope Same) (same : Same left right)
    {position : Position} (within : scope.positions position) (caller : Address)
    (judge : Standing → Limits → Except Refusal Standing)
    {report : Limiter → Standing → Outcome Limiter}
    (reported : ∀ first second standing, Same first second →
      Outcome.Related Same (report first standing) (report second standing)) :
    Outcome.Related Same
      (.guarded left (left.authority.require .caller caller) <|
        left.commit position (left.defaultLimits position.asset) judge report)
      (.guarded right (right.authority.require .caller caller) <|
        right.commit position (right.defaultLimits position.asset) judge report) := by
  rw [congruence.require same,
    congruence.defaultLimits same _ (scope.covered position within)]
  apply Outcome.Related.guarded _ same
  exact congruence.related_commit same within _ judge reported

/-- Limiters that are the same answer a command within the scope alike. -/
theorem related_perform (congruence : Congruence scope Same) (same : Same left right)
    (now : Seconds) (caller : Address) {command : Command}
    (within : command.target.Within scope) :
    Outcome.Related Same (left.perform now caller command)
      (right.perform now caller command) := by
  cases command with
  | assignManager | assignCaller => exact congruence.related_assignRole same ..
  | setDefaultCap | setDefaultPeriod | setDefaultLimits =>
      exact (congruence.related_updateDefaults same within caller _).guarded same _
  | setDefaultCooldown asset cooldown =>
      exact congruence.related_updateDefaults same within caller
        fun limits => { limits with cooldown }
  | setUserCap | setUserPeriod | setUserLimits =>
      exact (congruence.related_updateOverrides same within caller _).guarded same _
  | setUserCooldown position cooldown =>
      exact congruence.related_updateOverrides same within caller (·.setCooldown cooldown)
  | resetUserLimits | resetUserPeriod =>
      exact congruence.related_amend same within caller rfl _
  | setExemptions => exact congruence.related_setExemptions same ..
  | enforceCooldown | recordTransfer | charge =>
      apply congruence.related_enforcement same within
      exact fun _ _ _ reported => Outcome.related_accepted reported ..

end Congruence

end Limiter

end Turnstile
