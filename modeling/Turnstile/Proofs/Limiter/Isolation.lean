import Turnstile.Proofs.Limiter.Congruence
import Turnstile.Proofs.Limiter.History

namespace Turnstile.Limiter

/-! Limiters that agree on a scope, record by record. What is asked within the scope is
answered out of it and keeps the agreement; what is asked outside of it leaves it alone. So
assets, and the accounts of one asset, go their ways apart. -/

/-! ## Reads -/

/-- Nothing that is read of the position tells the two apart. -/
structure ReadAlike (position : Position) (left right : Limiter) : Prop where
  standing : left.standing position = right.standing position
  defaultLimits : left.defaultLimits position.asset = right.defaultLimits position.asset
  isExempt : left.isExempt position = right.isExempt position
  effectiveLimits : left.effectiveLimits position = right.effectiveLimits position
  allowsAmount : ∀ amount, left.allowsAmount position amount = right.allowsAmount position amount
  remainingAllowance : ∀ now,
    left.remainingAllowance position now = right.remainingAllowance position now
  nextValidTransferTime : ∀ now,
    left.nextValidTransferTime position now = right.nextValidTransferTime position now
  view : ∀ now, left.view position now = right.view position now

/-- All reads go by the standing of the position and the defaults of its asset. -/
private theorem readAlike_of_standing {left right : Limiter} {position : Position}
    (standing : left.standing position = right.standing position)
    (defaults : left.defaultLimits position.asset = right.defaultLimits position.asset) :
    ReadAlike position left right := by
  have exempt : left.isExempt position = right.isExempt position := by
    rw [isExempt, isExempt, standing]
  have enforced : left.enforcedLimits position = right.enforcedLimits position := by
    rw [enforcedLimits, enforcedLimits, standing, defaults]
  have effective : left.effectiveLimits position = right.effectiveLimits position := by
    rw [effectiveLimits, effectiveLimits, exempt, enforced]
  have allowance (now : Seconds) :
      left.remainingAllowance position now = right.remainingAllowance position now := by
    rw [remainingAllowance, remainingAllowance, exempt, enforced, standing]
  have next (now : Seconds) :
      left.nextValidTransferTime position now = right.nextValidTransferTime position now := by
    rw [nextValidTransferTime, nextValidTransferTime, exempt, enforced, standing]
  refine ⟨standing, defaults, exempt, effective, fun amount => ?_, allowance, next,
    fun now => ?_⟩
  · rw [allowsAmount, allowsAmount, exempt, enforced]
  · rw [view, view, exempt, effective, allowance, next]

theorem Alike.readAlike {left right : Limiter} (alike : left.Alike right)
    (position : Position) : ReadAlike position left right :=
  readAlike_of_standing (alike.standing position) (alike.defaultLimits position.asset)

/-! ## Agreement -/

structure AgreeOn (scope : Scope) (left right : Limiter) : Prop where
  fallback : left.fallback = right.fallback
  authority : left.authority = right.authority
  defaults : ∀ asset, scope.assets asset → left.defaults.get? asset = right.defaults.get? asset
  record : ∀ position, scope.positions position →
    left.standing? position = right.standing? position

section AgreeOn

variable {scope : Scope} {left middle right : Limiter} {position : Position}

theorem AgreeOn.refl (limiter : Limiter) : AgreeOn scope limiter limiter :=
  ⟨rfl, rfl, fun _ _ => rfl, fun _ _ => rfl⟩

theorem AgreeOn.symm (agree : AgreeOn scope left right) : AgreeOn scope right left where
  fallback := agree.fallback.symm
  authority := agree.authority.symm
  defaults asset within := (agree.defaults asset within).symm
  record position within := (agree.record position within).symm

theorem AgreeOn.trans (first : AgreeOn scope left middle) (second : AgreeOn scope middle right) :
    AgreeOn scope left right where
  fallback := first.fallback.trans second.fallback
  authority := first.authority.trans second.authority
  defaults asset within := (first.defaults asset within).trans (second.defaults asset within)
  record position within := (first.record position within).trans (second.record position within)

theorem AgreeOn.defaultLimits (agree : AgreeOn scope left right) {asset : Address}
    (within : scope.assets asset) : left.defaultLimits asset = right.defaultLimits asset := by
  rw [Limiter.defaultLimits, Limiter.defaultLimits, agree.defaults asset within, agree.fallback]

theorem AgreeOn.standing (agree : AgreeOn scope left right)
    (within : scope.positions position) : left.standing position = right.standing position := by
  rw [Limiter.standing, Limiter.standing, agree.record position within]

theorem AgreeOn.readAlike (agree : AgreeOn scope left right)
    (within : scope.positions position) : ReadAlike position left right :=
  readAlike_of_standing (agree.standing within)
    (agree.defaultLimits (scope.covered position within))

/-- What agrees on two scopes that leave nothing out is the same. -/
theorem AgreeOn.eq {other : Scope} (first : AgreeOn scope left right)
    (second : AgreeOn other left right)
    (assets : ∀ asset, scope.assets asset ∨ other.assets asset)
    (positions : ∀ position, scope.positions position ∨ other.positions position) :
    left = right := by
  have defaults : left.defaults = right.defaults := by
    apply Table.ext_get?
    intro asset
    rcases assets asset with within | within
    · exact first.defaults asset within
    · exact second.defaults asset within
  have standings : left.standings = right.standings := by
    apply Table.ext_get?
    intro position
    rcases positions position with within | within
    · exact first.record position within
    · exact second.record position within
  rcases left with ⟨_, _, _, _⟩
  rcases right with ⟨_, _, _, _⟩
  cases first.fallback
  cases first.authority
  cases defaults
  cases standings
  rfl

/-! ### Writes within the scope -/

private theorem standing?_amend (limiter : Limiter) (struck sought : Position)
    (change : Standing → Standing) :
    (limiter.amend struck change).standing? sought =
      if struck = sought then (limiter.standing? struck).map change
      else limiter.standing? sought := by
  rw [amend]
  cases record : limiter.standing? struck with
  | some standing => exact standing?_withStanding ..
  | none =>
      change limiter.standing? sought = _
      split
      next same => rw [← same, record, Option.map_none]
      next => rfl

theorem AgreeOn.withStanding (agree : AgreeOn scope left right) (position : Position)
    {standing other : Standing} (same : scope.positions position → standing = other) :
    AgreeOn scope (left.withStanding position standing) (right.withStanding position other) where
  fallback := agree.fallback
  authority := agree.authority
  defaults := agree.defaults
  record sought within := by
    rw [standing?_withStanding, standing?_withStanding]
    split
    next struck => rw [same (struck ▸ within)]
    next => exact agree.record sought within

theorem AgreeOn.amend (agree : AgreeOn scope left right) (within : scope.positions position)
    (change : Standing → Standing) :
    AgreeOn scope (left.amend position change) (right.amend position change) := by
  have struck := Target.strikes_standing position
  have first := left.confined_amend struck change
  have second := right.confined_amend struck change
  refine ⟨?_, ?_, fun asset member => ?_, fun sought member => ?_⟩
  · rw [first.fallback, second.fallback, agree.fallback]
  · rw [first.authority nofun, second.authority nofun, agree.authority]
  · rw [first.defaults asset id, second.defaults asset id, agree.defaults asset member]
  · rw [standing?_amend, standing?_amend, agree.record position within,
      agree.record sought member]

theorem AgreeOn.withDefault (agree : AgreeOn scope left right) (asset : Address)
    (limits : Limits) :
    AgreeOn scope { left with defaults := left.defaults.insert asset limits }
      { right with defaults := right.defaults.insert asset limits } where
  fallback := agree.fallback
  authority := agree.authority
  defaults sought within := by
    rw [Table.get?_insert, Table.get?_insert, agree.defaults sought within]
  record := agree.record

theorem congruence_agreeOn (scope : Scope) : Congruence scope (AgreeOn scope) where
  authority := AgreeOn.authority
  defaultLimits agree _ within := agree.defaultLimits within
  standing agree _ within := agree.standing within
  withAuthority agree _ := ⟨agree.fallback, rfl, agree.defaults, agree.record⟩
  withDefault := AgreeOn.withDefault
  withStanding agree position _ := agree.withStanding position fun _ => rfl
  amend agree _ _ _ within := agree.amend within _
  withExemption agree position exempt := by
    refine agree.withStanding position fun within => ?_
    rw [agree.standing within]

end AgreeOn

/-! ### Writes outside of the scope -/

/-- Nothing of the target lies in the scope. -/
structure Target.Outside (scope : Scope) (target : Target) : Prop where
  ungranted : target ≠ .grants
  unset : ∀ asset, scope.assets asset → ¬target.Sets asset
  unstruck : ∀ position, scope.positions position → ¬target.Strikes position

theorem Confined.agreeOn {scope : Scope} {target : Target} {before after : Limiter}
    (confined : Confined target before after) (outside : target.Outside scope) :
    AgreeOn scope before after where
  fallback := confined.fallback.symm
  authority := (confined.authority outside.ungranted).symm
  defaults asset within := (confined.defaults asset (outside.unset asset within)).symm
  record position within := (confined.record position (outside.unstruck position within)).symm

/-! ## Requests -/

def Request.target : Request → Target
  | .perform _ command => command.target
  | .regrant .. => .grants

private theorem confined_regrant (limiter : Limiter) (caller : Address) (role : Role)
    (account : Address) (held : Bool) :
    (limiter.regrant caller role account held).Keeps (Confined .grants limiter) := by
  rw [regrant]
  split
  · exact Outcome.keeps_refused (.refl limiter) _
  · exact Outcome.keeps_accepted (limiter.confined_withAuthority _) _ _

theorem confined_handle (limiter : Limiter) (call : Timed Request) :
    (limiter.handle call).Keeps (Confined call.command.target limiter) := by
  rcases call with ⟨now, request⟩
  cases request with
  | perform caller command => exact limiter.confined_perform now caller command
  | regrant caller role account held => exact limiter.confined_regrant caller role account held

section Related

variable {scope : Scope} {Same : Limiter → Limiter → Prop} {left right : Limiter}

theorem Congruence.related_regrant (congruence : Congruence scope Same)
    (same : Same left right) (caller : Address) (role : Role) (account : Address)
    (held : Bool) :
    Outcome.Related Same (left.regrant caller role account held)
      (right.regrant caller role account held) := by
  rw [regrant, regrant, congruence.authority same]
  split
  · exact Outcome.related_refused same _
  · exact Outcome.related_accepted (congruence.withAuthority same _) _ _ _

theorem Congruence.related_handle (congruence : Congruence scope Same)
    (same : Same left right) {call : Timed Request}
    (within : call.command.target.Within scope) :
    Outcome.Related Same (left.handle call) (right.handle call) := by
  rcases call with ⟨now, request⟩
  cases request with
  | perform caller command => exact congruence.related_perform same now caller within
  | regrant caller role account held =>
      exact congruence.related_regrant same caller role account held

end Related

/-! ## Runs -/

/-- What is asked outside of a scope may as well not be asked, for all that can be told
within it. -/
theorem seen_within {scope : Scope} {stays : Timed Request → Bool}
    (within : ∀ call, stays call = true → call.command.target.Within scope)
    (outside : ∀ call, stays call = false → call.command.target.Outside scope)
    {left right : Limiter} (agree : AgreeOn scope left right) (calls : List (Timed Request)) :
    (Run.trace handle right (calls.filter stays)).map Step.seen =
        ((Run.trace handle left calls).filter fun step => stays step.call).map Step.seen ∧
      AgreeOn scope (Run.final handle left calls)
        (Run.final handle right (calls.filter stays)) := by
  apply Run.seen_filter ?dropped ?kept agree
  case dropped =>
    intro left right call leftOut agree
    exact ((left.confined_handle call).kept.agreeOn (outside call leftOut)).symm.trans agree
  case kept =>
    intro left right call stay agree
    exact (congruence_agreeOn scope).related_handle agree (within call stay)

/-! ### One account of an asset -/

/-- Everything but the other accounts of the asset. -/
def Scope.withoutNeighbours (position : Position) : Scope where
  assets _ := True
  positions sought := sought.asset = position.asset → sought = position
  covered _ _ := trivial

/-- It is addressed to another account of the asset and to no one else. -/
def Target.neighbours (position : Position) : Target → Bool
  | .standing struck => struck.asset = position.asset && struck ≠ position
  | .exemptions asset [account] => asset = position.asset && account ≠ position.account
  | _ => false

namespace Target

variable {target : Target} {position : Position}

theorem within_of_not_neighbours (addressed : target.neighbours position = false) :
    target.Within (.withoutNeighbours position) := by
  cases target with
  | grants | defaults | exemptions => trivial
  | standing struck =>
      intro asset
      simpa [neighbours, asset] using addressed

theorem outside_of_neighbours (addressed : target.neighbours position = true) :
    target.Outside (.withoutNeighbours position) := by
  cases target with
  | grants | defaults => cases addressed
  | standing struck =>
      simp only [neighbours, Bool.and_eq_true, decide_eq_true_eq] at addressed
      refine ⟨nofun, fun _ _ => id, fun sought within same => ?_⟩
      rw [show struck = sought from same] at addressed
      exact addressed.2 (within addressed.1)
  | exemptions asset accounts =>
      match accounts with
      | [account] =>
          simp only [neighbours, Bool.and_eq_true, decide_eq_true_eq] at addressed
          refine ⟨nofun, fun _ _ => id, fun sought within struck => ?_⟩
          have same := within (struck.1.symm.trans addressed.1)
          have account := List.mem_singleton.mp struck.2
          exact addressed.2 (account.symm.trans (congrArg Position.account same))
      | [] | _ :: _ :: _ => cases addressed

end Target

/-! ### Calls that change places -/

theorem target_command (enforcement : Enforcement) (position : Position) :
    (enforcement.command position).target = .standing position := by
  cases enforcement <;> rfl

/-- Everything but one position. -/
def Scope.without (position : Position) : Scope where
  assets _ := True
  positions sought := sought ≠ position
  covered _ _ := trivial

theorem Target.outside_without (position : Position) :
    (standing position).Outside (.without position) :=
  ⟨nofun, fun _ _ => id, fun _ other same => other (Eq.symm same)⟩

section Commuting

variable {first second : Position} {one other : Timed Request}

theorem agreeOn_without (limiter : Limiter) (here : one.command.target = .standing first) :
    AgreeOn (.without first) limiter (limiter.handle one).world := by
  have confined := (limiter.confined_handle one).kept
  rw [here] at confined
  exact confined.agreeOn (Target.outside_without first)

/-- A call about one position cannot tell whether one about another was made before it. -/
theorem related_without (apart : first ≠ second) (limiter : Limiter)
    (here : one.command.target = .standing first)
    (there : other.command.target = .standing second) :
    Outcome.Related (AgreeOn (.without first)) ((limiter.handle one).world.handle other)
      (limiter.handle other) := by
  have within : other.command.target.Within (.without first) := by
    rw [there]
    exact apart.symm
  exact (congruence_agreeOn _).related_handle (limiter.agreeOn_without here).symm within

/-- Calls that are about one position each, and not the same one, can change places. -/
theorem handle_comm (apart : first ≠ second) (limiter : Limiter)
    (here : one.command.target = .standing first)
    (there : other.command.target = .standing second) :
    (Run.trace handle limiter [one, other]).map Step.seen =
        ((Run.trace handle limiter [other, one]).map Step.seen).reverse ∧
      Run.final handle limiter [one, other] = Run.final handle limiter [other, one] := by
  have otherLater := limiter.related_without apart here there
  have oneLater := limiter.related_without apart.symm there here
  constructor
  · simp only [Run.trace, List.map_cons, List.map_nil, List.reverse_cons, List.reverse_nil,
      List.nil_append, List.cons_append, Step.seen, otherLater.answer, otherLater.events,
      oneLater.answer, oneLater.events]
  · have besideFirst := otherLater.world.trans
      ((limiter.handle other).world.agreeOn_without here)
    have besideSecond := ((limiter.handle one).world.agreeOn_without there).symm.trans
      oneLater.world.symm
    apply besideFirst.eq besideSecond
    · exact fun _ => .inl trivial
    · intro position
      by_cases same : position = first
      · exact .inr fun contrary => apart (same.symm.trans contrary)
      · exact .inl same

end Commuting

end Turnstile.Limiter
