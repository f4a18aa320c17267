import Turnstile.Proofs.Authority
import Turnstile.Proofs.Run

namespace Turnstile.Authority

/-! Tables of grants under all that is ever tried at them. Only administrators change a table,
so one that has none left is as it will always be; and where no one is made an administrator,
whoever was one at first remains the only one. -/

/-! ## Attempts -/

/-- A grant, to be made or to be taken back. -/
structure Assignment where
  caller : Address
  role : Role
  account : Address
  held : Bool
deriving DecidableEq

def answer (authority : Authority) (assignment : Assignment) :
    Except Refusal (Authority × Bool) :=
  if assignment.held then
    authority.grant assignment.caller assignment.role assignment.account
  else authority.revoke assignment.caller assignment.role assignment.account

def attempt (authority : Authority) (assignment : Assignment) : Outcome Authority :=
  match authority.answer assignment with
  | .ok (changed, _) => .accepted changed [] []
  | .error refusal => .refused authority refusal

section Attempt

variable {authority changed : Authority} {assignment : Assignment} {turns : Bool}

private theorem answer_eq (authority : Authority) (assignment : Assignment) :
    authority.answer assignment = authority.assign assignment.caller assignment.role
      assignment.account assignment.held := by
  rw [answer]
  cases assignment.held <;> rfl

theorem assign_isOk_iff {caller account : Address} {role : Role} {held : Bool} :
    (authority.assign caller role account held).isOk = true ↔
      authority.holds .admin caller = true ∧ account ≠ .zero := by
  rw [assign, require]
  cases authority.holds .admin caller with
  | false => simp [bind, Except.bind, Except.isOk, Except.toBool]
  | true =>
      by_cases zero : account = .zero <;>
        simp [bind, Except.bind, pure, Except.pure, Except.isOk, Except.toBool, zero]

theorem answer_isOk_iff : (authority.answer assignment).isOk = true ↔
    authority.holds .admin assignment.caller = true ∧ assignment.account ≠ .zero := by
  rw [answer_eq]
  exact assign_isOk_iff

private theorem turns_iff_of_answer
    (answered : authority.answer assignment = .ok (changed, turns)) :
    turns = true ↔ changed ≠ authority := by
  rw [answer_eq] at answered
  rw [turns_of_assign answered, bne_iff_ne]
  have held := holds_of_assign answered assignment.role assignment.account
  rw [if_pos rfl] at held
  constructor
  · intro turned same
    rw [← same] at turned
    exact turned held
  · intro different same
    refine different (ext_holds fun role account => ?_)
    rw [holds_of_assign answered]
    split
    next grant =>
      cases grant
      exact same.symm
    next => rfl

private theorem attempt_of_ok (answered : authority.answer assignment = .ok (changed, turns)) :
    (authority.attempt assignment).world = changed := by
  rw [attempt, answered]
  rfl

private theorem attempt_of_error {refusal : Refusal}
    (answered : authority.answer assignment = .error refusal) :
    (authority.attempt assignment).world = authority := by
  rw [attempt, answered]
  rfl

/-- All that comes of an attempt: it is let through or not, the flag tells whether it has
changed the table, and no grant changes but the one that is named. -/
structure Honest (before : Authority) (assignment : Assignment) : Prop where
  authorized : (before.attempt assignment).world ≠ before →
    before.holds .admin assignment.caller = true ∧ assignment.account ≠ .zero
  accepted : (before.answer assignment).isOk = true ↔
    before.holds .admin assignment.caller = true ∧ assignment.account ≠ .zero
  refused : ∀ refusal, before.answer assignment = .error refusal →
    (before.attempt assignment).world = before
  turned : ∀ after turns, before.answer assignment = .ok (after, turns) →
    (before.attempt assignment).world = after ∧ (turns = true ↔ after ≠ before)
  given : ∀ after turns, before.answer assignment = .ok (after, turns) → ∀ role account,
    after.holds role account =
      if assignment.role = role ∧ assignment.account = account then assignment.held
      else before.holds role account

theorem changed_of_attempt (changed : (authority.attempt assignment).world ≠ authority) :
    authority.holds .admin assignment.caller = true ∧ assignment.account ≠ .zero := by
  cases answered : authority.answer assignment with
  | error refusal => exact absurd (attempt_of_error answered) changed
  | ok =>
      refine answer_isOk_iff.mp ?_
      rw [answered]
      rfl

theorem honest (authority : Authority) (assignment : Assignment) :
    authority.Honest assignment where
  authorized := changed_of_attempt
  accepted := answer_isOk_iff
  refused _ := attempt_of_error
  turned _ _ answered := ⟨attempt_of_ok answered, turns_iff_of_answer answered⟩
  given after turns answered role account := by
    rw [answer_eq] at answered
    simpa only [Grant.mk.injEq] using holds_of_assign answered role account

/-- Without administrators there is no change. -/
theorem final_of_leaderless (leaderless : ∀ account, authority.holds .admin account = false)
    (assignments : List Assignment) : Run.final attempt authority assignments = authority := by
  refine Run.final_of_step (fun after => after = authority) ?_ rfl assignments
  rintro _ assignment rfl
  by_contra changed
  have held := (changed_of_attempt changed).1
  rw [leaderless] at held
  cases held

end Attempt

/-! ## Tables with one administrator -/

/-- There is one administrator, and apart from that only some roles are held, and never by the
null identity. -/
structure Confined (admin : Address) (roles : List Role) (authority : Authority) : Prop where
  admin : ∀ account, authority.holds .admin account = true ↔ account = admin
  roles : ∀ role account, authority.holds role account = true → role = .admin ∨ role ∈ roles
  proper : ∀ role, authority.holds role .zero = false

section Confined

variable {admin : Address} {roles : List Role} {authority changed : Authority}

theorem confined_of_founded (founded : Authority.founded admin = .ok authority)
    (roles : List Role) : authority.Confined admin roles := by
  by_cases zero : admin = .zero
  · rw [Authority.founded, if_pos zero] at founded
    cases founded
  · rw [founded_of_ne_zero zero] at founded
    cases founded
    refine ⟨fun account => ?_, fun role account held => ?_, fun role => ?_⟩
    · exact holds_sole.trans (and_iff_right rfl)
    · exact .inl (holds_sole.mp held).1.symm
    · exact Bool.eq_false_iff.mpr fun held => zero (holds_sole.mp held).2.symm

theorem Confined.of_assign (confined : authority.Confined admin roles) {caller account : Address}
    {role : Role} {held turns : Bool} (own : role ∈ roles) (lesser : role ≠ .admin)
    (assigned : authority.assign caller role account held = .ok (changed, turns)) :
    changed.Confined admin roles := by
  have isOk : (authority.assign caller role account held).isOk = true := by rw [assigned]; rfl
  have proper := (assign_isOk_iff.mp isOk).2
  have holds := holds_of_assign assigned
  refine ⟨fun who => ?_, fun other who given => ?_, fun other => ?_⟩
  · rw [holds, if_neg fun same => lesser (congrArg Grant.role same)]
    exact confined.admin who
  · rw [holds] at given
    split at given
    next same =>
      cases same
      exact .inr own
    next => exact confined.roles other who given
  · rw [holds, if_neg fun same => proper (congrArg Grant.account same)]
    exact confined.proper other

end Confined

end Turnstile.Authority
