import Turnstile.Proofs.Limiter.Exemption
import Turnstile.Proofs.Table

namespace Turnstile

/-! The three commands that hold a position to its limits, in full: what they answer, what
they publish and which record they leave. One definition covers all three, so there is one
lemma for a refusal and one for a passage. -/

/-- What is made of a standing that an enforcement has changed. -/
def Enforcement.report (position : Position) :
    Enforcement → Limiter → Standing → Outcome Limiter
  | .pace => Limiter.reportNothing
  | .consume amount | .charge amount => Limiter.reportConsumption position amount

/-- What an enforcement asks of a standing, in order. -/
def Enforcement.conditions (standing : Standing) (limits : Limits) (now : Seconds) :
    Enforcement → List Condition
  | .pace => [standing.cooldownCondition limits now]
  | .consume amount => [standing.quotaCondition limits amount now]
  | .charge amount => standing.conditions limits amount now

/-- An enforcement refuses for the first of its conditions that fails. -/
theorem Enforcement.follows_judge (enforcement : Enforcement) (standing : Standing)
    (limits : Limits) (now : Seconds) :
    Follows (enforcement.Passed limits now standing)
      (verdict (enforcement.conditions standing limits now))
      (enforcement.judge now standing limits) := by
  suffices decides : Follows (fun _ => True) (verdict (enforcement.conditions standing limits now))
      (enforcement.judge now standing limits) from decides.of_result fun _ => passed_judge
  cases enforcement with
  | pace =>
      rw [conditions, ← Standing.checkCooldown_eq_verdict]
      exact (follows_check _).bind_pure _
  | consume amount => exact (standing.follows_planConsumption limits amount now).bind_pure _
  | charge amount =>
      exact (standing.follows_charge limits amount now).of_result fun _ _ => trivial

namespace Limiter

variable {limiter : Limiter} {now : Seconds} {caller : Address} {position : Position}

/-! ## Records -/

theorem withStanding_withStanding (limiter : Limiter) (position : Position)
    (first second : Standing) :
    (limiter.withStanding position first).withStanding position second =
      limiter.withStanding position second := by
  simp only [withStanding, Table.insert_insert]

private theorem withStanding_of_standing? {standing : Standing}
    (found : limiter.standing? position = some standing) :
    limiter.withStanding position standing = limiter := by
  rw [withStanding, Table.insert_of_get? found]

theorem isExempt_withStanding (limiter : Limiter) (position : Position) (standing : Standing) :
    (limiter.withStanding position standing).isExempt position = standing.exempt := by
  rw [isExempt, standing_withStanding, if_pos rfl]

theorem enforcedLimits_withStanding (limiter : Limiter) (position : Position)
    (standing : Standing) :
    (limiter.withStanding position standing).enforcedLimits position =
      standing.limits (limiter.defaultLimits position.asset) := by
  rw [enforcedLimits, standing_withStanding, if_pos rfl]
  rfl

theorem touch_withStanding (limiter : Limiter) (position : Position) (standing : Standing) :
    (limiter.withStanding position standing).touch position =
      limiter.withStanding position standing := by
  rw [touch, standing_withStanding, if_pos rfl, withStanding_withStanding]

theorem touch_touch (limiter : Limiter) (position : Position) :
    (limiter.touch position).touch position = limiter.touch position :=
  touch_withStanding limiter position _

theorem touch_of_standing? {standing : Standing}
    (found : limiter.standing? position = some standing) :
    limiter.touch position = limiter := by
  rw [touch, Limiter.standing, found]
  exact withStanding_of_standing? found

theorem touch_of_untouched (untouched : limiter.standing? position = none) :
    limiter.touch position = limiter.withStanding position .fresh := by
  rw [touch, Limiter.standing, untouched]
  rfl

theorem trackedPositions_withStanding (limiter : Limiter) (position : Position)
    (standing : Standing) :
    (limiter.withStanding position standing).trackedPositions =
      limiter.trackedPositions + (limiter.standing? position).isNone.toNat := by
  rw [trackedPositions, withStanding, Table.size_insert]
  change _ + (if (limiter.standing? position).isSome then 0 else 1) = _
  cases limiter.standing? position <;> rfl

theorem trackedPositions_amend (limiter : Limiter) (position : Position)
    (change : Standing → Standing) :
    (limiter.amend position change).trackedPositions = limiter.trackedPositions := by
  rw [amend]
  cases found : limiter.standing? position with
  | none => rfl
  | some standing =>
      change (limiter.withStanding position (change standing)).trackedPositions = _
      rw [trackedPositions_withStanding, found]
      rfl

/-! ## Enforcement -/

theorem perform_enforcement (limiter : Limiter) (now : Seconds) (caller : Address)
    (enforcement : Enforcement) (position : Position) :
    limiter.perform now caller (enforcement.command position) =
      .guarded limiter (limiter.authority.require .caller caller)
        (limiter.commit position (limiter.defaultLimits position.asset)
          (enforcement.judge now) (enforcement.report position)) := by
  cases enforcement <;> rfl

theorem enforcement_of_error (permitted : limiter.authority.holds .caller caller = true)
    (counted : limiter.isExempt position = false) (enforcement : Enforcement)
    {refusal : Refusal}
    (refused : enforcement.judge now (limiter.standing position)
      (limiter.enforcedLimits position) = .error refusal) :
    limiter.perform now caller (enforcement.command position) =
      .refused (limiter.touch position) refusal := by
  rw [perform_enforcement, Authority.require_of_holds permitted, Outcome.guarded_ok]
  exact commit_of_error counted refused

theorem enforcement_of_ok (permitted : limiter.authority.holds .caller caller = true)
    (counted : limiter.isExempt position = false) (enforcement : Enforcement)
    {judged : Standing}
    (passed : enforcement.judge now (limiter.standing position)
      (limiter.enforcedLimits position) = .ok judged) :
    limiter.perform now caller (enforcement.command position) =
      enforcement.report position (limiter.withStanding position judged) judged := by
  rw [perform_enforcement, Authority.require_of_holds permitted, Outcome.guarded_ok]
  exact commit_of_ok counted passed

/-- The caller may enforce limits, and a position that is not exempt meets the conditions. -/
def enforcementConditions (limiter : Limiter) (now : Seconds) (caller : Address)
    (position : Position) (enforcement : Enforcement) : List Condition :=
  ⟨limiter.authority.holds .caller caller, .unauthorized .caller caller⟩ ::
    if limiter.isExempt position then []
    else
      enforcement.conditions (limiter.standing position) (limiter.enforcedLimits position) now

theorem answer_report (enforcement : Enforcement) (position : Position) (limiter : Limiter)
    (standing : Standing) : (enforcement.report position limiter standing).answer = .ok () := by
  cases enforcement <;> rfl

theorem world_report (enforcement : Enforcement) (position : Position) (limiter : Limiter)
    (standing : Standing) : (enforcement.report position limiter standing).world = limiter := by
  cases enforcement <;> rfl

theorem answer_enforcement (limiter : Limiter) (now : Seconds) (caller : Address)
    (enforcement : Enforcement) (position : Position) :
    (limiter.perform now caller (enforcement.command position)).answer =
      verdict (limiter.enforcementConditions now caller position enforcement) := by
  rw [enforcementConditions, verdict_cons]
  cases permitted : limiter.authority.holds .caller caller with
  | false =>
      rw [perform_enforcement, require_eq_verdict, verdict_cons, permitted]
      rfl
  | true =>
      cases exempt : limiter.isExempt position with
      | true =>
          rw [perform_of_exempt permitted exempt]
          rfl
      | false =>
          have follows := enforcement.follows_judge (limiter.standing position)
            (limiter.enforcedLimits position) now
          cases judged : enforcement.judge now (limiter.standing position)
              (limiter.enforcedLimits position) with
          | error refusal =>
              rw [judged] at follows
              rw [enforcement_of_error permitted exempt enforcement judged]
              exact follows.refusal.symm
          | ok standing =>
              rw [judged] at follows
              rw [enforcement_of_ok permitted exempt enforcement judged, answer_report]
              exact follows.passed.symm

/-- An enforcement that a position has passed leaves the standing that it leads to. -/
theorem world_enforcement (counted : limiter.isExempt position = false)
    (enforcement : Enforcement)
    (accepted : (limiter.perform now caller (enforcement.command position)).answer = .ok ()) :
    ∃ standing, enforcement.Passed (limiter.enforcedLimits position) now
        (limiter.standing position) standing ∧
      (limiter.perform now caller (enforcement.command position)).world =
        limiter.withStanding position standing := by
  have conditions := (answer_enforcement ..).symm.trans accepted
  rw [enforcementConditions, verdict_cons_eq_ok_iff, counted] at conditions
  have follows := enforcement.follows_judge (limiter.standing position)
    (limiter.enforcedLimits position) now
  cases judged : enforcement.judge now (limiter.standing position)
      (limiter.enforcedLimits position) with
  | error refusal =>
      rw [judged] at follows
      cases follows.refusal.symm.trans conditions.2
  | ok standing =>
      rw [judged] at follows
      rw [enforcement_of_ok conditions.1 counted enforcement judged, world_report]
      exact ⟨standing, follows.described, rfl⟩

end Limiter

end Turnstile
