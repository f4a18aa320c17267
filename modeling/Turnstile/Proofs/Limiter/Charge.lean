import Turnstile.Proofs.Limiter.Alike
import Turnstile.Proofs.Verdict

namespace Turnstile

/-! When a charge passes and what it leaves behind: cap, cooldown and quota are conditions
on the standing of one position, in exact numbers, and a charge that meets them changes
the time of the last transfer and the window of that position and nothing else. -/

namespace Standing

/-! ## Conditions -/

def capCondition (limits : Limits) (amount : Amount) : Condition where
  holds := amount ≤ limits.cap
  refusal := .limitExceeded amount limits.cap

/-- There was no transfer before, or the cooldown after it is over. -/
def cooldownCondition (standing : Standing) (limits : Limits) (now : Seconds) : Condition :=
  let next := Seconds.deadline standing.lastTransferAt limits.cooldown
  { holds := standing.lastTransferAt = 0 ∨ next ≤ now
    refusal := .cooldownNotElapsed next }

/-- The quota covers the amount on top of what the window holds now. -/
def quotaCondition (standing : Standing) (limits : Limits) (amount : Amount)
    (now : Seconds) : Condition :=
  let window := standing.windowAt limits.period now
  { holds := window.total.toNat + amount.toNat ≤ limits.quota.toNat
    refusal := .exceedsPeriodLimit amount window.total limits.quota }

def conditions (standing : Standing) (limits : Limits) (amount : Amount) (now : Seconds) :
    List Condition :=
  [capCondition limits amount, standing.cooldownCondition limits now,
    standing.quotaCondition limits amount now]

/-! ## Effects -/

/-- One window is another after the amount was taken out of the quota. -/
structure Window.Fuller (amount : Amount) (before after : Window) : Prop where
  total : after.total.toNat = before.total.toNat + amount.toNat
  resetAt : after.resetAt = before.resetAt

/-- One standing is another after an amount was charged to it. -/
structure Charged (limits : Limits) (amount : Amount) (now : Seconds)
    (before after : Standing) : Prop where
  overrides : after.overrides = before.overrides
  exempt : after.exempt = before.exempt
  lastTransferAt : after.lastTransferAt = now
  window : Window.Fuller amount (before.windowAt limits.period now) after.window

theorem checkCap_eq_verdict (limits : Limits) (amount : Amount) :
    checkCap limits amount = verdict [capCondition limits amount] := by
  simp only [checkCap, verdict, capCondition, Amount.le_iff, Amount.lt_iff,
    decide_eq_true_eq]
  split
  next beyond => rw [if_neg (Nat.not_le.mpr beyond)]
  next within => rw [if_pos (Nat.not_lt.mp within)]

theorem checkCooldown_eq_verdict (standing : Standing) (limits : Limits) (now : Seconds) :
    standing.checkCooldown limits.cooldown now =
      verdict [standing.cooldownCondition limits now] := by
  rw [checkCooldown, waitUntil?_eq_ite]
  by_cases elapsed : standing.lastTransferAt = 0 ∨
      Seconds.deadline standing.lastTransferAt limits.cooldown ≤ now
  · simp [verdict, cooldownCondition, elapsed]
  · rw [if_neg elapsed]
    simp [verdict, cooldownCondition, elapsed]

theorem follows_planConsumption (standing : Standing) (limits : Limits) (amount : Amount)
    (now : Seconds) :
    Follows (Window.Fuller amount (standing.windowAt limits.period now))
      (verdict [standing.quotaCondition limits amount now])
      (standing.planConsumption limits amount now) := by
  have quotaBound := limits.quota.isLt
  simp only [planConsumption, verdict, quotaCondition, decide_eq_true_eq]
  cases sum : (standing.windowAt limits.period now).total.checkedAdd amount with
  | none =>
      have overflow := Amount.checkedAdd_eq_none_iff.mp sum
      rw [if_neg (by omega)]
      exact .refused _
  | some total =>
      have exact_total := Amount.checkedAdd_eq_some_iff.mp sum
      rw [exact_total]
      by_cases covered : total.toNat ≤ limits.quota.toNat
      · have notBeyond : ¬limits.quota < total := Nat.not_lt.mpr covered
        simp only [notBeyond, if_false, covered, if_true]
        exact .done ⟨exact_total.symm, rfl⟩
      · have beyond : limits.quota < total := Nat.not_le.mp covered
        simp only [beyond, if_true, covered, if_false]
        exact .refused _

theorem follows_charge (standing : Standing) (limits : Limits) (amount : Amount)
    (now : Seconds) :
    Follows (Charged limits amount now standing)
      (verdict (standing.conditions limits amount now))
      (standing.charge limits amount now) := by
  have plan := standing.follows_planConsumption limits amount now
  rw [conditions, charge]
  rw [← List.singleton_append, verdict_append, ← checkCap_eq_verdict,
    ← List.singleton_append, verdict_append, ← checkCooldown_eq_verdict]
  cases checkCap limits amount with
  | error refusal => exact .refused refusal
  | ok =>
      cases standing.checkCooldown limits.cooldown now with
      | error refusal => exact .refused refusal
      | ok =>
          change Follows _ (verdict [standing.quotaCondition limits amount now]) _
          revert plan
          generalize verdict [standing.quotaCondition limits amount now] = quota
          generalize standing.planConsumption limits amount now = planned
          intro plan
          cases plan with
          | refused refusal => exact .refused refusal
          | done fuller => exact .done ⟨rfl, rfl, rfl, fuller⟩

end Standing

namespace Limiter

/-- The caller may charge, and a position that is not exempt meets every limit. -/
def chargeConditions (limiter : Limiter) (now : Seconds) (caller : Address)
    (position : Position) (amount : Amount) : List Condition :=
  ⟨limiter.authority.holds .caller caller, .unauthorized .caller caller⟩ ::
    if limiter.isExempt position then []
    else
      (limiter.standing position).conditions (limiter.enforcedLimits position) amount now

/-- One limiter is another after an amount was charged at a position. An exempt position
has a record afterwards, which says what was known before. -/
structure Charged (now : Seconds) (position : Position) (amount : Amount)
    (before after : Limiter) : Prop where
  fallback : after.fallback = before.fallback
  defaults : after.defaults = before.defaults
  authority : after.authority = before.authority
  others : ∀ sought, sought ≠ position → after.standing? sought = before.standing? sought
  exempt : before.isExempt position = true →
    after.standing? position = some (before.standing position)
  charged : before.isExempt position = false →
    ∃ standing, after.standing? position = some standing ∧
      (before.standing position).Charged (before.enforcedLimits position) amount now standing

/-- What a charge publishes: the new total, unless the position is exempt. -/
def chargeEvents (before after : Limiter) (position : Position) (amount : Amount) :
    List Event :=
  if before.isExempt position then []
  else
    [.transferRecorded position.asset position.account amount
      (after.standing position).window.total]

/-! ## Commits -/

section Commit

variable {limiter : Limiter} {position : Position} {defaults : Limits}
  {judge : Standing → Limits → Except Refusal Standing}
  {report : Limiter → Standing → Outcome Limiter}

theorem commit_of_exempt (exempt : limiter.isExempt position = true) :
    limiter.commit position defaults judge report =
      .accepted (limiter.touch position) [] [] :=
  if_pos exempt

theorem commit_of_error {refusal : Refusal} (counted : limiter.isExempt position = false)
    (refused : judge (limiter.standing position)
      ((limiter.standing position).limits defaults) = .error refusal) :
    limiter.commit position defaults judge report =
      .refused (limiter.touch position) refusal := by
  rw [isExempt] at counted
  simp [commit, counted, refused]

theorem commit_of_ok {judged : Standing} (counted : limiter.isExempt position = false)
    (passed : judge (limiter.standing position)
      ((limiter.standing position).limits defaults) = .ok judged) :
    limiter.commit position defaults judge report =
      report (limiter.withStanding position judged) judged := by
  rw [isExempt] at counted
  simp [commit, counted, passed]

end Commit

/-! ## Charges -/

private theorem charged_withStanding {limiter : Limiter} {now : Seconds}
    {position : Position} {amount : Amount} {standing : Standing}
    (counted : limiter.isExempt position = false)
    (charged : (limiter.standing position).Charged (limiter.enforcedLimits position)
      amount now standing) :
    Charged now position amount limiter (limiter.withStanding position standing) where
  fallback := rfl
  defaults := rfl
  authority := rfl
  others sought different := by
    rw [standing?_withStanding, if_neg (Ne.symm different)]
  exempt exempt := nomatch exempt.symm.trans counted
  charged _ := ⟨standing, by rw [standing?_withStanding, if_pos rfl], charged⟩

private theorem charged_touch {limiter : Limiter} {now : Seconds} {position : Position}
    {amount : Amount} (exempt : limiter.isExempt position = true) :
    Charged now position amount limiter (limiter.touch position) where
  fallback := rfl
  defaults := rfl
  authority := rfl
  others sought different := by
    rw [touch, standing?_withStanding, if_neg (Ne.symm different)]
  exempt _ := by rw [touch, standing?_withStanding, if_pos rfl]
  charged counted := nomatch exempt.symm.trans counted

theorem require_eq_verdict (authority : Authority) (role : Role) (caller : Address) :
    authority.require role caller =
      verdict [⟨authority.holds role caller, .unauthorized role caller⟩] := rfl

theorem meets_charge (limiter : Limiter) (now : Seconds) (caller : Address)
    (position : Position) (amount : Amount) :
    (limiter.charge now caller position amount).Meets
      (limiter.chargeConditions now caller position amount) limiter.Alike
      (fun after events => Charged now position amount limiter after ∧
        events = chargeEvents limiter after position amount) := by
  rw [charge, chargeConditions, require_eq_verdict]
  apply Outcome.Meets.required _ (.refl limiter)
  rw [commitCharge]
  cases exempt : limiter.isExempt position with
  | true =>
      rw [commit_of_exempt exempt]
      exact Outcome.meets_accepted ⟨charged_touch exempt, by simp [chargeEvents, exempt]⟩
  | false =>
      have follows := (limiter.standing position).follows_charge
        (limiter.enforcedLimits position) amount now
      simp only [Bool.false_eq_true, if_false]
      generalize check : verdict ((limiter.standing position).conditions
        (limiter.enforcedLimits position) amount now) = decided at follows
      generalize charging : (limiter.standing position).charge
        (limiter.enforcedLimits position) amount now = judged at follows
      cases follows with
      | refused refusal =>
          rw [commit_of_error exempt charging]
          refine ⟨check.symm, Outcome.atomic_refused (.touch limiter position) refusal, ?_⟩
          intro accepted
          cases accepted
      | done charged =>
          rw [commit_of_ok exempt charging]
          refine ⟨check.symm, Outcome.atomic_of_ok rfl, fun _ =>
            ⟨charged_withStanding exempt charged, ?_⟩⟩
          simp [reportConsumption, Outcome.accepted, chargeEvents, exempt,
            standing_withStanding]

end Limiter

end Turnstile
