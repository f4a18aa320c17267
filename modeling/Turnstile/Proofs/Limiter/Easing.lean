import Turnstile.Proofs.Limiter.History

namespace Turnstile

/-! Limits that leave more room. Every dimension is taken for itself: what passes under the
narrower value passes under the wider one, at the same time or later and for the same amount or
less. The duration of the window has no part in it, since a window that is open ends when it
was to end. -/

private theorem Seconds.deadline_mono (start : Seconds) {shorter longer : Seconds}
    (ordered : shorter ≤ longer) : deadline start shorter ≤ deadline start longer := by
  rw [UInt64.le_iff_toNat_le] at ordered ⊢
  rw [toNat_deadline, toNat_deadline]
  omega

/-- Every dimension but the period leaves as much room as before. -/
structure Limits.Eased (before after : Limits) : Prop where
  cap : before.cap ≤ after.cap
  cooldown : after.cooldown ≤ before.cooldown
  quota : before.quota ≤ after.quota

theorem Limits.Eased.refl (limits : Limits) : limits.Eased limits where
  cap := Nat.le_refl _
  cooldown := UInt64.le_refl _
  quota := Nat.le_refl _

theorem Limits.eased_unlimited (limits : Limits) (period : Seconds) :
    limits.Eased { unlimited with period } where
  cap := Nat.le_sub_one_of_lt limits.cap.isLt
  cooldown := UInt64.zero_le
  quota := Nat.le_sub_one_of_lt limits.quota.isLt

namespace Standing

/-- Nothing was transferred and nothing consumed in between. -/
structure SameUse (before after : Standing) : Prop where
  lastTransferAt : after.lastTransferAt = before.lastTransferAt
  window : after.window = before.window

section

variable {before after : Standing} {narrow wide : Limits} {amount less : Amount}
  {now later : Seconds}

/-- As time goes by, a window can only be emptied. -/
private theorem total_windowAt_le (used : SameUse before after) (ordered : now ≤ later)
    (period other : Seconds) :
    (after.windowAt other later).total ≤ (before.windowAt period now).total := by
  rw [windowAt, windowAt, used.window]
  by_cases ended : before.window.resetAt = 0 ∨ before.window.resetAt ≤ now
  · have endedLater := ended.imp_right fun passed => UInt64.le_trans passed ordered
    rw [if_pos ended, if_pos endedLater]
    exact Nat.le_refl _
  · rw [if_neg ended]
    split
    · exact Nat.zero_le _
    · exact Nat.le_refl _

private theorem capCondition_of_eased (eased : narrow.Eased wide) (smaller : less ≤ amount)
    (holds : (capCondition narrow amount).holds = true) :
    (capCondition wide less).holds = true := by
  simp only [capCondition, decide_eq_true_eq] at holds ⊢
  exact Nat.le_trans smaller (Nat.le_trans holds eased.cap)

private theorem cooldownCondition_of_eased (eased : narrow.Eased wide) (used : SameUse before after)
    (ordered : now ≤ later) (holds : (before.cooldownCondition narrow now).holds = true) :
    (after.cooldownCondition wide later).holds = true := by
  simp only [cooldownCondition, decide_eq_true_eq, used.lastTransferAt] at holds ⊢
  refine holds.imp_right fun rested => ?_
  have sooner := Seconds.deadline_mono before.lastTransferAt eased.cooldown
  exact UInt64.le_trans (UInt64.le_trans sooner rested) ordered

private theorem quotaCondition_of_eased (eased : narrow.Eased wide) (used : SameUse before after)
    (ordered : now ≤ later) (smaller : less ≤ amount)
    (holds : (before.quotaCondition narrow amount now).holds = true) :
    (after.quotaCondition wide less later).holds = true := by
  have emptier := total_windowAt_le used ordered narrow.period wide.period
  have quota := eased.quota
  simp only [quotaCondition, decide_eq_true_eq, Amount.le_iff] at holds emptier smaller quota ⊢
  omega

theorem conditions_of_eased (eased : narrow.Eased wide) (used : SameUse before after)
    (ordered : now ≤ later) (smaller : less ≤ amount)
    (passed : verdict (before.conditions narrow amount now) = .ok ()) :
    verdict (after.conditions wide less later) = .ok () := by
  simp only [conditions, verdict_cons_eq_ok_iff, verdict_nil, and_true] at passed ⊢
  rcases passed with ⟨cap, cooldown, quota⟩
  exact ⟨capCondition_of_eased eased smaller cap,
    cooldownCondition_of_eased eased used ordered cooldown,
    quotaCondition_of_eased eased used ordered smaller quota⟩

end

end Standing

namespace Limiter

/-- The position has used what it had used before, and is exempt if it was, or else under
limits that leave as much room. -/
structure Eased (position : Position) (before after : Limiter) : Prop where
  exempt : before.isExempt position = true → after.isExempt position = true
  limits : (before.effectiveLimits position).Eased (after.effectiveLimits position)
  used : (before.standing position).SameUse (after.standing position)

theorem Eased.refl (position : Position) (limiter : Limiter) : Eased position limiter limiter where
  exempt := id
  limits := .refl _
  used := ⟨rfl, rfl⟩

theorem eased_withExemption (limiter : Limiter) (position : Position) :
    Eased position limiter (limiter.withExemption position true) := by
  have standing : (limiter.withExemption position true).standing position =
      { limiter.standing position with exempt := true } := by
    rw [withExemption, standing_withStanding, if_pos rfl]
  have exempt : (limiter.withExemption position true).isExempt position = true := by
    rw [isExempt, standing]
  refine ⟨fun _ => exempt, ?limits, ?used⟩
  case limits =>
    rw [effectiveLimits_of_exempt exempt]
    exact Limits.eased_unlimited _ _
  case used =>
    rw [standing]
    exact ⟨rfl, rfl⟩

theorem chargeConditions_of_eased {before after : Limiter} {position : Position}
    {now later : Seconds} {caller other : Address} {amount less : Amount}
    (eased : Eased position before after)
    (permitted : before.authority.holds .caller caller = true →
      after.authority.holds .caller other = true)
    (ordered : now ≤ later) (smaller : less ≤ amount)
    (passed : verdict (before.chargeConditions now caller position amount) = .ok ()) :
    verdict (after.chargeConditions later other position less) = .ok () := by
  rw [chargeConditions, verdict_cons_eq_ok_iff] at passed ⊢
  refine ⟨permitted passed.1, ?_⟩
  cases counted : after.isExempt position with
  | true => rfl
  | false =>
      have stricter : before.isExempt position = false :=
        Bool.eq_false_iff.mpr (mt eased.exempt (Bool.eq_false_iff.mp counted))
      have limits := eased.limits
      have conditions := passed.2
      rw [effectiveLimits_of_counted stricter, effectiveLimits_of_counted counted] at limits
      rw [stricter] at conditions
      exact Standing.conditions_of_eased limits eased.used ordered smaller conditions

end Limiter

end Turnstile
