import Turnstile.Proofs.Limiter.Validity

namespace Turnstile

/-! Charges repeated at one reading of the clock. Away from the first and the last second,
where a time stands for "never" or a deadline cannot lie in the future, the limiter does not
forget a charge that it has just admitted. -/

namespace Seconds

private theorem lt_deadline {now delay : Seconds} (positive : delay ≠ 0) (early : now ≠ last) :
    now < deadline now delay := by
  have bound := now.toNat_lt
  have notLast : now.toNat ≠ UInt64.size - 1 := fun equal =>
    early (UInt64.toNat_inj.mp equal)
  have delayed : delay.toNat ≠ 0 := fun zero => positive (UInt64.toNat_inj.mp zero)
  rw [UInt64.lt_iff_toNat_lt, toNat_deadline]
  unfold UInt64.size at *
  omega

theorem deadline_zero (now : Seconds) : deadline now 0 = now := by
  have bound : now.toNat + (0 : Seconds).toNat < UInt64.size := now.toNat_lt
  apply UInt64.toNat_inj.mp
  rw [toNat_deadline_of_lt bound]
  rfl

end Seconds

namespace Standing

variable {before after : Standing} {limits : Limits} {amount : Amount} {now : Seconds}

private theorem lt_resetAt_windowAt (standing : Standing) {period now : Seconds}
    (positive : period ≠ 0) (early : now ≠ Seconds.last) :
    now < (standing.windowAt period now).resetAt := by
  rw [windowAt]
  split
  next => exact Seconds.lt_deadline positive early
  next open_ => exact UInt64.not_le.mp fun ended => open_ (.inr ended)

private theorem windowAt_of_lt {standing : Standing} (running : now < standing.window.resetAt)
    (period : Seconds) : standing.windowAt period now = standing.window := by
  apply if_neg
  rintro (never | ended)
  · rw [never] at running
    exact UInt64.not_lt_zero running
  · exact UInt64.not_le.mpr running ended

/-- A window that something was taken from is still open at the same time. -/
theorem windowAt_of_fuller
    (fuller : Window.Fuller amount (before.windowAt limits.period now) after.window)
    (positive : limits.period ≠ 0) (early : now ≠ Seconds.last) :
    after.windowAt limits.period now = after.window := by
  apply windowAt_of_lt
  rw [fuller.resetAt]
  exact before.lt_resetAt_windowAt positive early

/-! ### Verdicts on a second charge -/

private theorem verdict_of_cap_lt (standing : Standing) (beyond : limits.cap < amount) :
    verdict (standing.conditions limits amount now) =
      .error (.limitExceeded amount limits.cap) := by
  have bars : (capCondition limits amount).holds = false :=
    decide_eq_false (Nat.not_le.mpr beyond)
  rw [conditions, verdict_cons, bars]
  rfl

private theorem verdict_of_charged (charged : Charged limits amount now before after)
    {next : Amount} (within : next ≤ limits.cap) (some : limits.cooldown ≠ 0) (started : now ≠ 0)
    (early : now ≠ Seconds.last) :
    verdict (after.conditions limits next now) =
      .error (.cooldownNotElapsed (Seconds.deadline now limits.cooldown)) := by
  have allows : (capCondition limits next).holds = true := decide_eq_true within
  have later := UInt64.not_le.mpr (Seconds.lt_deadline some early)
  have waits : after.cooldownCondition limits now =
      ⟨false, .cooldownNotElapsed (Seconds.deadline now limits.cooldown)⟩ := by
    simp [cooldownCondition, charged.lastTransferAt, started, later]
  rw [conditions, verdict_cons, allows, if_pos rfl, verdict_cons, waits]
  rfl

private theorem verdict_of_charged_eq_ok_iff (charged : Charged limits amount now before after)
    {next : Amount} (within : next ≤ limits.cap) (none : limits.cooldown = 0)
    (positive : limits.period ≠ 0) (early : now ≠ Seconds.last) :
    verdict (after.conditions limits next now) = .ok () ↔
      after.window.total.toNat + next.toNat ≤ limits.quota.toNat := by
  have allows : (capCondition limits next).holds = true := decide_eq_true within
  have elapsed : (after.cooldownCondition limits now).holds = true := by
    simp [cooldownCondition, charged.lastTransferAt, none, Seconds.deadline_zero]
  have window := windowAt_of_fuller charged.window positive early
  rw [conditions, verdict_cons_eq_ok_iff, verdict_cons_eq_ok_iff, verdict_cons_eq_ok_iff]
  simp [allows, elapsed, quotaCondition, window]

end Standing

namespace Limiter

variable {limiter after : Limiter} {now : Seconds} {position : Position} {amount : Amount}

theorem Charged.enforcedLimits (charged : Charged now position amount limiter after)
    (counted : limiter.isExempt position = false) :
    after.enforcedLimits position = limiter.enforcedLimits position := by
  rcases charged.charged counted with ⟨standing, found, change⟩
  rw [Limiter.enforcedLimits, Limiter.standing, found, Option.getD_some, Standing.limits,
    change.overrides, defaultLimits, charged.defaults, charged.fallback]
  rfl

theorem Charged.standing (charged : Charged now position amount limiter after)
    (counted : limiter.isExempt position = false) :
    (limiter.standing position).Charged (after.enforcedLimits position) amount now
      (after.standing position) := by
  rw [charged.enforcedLimits counted]
  rcases charged.charged counted with ⟨standing, found, change⟩
  have written : after.standing position = standing := by
    rw [Limiter.standing, found, Option.getD_some]
  rw [written]
  exact change

/-- A second charge is decided by cap, cooldown and quota of the standing that the first has
left. -/
theorem charge_again (charged : Charged now position amount limiter after)
    (counted : limiter.isExempt position = false) {caller : Address}
    (authorized : limiter.authority.holds .caller caller = true) (next : Amount) :
    (after.charge now caller position next).answer =
      verdict ((after.standing position).conditions (after.enforcedLimits position) next
        now) := by
  have stillCounted : after.isExempt position = false := by
    rw [isExempt, (charged.standing counted).exempt]
    exact counted
  rw [(meets_charge after now caller position next).answer, chargeConditions, verdict_cons,
    charged.authority, authorized, if_pos rfl, stillCounted]
  rfl

/-- After a charge, a second one at the same time is refused if it is above the cap; if it is
not, a cooldown refuses it, and without a cooldown the quota decides about it on top of what
the first charge has left in the window. Nothing is said about a cooldown at the first or
the last second, nor about the window at the last. -/
theorem charge_remembered (reachable : limiter.Reachable)
    (counted : limiter.isExempt position = false) {caller again : Address}
    (charged : (limiter.charge now caller position amount).answer = .ok ())
    (authorized : limiter.authority.holds .caller again = true) (next : Amount) :
    let after := (limiter.charge now caller position amount).world
    let limits := after.effectiveLimits position
    let answer := (after.charge now again position next).answer
    (limits.cap < next → answer = .error (.limitExceeded next limits.cap)) ∧
      (next ≤ limits.cap → limits.cooldown ≠ 0 → now ≠ 0 → now ≠ Seconds.last →
        answer = .error (.cooldownNotElapsed (Seconds.deadline now limits.cooldown))) ∧
      (next ≤ limits.cap → limits.cooldown = 0 → now ≠ Seconds.last →
        (answer = .ok () ↔
          (after.standing position).window.total.toNat + next.toNat ≤ limits.quota.toNat)) := by
  intro after limits answer
  have change : Charged now position amount limiter after :=
    ((meets_charge limiter now caller position amount).done charged).1
  have standing := change.standing counted
  have enforced : limits = after.enforcedLimits position :=
    effectiveLimits_of_counted (standing.exempt.trans counted)
  have positive : limits.period ≠ 0 := by
    rw [enforced, change.enforcedLimits counted]
    exact (reachable.wellLimited.enforcedLimits position).2.2
  rw [← enforced] at standing
  have decided : answer = verdict ((after.standing position).conditions limits next now) := by
    rw [enforced]
    exact charge_again change counted authorized next
  rw [decided]
  exact ⟨Standing.verdict_of_cap_lt _, Standing.verdict_of_charged standing,
    fun within none early =>
      Standing.verdict_of_charged_eq_ok_iff standing within none positive early⟩

namespace Sample

/-- An asset without a cooldown. -/
def unpaced : Position := ⟨address 8, address 3⟩

def preparedCalls : List (Timed Request) :=
  [⟨0, authorize⟩, ⟨0, .perform admin (.setDefaultCooldown unpaced.asset 0)⟩]

def prepared : Limiter :=
  Run.final handle start preparedCalls

private theorem reachable_prepared : prepared.Reachable :=
  ⟨admin, fallback, start, founded, preparedCalls, rfl⟩

theorem authorized : prepared.authority.holds .caller service = true := rfl

def first (now : Seconds) (charged : Position) (amount : Amount) : Outcome Limiter :=
  prepared.charge now service charged amount

/-- The answer to the second of two charges at one time. -/
def answerAgain (now : Seconds) (charged : Position) (amount next : Amount) :
    Except Refusal Unit :=
  ((first now charged amount).world.charge now service charged next).answer

end Sample

theorem charge_remembered_sample :
    Sample.answerAgain 1000 Sample.position (.ofNat 30) (.ofNat 30) =
        .error (.cooldownNotElapsed 1060) ∧
      Sample.answerAgain 1000 Sample.position (.ofNat 30) (.ofNat 51) =
        .error (.limitExceeded (.ofNat 51) (.ofNat 50)) ∧
      Sample.answerAgain 0 Sample.unpaced (.ofNat 50) (.ofNat 30) = .ok () := by
  have counted : Sample.prepared.isExempt Sample.position = false := rfl
  have charged : (Sample.first 1000 Sample.position (.ofNat 30)).answer = .ok () := rfl
  have unpacedCounted : Sample.prepared.isExempt Sample.unpaced = false := rfl
  have unpacedCharged : (Sample.first 0 Sample.unpaced (.ofNat 50)).answer = .ok () := rfl
  have remembered := charge_remembered Sample.reachable_prepared counted charged
    Sample.authorized
  have unpaced := charge_remembered Sample.reachable_prepared unpacedCounted unpacedCharged
    Sample.authorized (.ofNat 30)
  refine ⟨?_, ?_, ?_⟩
  · exact (remembered (.ofNat 30)).2.1 (by decide) (by decide) (by decide) (by decide)
  · exact (remembered (.ofNat 51)).1 (by decide)
  · exact (unpaced.2.2 (by decide) rfl (by decide)).mpr (by decide)

/-- Under a cooldown of a minute, a second charge above the cap is refused for the cap, and a
second charge at the first or the last second passes. At the last second it also passes
beyond the quota. -/
theorem charge_forgotten_sample :
    Sample.prepared.Reachable ∧
      Sample.prepared.effectiveLimits Sample.position =
        ⟨.ofNat 50, 60, .ofNat 80, 3600⟩ ∧
      Sample.prepared.isExempt Sample.position = false ∧
      (Sample.first 1000 Sample.position (.ofNat 30)).answer = .ok () ∧
      Sample.answerAgain 1000 Sample.position (.ofNat 30) (.ofNat 51) =
        .error (.limitExceeded (.ofNat 51) (.ofNat 50)) ∧
      (Sample.first 0 Sample.position (.ofNat 30)).answer = .ok () ∧
      Sample.answerAgain 0 Sample.position (.ofNat 30) (.ofNat 30) = .ok () ∧
      (Sample.first Seconds.last Sample.position (.ofNat 30)).answer = .ok () ∧
      Sample.answerAgain Seconds.last Sample.position (.ofNat 30) (.ofNat 30) =
        .ok () ∧
      Sample.prepared.effectiveLimits Sample.unpaced =
        ⟨.ofNat 50, 0, .ofNat 80, 3600⟩ ∧
      Sample.prepared.isExempt Sample.unpaced = false ∧
      (Sample.first Seconds.last Sample.unpaced (.ofNat 50)).answer = .ok () ∧
      ((Sample.first Seconds.last Sample.unpaced (.ofNat 50)).world.standing
        Sample.unpaced).window.total = .ofNat 50 ∧
      Sample.answerAgain Seconds.last Sample.unpaced (.ofNat 50) (.ofNat 50) =
        .ok () :=
  ⟨Sample.reachable_prepared, rfl, rfl, rfl, rfl, rfl, rfl, rfl, rfl, rfl, rfl, rfl, rfl, rfl⟩

end Limiter

end Turnstile
