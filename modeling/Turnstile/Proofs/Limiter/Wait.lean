import Turnstile.Proofs.Limiter.Cooldown
import Turnstile.Proofs.Limiter.Enforcement
import Turnstile.Proofs.Limiter.Repetition

namespace Turnstile

/-! How long a position has to wait. The time that it is told does not depend on when it asks,
and it is refused before that time and at no other. Without a cooldown this is the time of its
latest transfer, so it is refused as long as the clock stands before that time again. -/

namespace Standing

variable {standing : Standing} {limits : Limits} {cooldown now next : Seconds}

theorem waitUntil?_eq_some_iff :
    standing.waitUntil? cooldown now = some next ↔
      standing.nextAllowedAt? cooldown = some next ∧ now < next := by
  rw [waitUntil?, Option.filter_eq_some_iff, decide_eq_true_eq]

theorem checkCooldown_eq_error_iff :
    standing.checkCooldown cooldown now = .error (.cooldownNotElapsed next) ↔
      standing.nextAllowedAt? cooldown = some next ∧ now < next := by
  rw [checkCooldown, ← waitUntil?_eq_some_iff]
  cases standing.waitUntil? cooldown now <;> simp

theorem cooldownCondition_refuses_iff :
    (standing.cooldownCondition limits now).holds = false ∧
        (standing.cooldownCondition limits now).refusal = .cooldownNotElapsed next ↔
      standing.nextAllowedAt? limits.cooldown = some next ∧ now < next := by
  rw [← checkCooldown_eq_error_iff, checkCooldown_eq_verdict, verdict_cons_eq_error_iff]
  simp

private theorem waitUntil?_of_nextAllowedAt? (found : standing.nextAllowedAt? cooldown = some next)
    (now : Seconds) :
    standing.waitUntil? cooldown now = if now < next then some next else none := by
  rw [waitUntil?, found, Option.filter_some]
  simp only [decide_eq_true_eq]

theorem checkCooldown_of_nextAllowedAt? (found : standing.nextAllowedAt? cooldown = some next)
    (now : Seconds) :
    standing.checkCooldown cooldown now =
      if now < next then .error (.cooldownNotElapsed next) else .ok () := by
  rw [checkCooldown, waitUntil?_of_nextAllowedAt? found]
  by_cases early : now < next
  · rw [if_pos early, if_pos early]
  · rw [if_neg early, if_neg early]

theorem checkCooldown_eq_ok_iff :
    standing.checkCooldown cooldown now = .ok () ↔
      ∀ next, standing.nextAllowedAt? cooldown = some next → next ≤ now := by
  cases found : standing.nextAllowedAt? cooldown with
  | none => simp [checkCooldown, waitUntil?, found]
  | some next =>
      rw [checkCooldown_of_nextAllowedAt? found]
      by_cases early : now < next
      · simp [early, UInt64.not_le.mpr early]
      · simp [early, UInt64.not_lt.mp early]

/-- Without a cooldown, the next transfer may pass from the time of the last one on. -/
theorem nextAllowedAt?_zero_iff :
    standing.nextAllowedAt? 0 = some next ↔
      standing.lastTransferAt ≠ 0 ∧ standing.lastTransferAt = next := by
  rw [nextAllowedAt?, Seconds.deadline_zero]
  split <;> simp [*]

end Standing

namespace Limiter

variable {limiter : Limiter} {now next : Seconds} {caller : Address} {position : Position}
  {amount : Amount}

/-! ## Refused for the cooldown -/

/-- The earliest time at which the position may start its cooldown again, `none` before it has
started it once. -/
def nextStart? (limiter : Limiter) (position : Position) : Option Seconds :=
  (limiter.standing position).nextAllowedAt? (limiter.enforcedLimits position).cooldown

theorem enforceCooldown_waits_iff :
    (limiter.enforceCooldown now caller position).answer = .error (.cooldownNotElapsed next) ↔
      limiter.authority.holds .caller caller = true ∧ limiter.isExempt position = false ∧
        limiter.nextStart? position = some next ∧ now < next := by
  have decided := limiter.answer_enforcement now caller .pace position
  change (limiter.enforceCooldown now caller position).answer = _ at decided
  rw [decided, enforcementConditions, verdict_cons_eq_error_iff, nextStart?]
  cases limiter.isExempt position with
  | true => simp
  | false =>
      simp [Enforcement.conditions, verdict_cons_eq_error_iff,
        Standing.cooldownCondition_refuses_iff]

theorem charge_waits_iff :
    (limiter.charge now caller position amount).answer = .error (.cooldownNotElapsed next) ↔
      limiter.authority.holds .caller caller = true ∧ limiter.isExempt position = false ∧
        amount ≤ (limiter.enforcedLimits position).cap ∧
        limiter.nextStart? position = some next ∧ now < next := by
  rw [(meets_charge limiter now caller position amount).answer, chargeConditions,
    verdict_cons_eq_error_iff, nextStart?]
  cases limiter.isExempt position with
  | true => simp
  | false =>
      simp [Standing.conditions, verdict_cons_eq_error_iff,
        Standing.cooldownCondition_refuses_iff, Standing.capCondition, Standing.quotaCondition]

theorem answer_enforceCooldown (permitted : limiter.authority.holds .caller caller = true)
    (counted : limiter.isExempt position = false) (now : Seconds) :
    (limiter.enforceCooldown now caller position).answer =
      (limiter.standing position).checkCooldown (limiter.enforcedLimits position).cooldown
        now := by
  have decided := limiter.answer_enforcement now caller .pace position
  rw [enforcementConditions, verdict_cons, permitted, counted] at decided
  rw [Standing.checkCooldown_eq_verdict]
  exact decided

theorem nextValidTransferTime_of_nextStart? (counted : limiter.isExempt position = false)
    (found : limiter.nextStart? position = some next) (now : Seconds) :
    limiter.nextValidTransferTime position now = if now < next then next else 0 := by
  rw [nextValidTransferTime, counted, Standing.waitUntil?_of_nextAllowedAt? found]
  by_cases early : now < next
  · simp [early]
  · simp [early]

/-- Nothing that has to be waited for is mistaken for the zero that says that there is nothing. -/
theorem nextValidTransferTime_eq_zero_iff (counted : limiter.isExempt position = false) :
    limiter.nextValidTransferTime position now = 0 ↔
      ∀ next, limiter.nextStart? position = some next → next ≤ now := by
  cases found : limiter.nextStart? position with
  | none =>
      rw [nextStart?] at found
      simp [nextValidTransferTime, counted, Standing.waitUntil?, found]
  | some next =>
      rw [nextValidTransferTime_of_nextStart? counted found]
      by_cases early : now < next
      · have later : next ≠ 0 := fun zero => UInt64.not_lt_zero (zero ▸ early)
        simp [early, later, UInt64.not_le.mpr early]
      · simp [early, UInt64.not_lt.mp early]

/-! ## Without a cooldown -/

/-- The time of the latest start of the cooldown, zero before the first one. -/
def latestStart (position : Position) (past : List Moment) : Seconds :=
  (starts position past).head?.elim 0 Moment.now

/-- A clock that has never been ahead of a time was not ahead of it at the latest start. -/
theorem latestStart_le {start : Limiter} {calls : List (Timed Request)}
    (reached : ∀ call ∈ calls, call.now ≤ now) :
    latestStart position (start.past calls) ≤ now := by
  rw [latestStart]
  cases found : (starts position (start.past calls)).head? with
  | none => exact UInt64.zero_le
  | some moment =>
      have started := List.mem_of_mem_head? (Option.mem_def.mpr found)
      have past := (List.mem_filter.mp started).1
      exact reached moment.call (Run.call_mem_of_mem_past past)

private theorem nextStart?_of_uncooled (uncooled : (limiter.enforcedLimits position).cooldown = 0) :
    limiter.nextStart? position = some next ∧ now < next ↔
      (limiter.standing position).lastTransferAt = next ∧
        now < (limiter.standing position).lastTransferAt := by
  rw [nextStart?, uncooled, Standing.nextAllowedAt?_zero_iff]
  constructor
  · rintro ⟨⟨_, rfl⟩, behind⟩
    exact ⟨rfl, behind⟩
  · rintro ⟨rfl, behind⟩
    exact ⟨⟨fun never => UInt64.not_lt_zero (never ▸ behind), rfl⟩, behind⟩

private theorem nextValidTransferTime_of_uncooled (counted : limiter.isExempt position = false)
    (uncooled : (limiter.enforcedLimits position).cooldown = 0) (now : Seconds) :
    let latest := (limiter.standing position).lastTransferAt
    limiter.nextValidTransferTime position now = if now < latest then latest else 0 := by
  intro latest
  by_cases behind : now < latest
  · have found := ((nextStart?_of_uncooled uncooled).mpr ⟨rfl, behind⟩).1
    exact nextValidTransferTime_of_nextStart? counted found now
  · rw [if_neg behind, nextValidTransferTime_eq_zero_iff counted]
    intro next found
    refine UInt64.not_lt.mp fun early => behind ?_
    exact ((nextStart?_of_uncooled uncooled).mp ⟨found, early⟩).2

/-- After any run of a new limiter, a position that has no cooldown is refused for its cooldown
all the same, exactly as long as the clock stands before the time of its latest start, and this
is the time that it is told. It does not happen where no call of the run was made later. -/
theorem refused_behind_latestStart {admin : Address} {fallback : Limits} {start : Limiter}
    (founded : Limiter.founded admin fallback = .ok start) (calls : List (Timed Request))
    {position : Position} (counted : (Run.final handle start calls).isExempt position = false)
    (uncooled : ((Run.final handle start calls).effectiveLimits position).cooldown = 0)
    (now : Seconds) :
    let limiter := Run.final handle start calls
    let latest := latestStart position (start.past calls)
    (∀ caller next,
        (limiter.enforceCooldown now caller position).answer =
            .error (.cooldownNotElapsed next) ↔
          limiter.authority.holds .caller caller = true ∧ latest = next ∧ now < latest) ∧
      (∀ caller amount next,
        (limiter.charge now caller position amount).answer =
            .error (.cooldownNotElapsed next) ↔
          limiter.authority.holds .caller caller = true ∧
            amount ≤ (limiter.effectiveLimits position).cap ∧ latest = next ∧ now < latest) ∧
      limiter.nextValidTransferTime position now = (if now < latest then latest else 0) ∧
      ((∀ call ∈ calls, call.now ≤ now) → latest ≤ now) := by
  intro limiter latest
  have stored : (limiter.standing position).lastTransferAt = latest :=
    (paced_final founded position calls).latest
  have enforced : limiter.effectiveLimits position = limiter.enforcedLimits position :=
    effectiveLimits_of_counted counted
  have uncooled : (limiter.enforcedLimits position).cooldown = 0 := enforced ▸ uncooled
  refine ⟨fun caller next => ?_, fun caller amount next => ?_, ?_, latestStart_le⟩
  · rw [enforceCooldown_waits_iff, nextStart?_of_uncooled uncooled, stored]
    simp [show limiter.isExempt position = false from counted]
  · rw [charge_waits_iff, nextStart?_of_uncooled uncooled, stored, enforced]
    simp [show limiter.isExempt position = false from counted]
  · rw [← stored]
    exact nextValidTransferTime_of_uncooled counted uncooled now

/-! ### A clock that is set back

No limit of any kind is in force. -/

namespace Sample

def unbounded : Limiter where
  fallback := .unlimited
  defaults := .empty
  standings := .empty
  authority := .ofGrants [⟨.admin, admin⟩]

private theorem founded_unbounded : Limiter.founded admin .unlimited = .ok unbounded := rfl

def aheadCalls : List (Timed Request) :=
  [⟨1000, authorize⟩, ⟨1000, charge (.ofNat 30)⟩]

def ahead : Limiter :=
  Run.final handle unbounded aheadCalls

private theorem reachable_ahead : ahead.Reachable :=
  ⟨admin, .unlimited, unbounded, founded_unbounded, aheadCalls, rfl⟩

end Sample

theorem refused_behind_latestStart_sample :
    latestStart Sample.position (Sample.unbounded.past Sample.aheadCalls) = 1000 ∧
      (Sample.ahead.enforceCooldown 999 Sample.service Sample.position).answer =
        .error (.cooldownNotElapsed 1000) ∧
      Sample.ahead.nextValidTransferTime Sample.position 1000 = 0 := by
  have counted : Sample.ahead.isExempt Sample.position = false := rfl
  have uncooled : (Sample.ahead.effectiveLimits Sample.position).cooldown = 0 := rfl
  have behind := refused_behind_latestStart Sample.founded_unbounded Sample.aheadCalls counted
    uncooled 999
  have reached := refused_behind_latestStart Sample.founded_unbounded Sample.aheadCalls counted
    uncooled 1000
  exact ⟨rfl, (behind.1 Sample.service 1000).mpr ⟨rfl, rfl, by decide⟩, reached.2.2.1⟩

/-- Set back, the clock makes the position wait for the end of a cooldown that it does not have. -/
theorem clock_set_back_sample :
    Sample.ahead.Reachable ∧ Sample.ahead.isExempt Sample.position = false ∧
      Sample.ahead.effectiveLimits Sample.position = .unlimited ∧
      (Sample.ahead.enforceCooldown 500 Sample.service Sample.position).answer =
        .error (.cooldownNotElapsed 1000) ∧
      (Sample.ahead.charge 500 Sample.service Sample.position .zero).answer =
        .error (.cooldownNotElapsed 1000) ∧
      Sample.ahead.nextValidTransferTime Sample.position 500 = 1000 :=
  ⟨Sample.reachable_ahead, rfl, rfl, rfl, rfl, rfl⟩

end Limiter

end Turnstile
