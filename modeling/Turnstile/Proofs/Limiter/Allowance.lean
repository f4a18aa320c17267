import Turnstile.Proofs.Limiter.Enforcement
import Turnstile.Proofs.Limiter.Repetition

namespace Turnstile

/-! The allowance that is shown and the transfers that are recorded. The one is a saturating
difference in a window that is rotated for the eye only, the other a checked sum in a window
that is written. Still, what is shown is what can be recorded, in windows never opened, open
or ended, and also where the quota was lowered below what the window holds: nothing is shown
then and nothing can be recorded. -/

namespace Standing

variable {standing before after : Standing} {limits : Limits} {amount : Amount} {now : Seconds}

/-- An amount of zero would be covered by an allowance of zero, but not by a window that holds
more than the quota. -/
theorem quotaCondition_iff_remaining (nonzero : amount ≠ .zero) :
    (standing.quotaCondition limits amount now).holds = true ↔
      amount ≤ standing.remaining limits now := by
  have positive : amount.toNat ≠ 0 := fun zero => nonzero (Amount.ext_toNat zero)
  rw [Amount.le_iff, remaining, Amount.toNat_saturatingSub]
  simp only [quotaCondition, decide_eq_true_eq]
  omega

/-- What was taken is missing from what remains, as long as the window goes on. -/
private theorem remaining_of_fuller
    (covered : (before.quotaCondition limits amount now).holds = true)
    (fuller : Window.Fuller amount (before.windowAt limits.period now) after.window)
    (goesOn : after.windowAt limits.period now = after.window) :
    (after.remaining limits now).toNat + amount.toNat =
      (before.remaining limits now).toNat := by
  simp only [quotaCondition, decide_eq_true_eq] at covered
  rw [remaining, remaining, Amount.toNat_saturatingSub, Amount.toNat_saturatingSub, goesOn,
    fuller.total]
  omega

end Standing

namespace Limiter

variable {limiter : Limiter} {now : Seconds} {caller : Address} {position : Position}
  {amount : Amount}

private theorem remainingAllowance_of_counted (counted : limiter.isExempt position = false)
    (now : Seconds) :
    let standing := limiter.standing position
    let limits := limiter.enforcedLimits position
    limiter.remainingAllowance position now =
      (standing.remaining limits now, (standing.windowAt limits.period now).resetAt) := by
  rw [remainingAllowance, counted]
  rfl

theorem recordTransfer_iff_allowance (counted : limiter.isExempt position = false)
    (permitted : limiter.authority.holds .caller caller = true) (nonzero : amount ≠ .zero) :
    (limiter.recordTransfer now caller position amount).answer = .ok () ↔
      amount ≤ (limiter.remainingAllowance position now).1 := by
  have decided := limiter.answer_enforcement now caller (.consume amount) position
  rw [enforcementConditions, verdict_cons, permitted, counted] at decided
  rw [remainingAllowance_of_counted counted, ← Standing.quotaCondition_iff_remaining nonzero]
  change (limiter.perform now caller ((Enforcement.consume amount).command position)).answer =
    .ok () ↔ _
  rw [decided]
  simp [Enforcement.conditions, verdict_cons_eq_ok_iff]

/-- After a consumption, what is shown is what its standing leaves under the same limits. -/
theorem remainingAllowance_of_consumed (counted : limiter.isExempt position = false)
    {standing : Standing}
    (passed : (Enforcement.consume amount).Passed (limiter.enforcedLimits position) now
      (limiter.standing position) standing) :
    let limits := limiter.enforcedLimits position
    (limiter.withStanding position standing).remainingAllowance position now =
      (standing.remaining limits now, (standing.windowAt limits.period now).resetAt) := by
  have stillCounted : (limiter.withStanding position standing).isExempt position = false := by
    rw [isExempt_withStanding, passed.exempt]
    exact counted
  rw [remainingAllowance_of_counted stillCounted, enforcedLimits_withStanding, Standing.limits,
    passed.overrides, standing_withStanding, if_pos rfl]
  rfl

/-- A caller can record any amount up to the allowance that is shown, and none above it. The
allowance shown is then smaller by exactly this amount and ends when it was shown to end,
which is what is written down. -/
theorem allowance_honoured (reachable : limiter.Reachable)
    (counted : limiter.isExempt position = false)
    (permitted : limiter.authority.holds .caller caller = true) (early : now < Seconds.last)
    (nonzero : amount ≠ .zero) :
    let shown := limiter.remainingAllowance position now
    let outcome := limiter.recordTransfer now caller position amount
    let left := outcome.world.remainingAllowance position now
    (outcome.answer = .ok () ↔ amount ≤ shown.1) ∧
      (outcome.answer = .ok () →
        left.1.toNat + amount.toNat = shown.1.toNat ∧ left.2 = shown.2 ∧
          ∃ standing, outcome.world.standing? position = some standing ∧
            standing.window.resetAt = shown.2) := by
  intro shown outcome left
  refine ⟨recordTransfer_iff_allowance counted permitted nonzero, fun accepted => ?_⟩
  rcases world_enforcement counted (.consume amount) accepted with ⟨standing, passed, written⟩
  change outcome.world = _ at written
  rcases passed.consumed amount rfl with ⟨covered, fuller⟩
  have lasting := (reachable.wellLimited.enforcedLimits position).2.2
  have goesOn := Standing.windowAt_of_fuller fuller lasting
    fun last => UInt64.lt_irrefl _ (last ▸ early)
  have before : shown = _ := remainingAllowance_of_counted counted now
  have after : left = _ := (congrArg (·.remainingAllowance position now) written).trans
    (remainingAllowance_of_consumed counted passed)
  rw [before, after, goesOn, written]
  refine ⟨Standing.remaining_of_fuller covered fuller goesOn, fuller.resetAt, standing, ?_,
    fuller.resetAt⟩
  rw [standing?_withStanding, if_pos rfl]

/-! ### A window at several times, and under a lower quota -/

namespace Sample

/-- The position has consumed 30 of its 80, in a window that ends at 4600. -/
def drawnCalls : List (Timed Request) :=
  [⟨1000, authorize⟩, ⟨1000, record (.ofNat 30)⟩]

def drawn : Limiter :=
  Run.final handle start drawnCalls

private theorem reachable_drawn : drawn.Reachable :=
  ⟨admin, fallback, start, founded, drawnCalls, rfl⟩

def curbedCalls : List (Timed Request) :=
  drawnCalls ++
    [⟨1500, .perform admin (.setDefaultPeriod Sample.position.asset (.ofNat 25) 3600)⟩]

def curbed : Limiter :=
  Run.final handle start curbedCalls

private theorem reachable_curbed : curbed.Reachable :=
  ⟨admin, fallback, start, founded, curbedCalls, rfl⟩

end Sample

theorem allowance_honoured_sample :
    Sample.drawn.remainingAllowance Sample.position 2000 = (.ofNat 50, 4600) ∧
      (Sample.drawn.recordTransfer 2000 Sample.service Sample.position (.ofNat 20)).answer =
        .ok () ∧
      ((Sample.drawn.recordTransfer 2000 Sample.service Sample.position
        (.ofNat 20)).world.remainingAllowance Sample.position 2000).1.toNat + 20 = 50 ∧
      Sample.drawn.remainingAllowance Sample.position 5000 = (.ofNat 80, 8600) ∧
      (Sample.drawn.recordTransfer 5000 Sample.service Sample.position (.ofNat 80)).answer =
        .ok () ∧
      Sample.curbed.remainingAllowance Sample.position 2000 = (.zero, 4600) ∧
      (Sample.curbed.recordTransfer 2000 Sample.service Sample.position (.ofNat 1)).answer ≠
        .ok () := by
  have counted : Sample.drawn.isExempt Sample.position = false := rfl
  have permitted : Sample.drawn.authority.holds .caller Sample.service = true := rfl
  have curbedCounted : Sample.curbed.isExempt Sample.position = false := rfl
  have curbedPermitted : Sample.curbed.authority.holds .caller Sample.service = true := rfl
  have twenty : Amount.ofNat 20 ≠ .zero := by decide
  have eighty : Amount.ofNat 80 ≠ .zero := by decide
  have one : Amount.ofNat 1 ≠ .zero := by decide
  have early : (2000 : Seconds) < Seconds.last := by decide
  have late : (5000 : Seconds) < Seconds.last := by decide
  have running := allowance_honoured Sample.reachable_drawn counted permitted early twenty
  have ended := allowance_honoured Sample.reachable_drawn counted permitted late eighty
  have spent := allowance_honoured Sample.reachable_curbed curbedCounted curbedPermitted early one
  have accepted := running.1.mpr (by decide)
  refine ⟨rfl, accepted, (running.2 accepted).1, rfl, ended.1.mpr (by decide), rfl, ?_⟩
  exact fun passed => absurd (spent.1.mp passed) (by decide)

end Limiter

end Turnstile
