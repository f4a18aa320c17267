import Turnstile.Proofs.Limiter.History

namespace Turnstile.Limiter

/-! The total of an accounting window over runs. What a position has stored is the exact sum
of what it has consumed since its window was opened or reset, it stays within the quota
in force whenever something is consumed, and nothing else changes it. -/

/-! ## Sums over moments -/

/-- What a position has consumed at some moments, as an exact number. -/
def total (position : Position) : List Moment → Nat
  | [] => 0
  | moment :: past => moment.amount position + total position past

/-- The moments of the current accounting window: those from its opening on, or those after
the latest reset. The latest comes first. -/
def currentWindow (position : Position) : List Moment → List Moment
  | [] => []
  | moment :: past =>
      if moment.resets position then []
      else if moment.opens position then [moment]
      else moment :: currentWindow position past

section

variable {moment : Moment} {position : Position} {past : List Moment}

@[simp] theorem total_nil : total position [] = 0 := rfl

@[simp] theorem total_cons :
    total position (moment :: past) = moment.amount position + total position past := rfl

private theorem currentWindow_of_resets (resets : moment.resets position = true) :
    currentWindow position (moment :: past) = [] := by
  rw [currentWindow, if_pos resets]

theorem currentWindow_of_opens (unreset : moment.resets position = false)
    (opens : moment.opens position = true) :
    currentWindow position (moment :: past) = [moment] := by
  simp [currentWindow, unreset, opens]

theorem currentWindow_of_not_opens (unreset : moment.resets position = false)
    (unopened : moment.opens position = false) :
    currentWindow position (moment :: past) = moment :: currentWindow position past := by
  simp [currentWindow, unreset, unopened]

/-! ## Windows of single calls -/

namespace Moment

theorem opens_of_consumed?_eq_none (unconsumed : moment.consumed? position = none) :
    moment.opens position = false := by
  simp [opens, unconsumed]

theorem amount_of_consumed?_eq_none (unconsumed : moment.consumed? position = none) :
    moment.amount position = 0 := by
  simp [amount, unconsumed]

private theorem amount_of_consumed? {amount : Amount}
    (consumed : moment.consumed? position = some amount) :
    moment.amount position = amount.toNat := by
  simp [Moment.amount, consumed]

theorem windowAt_of_opens (opens : moment.opens position = true) (period : Seconds) :
    (moment.world.standing position).windowAt period moment.now =
      ⟨.zero, Seconds.deadline moment.now period⟩ := by
  simp only [Moment.opens, Bool.and_eq_true, decide_eq_true_eq] at opens
  exact if_pos opens.2

theorem windowAt_of_not_opens {amount : Amount}
    (consumed : moment.consumed? position = some amount)
    (unopened : moment.opens position = false) (period : Seconds) :
    (moment.world.standing position).windowAt period moment.now =
      (moment.world.standing position).window := by
  simp only [opens, consumed, Option.isSome_some, Bool.true_and, decide_eq_false_iff_not]
    at unopened
  exact if_neg unopened

theorem effectiveLimits_of_consumed? {amount : Amount}
    (consumed : moment.consumed? position = some amount) :
    moment.world.effectiveLimits position = moment.world.enforcedLimits position :=
  effectiveLimits_of_counted (consumed?_iff_called.mp consumed).2.1

end Moment

/-! ## The stored total -/

/-- The stored total of a position counts what its current window has consumed. -/
def Accounted (position : Position) (limiter : Limiter) (past : List Moment) : Prop :=
  (limiter.standing position).window.total.toNat =
    total position (currentWindow position past)

theorem accounted_after (accounted : Accounted position moment.world past) :
    Accounted position moment.after (moment :: past) := by
  rw [Accounted] at accounted ⊢
  cases resets : moment.resets position with
  | true =>
      rw [Moment.window_of_resets resets, currentWindow_of_resets resets, total_nil,
        Amount.toNat_zero]
  | false =>
      cases consumed : moment.consumed? position with
      | none =>
          have unopened := Moment.opens_of_consumed?_eq_none consumed
          rw [Moment.window_kept consumed resets, currentWindow_of_not_opens resets unopened,
            total_cons, Moment.amount_of_consumed?_eq_none consumed, Nat.zero_add]
          exact accounted
      | some amount =>
          have fuller := (Moment.window_of_consumed? consumed).2.total
          have counted := Moment.amount_of_consumed? consumed
          rw [fuller]
          cases opens : moment.opens position with
          | true =>
              rw [Moment.windowAt_of_opens opens, currentWindow_of_opens resets opens,
                total_cons, total_nil, counted, Amount.toNat_zero, Nat.zero_add, Nat.add_zero]
          | false =>
              rw [Moment.windowAt_of_not_opens consumed opens,
                currentWindow_of_not_opens resets opens, total_cons, counted, accounted,
                Nat.add_comm]

theorem accounted_final {admin : Address} {fallback : Limits} {start : Limiter}
    (founded : Limiter.founded admin fallback = .ok start) (position : Position)
    (calls : List (Timed Request)) :
    Accounted position (Run.final handle start calls) (start.past calls) := by
  refine final_past_of_moment (Accounted position) ?_ (fun _ _ => accounted_after) calls
  rw [Accounted, standing_of_founded founded]
  rfl

theorem covered_of_consumed? {amount : Amount}
    (accounted : Accounted position moment.world past)
    (consumed : moment.consumed? position = some amount) :
    total position (currentWindow position (moment :: past)) ≤
      (moment.world.effectiveLimits position).quota.toNat := by
  have window := Moment.window_of_consumed? consumed
  have covered := window.1
  simp only [Standing.quotaCondition, decide_eq_true_eq] at covered
  rw [← accounted_after accounted, window.2.total, Moment.effectiveLimits_of_consumed? consumed]
  exact covered

/-- After any run of a new limiter, the stored total of a position is the exact sum of what
it has consumed in its current window; with the next consumption the sum stays within the
quota in force; and only consumptions and resets change the window. -/
theorem window_accounted {admin : Address} {fallback : Limits} {start : Limiter}
    (founded : Limiter.founded admin fallback = .ok start) (calls : List (Timed Request))
    (position : Position) :
    let limiter := Run.final handle start calls
    let past := start.past calls
    (limiter.standing position).window.total.toNat =
        total position (currentWindow position past) ∧
      ∀ next : Timed Request,
        let moment : Moment := ⟨limiter, next⟩
        (∀ amount, moment.consumed? position = some amount →
            total position (currentWindow position (moment :: past)) ≤
              (limiter.effectiveLimits position).quota.toNat) ∧
          (moment.consumed? position = none → moment.resets position = false →
            (moment.after.standing position).window =
              (limiter.standing position).window) := by
  intro limiter past
  have accounted := accounted_final founded position calls
  refine ⟨accounted, fun next => ⟨?within, ?kept⟩⟩
  case within =>
    intro amount consumed
    exact covered_of_consumed? accounted consumed
  case kept => exact Moment.window_kept

end

namespace Sample

def exempt (flag : Bool) : Request :=
  .perform admin (.setExemptions position.asset [position.account] [flag])

/-- One charge comes too early, one while the position is exempt, and a reset lies between
those that count and those that do not any more. -/
def calls : List (Timed Request) :=
  [⟨1000, authorize⟩,
    ⟨1000, .regrant admin .limitManager manager true⟩,
    ⟨1000, charge (.ofNat 30)⟩,
    ⟨1010, charge (.ofNat 5)⟩,
    ⟨1020, record (.ofNat 20)⟩,
    ⟨1030, .perform manager (.resetUserPeriod position)⟩,
    ⟨1040, exempt true⟩,
    ⟨1050, charge (.ofNat 500)⟩,
    ⟨1055, exempt false⟩,
    ⟨1060, charge (.ofNat 40)⟩,
    ⟨1070, record (.ofNat 25)⟩]

end Sample

theorem window_accounted_sample :
    Limiter.founded Sample.admin Sample.fallback = .ok Sample.start ∧
      total Sample.position (currentWindow Sample.position (Sample.start.past Sample.calls)) =
        65 := by
  have accounted := (window_accounted Sample.founded Sample.calls Sample.position).1
  exact ⟨Sample.founded, accounted.symm⟩

end Turnstile.Limiter
