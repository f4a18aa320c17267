import Turnstile.Meter
import Turnstile.Proofs.Run

namespace Turnstile

/-! What metrics show after a run. Counters add up over its calls, and a gauge shows what the
latest call that has set it has set it to. -/

namespace Meter

theorem trackedPositions?_append (first second : List Reading) :
    trackedPositions? (first ++ second) =
      (trackedPositions? second).or (trackedPositions? first) := by
  rw [trackedPositions?, List.filterMap_append, List.getLast?_append]
  rfl

/-- Events set no gauge. -/
theorem trackedPositions?_recorded {World : Type} (outcome : Outcome World) :
    trackedPositions? outcome.recorded = trackedPositions? outcome.readings := by
  have silent : outcome.events.filterMap (fun _ => (none : Option Nat)) = [] :=
    List.filterMap_eq_nil_iff.mpr fun _ _ => rfl
  rw [Outcome.recorded, trackedPositions?, List.filterMap_append, List.filterMap_map]
  exact congrArg List.getLast? (congrArg (· ++ _) silent)

end Meter

/-! ## Counted decisions -/

/-- The reading counts a decision, or the reason of one that was a refusal. -/
def Reading.isDecision : Reading → Bool
  | .decision .. | .rejection _ => true
  | _ => false

namespace Outcome

/-- These are the readings of decisions that the call records. -/
structure Counts {World : Type} (counted : List Reading) (outcome : Outcome World) : Prop where
  decisions : outcome.readings.filter Reading.isDecision = counted

section Counts

variable {World Wider : Type} {counted : List Reading} {outcome : Outcome World}

theorem counts_refused (world : World) (refusal : Refusal) :
    (refused world refusal).Counts [] :=
  ⟨rfl⟩

theorem counts_accepted (world : World) (events : List Event) {readings : List Reading}
    (undecided : readings.filter Reading.isDecision = []) :
    (accepted world events readings).Counts [] :=
  ⟨undecided⟩

theorem Counts.guarded (counts : outcome.Counts []) (world : World)
    (check : Except Refusal Unit) : (guarded world check outcome).Counts [] := by
  cases check with
  | ok => exact counts
  | error refusal => exact counts_refused world refusal

theorem Counts.within (counts : outcome.Counts counted) (place : World → Wider) :
    (outcome.within place).Counts counted :=
  ⟨counts.decisions⟩

theorem Counts.record (counts : outcome.Counts []) {readings : List Reading}
    (decided : ∀ reading ∈ readings, reading.isDecision = true) :
    (outcome.record readings).Counts readings := by
  refine ⟨?_⟩
  rw [Outcome.record, List.filter_append, counts.decisions, List.nil_append]
  exact List.filter_eq_self.mpr decided

theorem Counts.andThen (counts : outcome.Counts counted) {next : World → Outcome World}
    (later : ∀ world, (next world).Counts []) : (outcome.andThen next).Counts counted := by
  rw [Outcome.andThen]
  cases outcome.answer with
  | ok =>
      refine ⟨?_⟩
      rw [List.filter_append, counts.decisions, (later _).decisions, List.append_nil]
  | error refusal => exact counts

/-- Events are no decisions. -/
theorem Counts.total_recorded (counts : outcome.Counts counted) {reading : Reading}
    (decision : reading.isDecision = true) :
    Meter.total outcome.recorded reading = counted.count reading := by
  have unpublished : (outcome.events.map fun event => Reading.event event.kind).count
      reading = 0 := by
    rw [List.count_eq_zero]
    intro member
    rcases List.mem_map.mp member with ⟨event, _, rfl⟩
    cases decision
  rw [Meter.total, Outcome.recorded, List.count_append, unpublished, Nat.zero_add,
    ← counts.decisions, List.count_filter decision]

end Counts

end Outcome

/-! ## Runs -/

namespace Run

variable {World Call : Type} {perform : World → Call → Outcome World}

/-- All that a run records, in its order. -/
def recorded (perform : World → Call → Outcome World) (world : World) (calls : List Call) :
    List Reading :=
  (trace perform world calls).flatMap fun step => step.outcome.recorded

theorem recorded_append (world : World) (earlier later : List Call) :
    recorded perform world (earlier ++ later) =
      recorded perform world earlier ++
        recorded perform (final perform world earlier) later := by
  rw [recorded, trace_append, List.flatMap_append]
  rfl

/-- What holds before the first call, and is kept by every call, which adds itself to the
past and what it records to the readings, holds at the end. -/
theorem recorded_past_of_step
    (Holds : World → List Reading → List (Moment World Call) → Prop) {start : World}
    {before : List Reading} (first : Holds start before [])
    (step : ∀ world readings past call, Holds world readings past →
      Holds (perform world call).world (readings ++ (perform world call).recorded)
        (⟨world, call⟩ :: past))
    (calls : List Call) :
    Holds (final perform start calls) (before ++ recorded perform start calls)
      (past perform start calls) := by
  induction calls using List.reverseRecOn with
  | nil =>
      rw [recorded, trace, List.flatMap_nil, List.append_nil]
      exact first
  | append_singleton calls call induction =>
      have single : recorded perform (final perform start calls) [call] =
          (perform (final perform start calls) call).recorded :=
        List.append_nil _
      rw [final_append, past_append, recorded_append, single, ← List.append_assoc]
      exact step _ _ _ call induction

/-- What every call counts once or not at all, a run counts once for each call that does. -/
theorem total_recorded (Good : World → Prop) {reading : Reading}
    {counted : Step World Call → Bool}
    (keeps : ∀ world call, Good world → Good (perform world call).world)
    (step : ∀ world call, Good world →
      Meter.total (perform world call).recorded reading =
        (counted ⟨call, perform world call⟩).toNat)
    {world : World} (good : Good world) (calls : List Call) :
    Meter.total (recorded perform world calls) reading =
      (trace perform world calls).countP counted := by
  induction calls generalizing world with
  | nil => rfl
  | cons call rest induction =>
      have here := step world call good
      have later := induction (keeps world call good)
      rw [Meter.total] at here later
      rw [Meter.total, recorded, trace, List.flatMap_cons, List.count_append, here]
      rw [List.countP_cons, Nat.add_comm]
      refine (congrArg (· + _) later).trans ?_
      cases counted ⟨call, perform world call⟩ <;> rfl

end Run

end Turnstile
