import Mathlib.Data.List.Induction
import Turnstile.Proofs.Outcome

namespace Turnstile

/-! Runs: calls carried out one after the other, each in the world that the one before it
has left behind, whatever its answer was. -/

/-- Something asked for at a time. -/
structure Timed (Command : Type) where
  now : Seconds
  command : Command
deriving DecidableEq

/-- A call and what came of it. -/
structure Step (World Call : Type) where
  call : Call
  outcome : Outcome World

namespace Step

variable {World Call : Type}

def accepted (step : Step World Call) : Bool :=
  step.outcome.answer.isOk

/-- What can be seen of a step from outside. -/
def seen (step : Step World Call) : Call × Except Refusal Unit × List Event :=
  (step.call, step.outcome.answer, step.outcome.events)

end Step

namespace Run

variable {World Call : Type} (perform : World → Call → Outcome World)

def final (world : World) : List Call → World
  | [] => world
  | call :: rest => final (perform world call).world rest

def trace (world : World) : List Call → List (Step World Call)
  | [] => []
  | call :: rest => ⟨call, perform world call⟩ :: trace (perform world call).world rest

/-- A measure of calls, summed over the accepted ones. -/
def total (measure : Call → Nat) : List (Step World Call) → Nat
  | [] => 0
  | step :: rest => (if step.accepted then measure step.call else 0) + total measure rest

variable {perform}

/-- What every call keeps, a run keeps. -/
theorem final_of_step (Good : World → Prop)
    (step : ∀ world call, Good world → Good (perform world call).world)
    {world : World} (good : Good world) (calls : List Call) :
    Good (final perform world calls) := by
  induction calls generalizing world with
  | nil => exact good
  | cons call rest induction => exact induction (step world call good)

/-! ## Looking back

The past of a run is its calls, each with the world that it met. The latest comes first, so
what led up to a moment is the rest of the list. -/

/-- A call and the world that it meets. -/
structure Moment (World Call : Type) where
  world : World
  call : Call

section Past

variable (perform)

def past (world : World) : List Call → List (Moment World Call)
  | [] => []
  | call :: rest => past (perform world call).world rest ++ [⟨world, call⟩]

variable {perform}

theorem final_append (world : World) (earlier later : List Call) :
    final perform world (earlier ++ later) =
      final perform (final perform world earlier) later := by
  induction earlier generalizing world with
  | nil => rfl
  | cons call rest induction => exact induction (perform world call).world

theorem trace_append (world : World) (earlier later : List Call) :
    trace perform world (earlier ++ later) =
      trace perform world earlier ++ trace perform (final perform world earlier) later := by
  induction earlier generalizing world with
  | nil => rfl
  | cons call rest induction => exact congrArg _ (induction (perform world call).world)

theorem past_append (world : World) (earlier later : List Call) :
    past perform world (earlier ++ later) =
      past perform (final perform world earlier) later ++ past perform world earlier := by
  induction earlier generalizing world with
  | nil => exact (List.append_nil _).symm
  | cons call rest induction =>
      rw [List.cons_append, past, past, induction, List.append_assoc]
      rfl

theorem call_mem_of_mem_past {world : World} {calls : List Call} {moment : Moment World Call}
    (member : moment ∈ past perform world calls) : moment.call ∈ calls := by
  induction calls generalizing world with
  | nil => cases member
  | cons call rest induction =>
      rcases List.mem_append.mp member with later | first
      · exact List.mem_cons_of_mem call (induction later)
      · rw [List.mem_singleton.mp first]
        exact List.mem_cons_self

/-- What holds at the start and is kept by every call, which adds itself to the past, holds
at the end. -/
theorem final_past_of_step (Holds : World → List (Moment World Call) → Prop) {start : World}
    (first : Holds start [])
    (step : ∀ world past call, Holds world past →
      Holds (perform world call).world (⟨world, call⟩ :: past))
    (calls : List Call) : Holds (final perform start calls) (past perform start calls) := by
  -- Calls are added at the end, where both the world and the past grow by one step.
  induction calls using List.reverseRecOn with
  | nil => exact first
  | append_singleton calls call induction =>
      rw [final_append, past_append]
      exact step _ _ call induction

/-- What every call of the run keeps is met by every call and holds at the end. -/
theorem met_of_step (Good : World → Prop) {start : World} (first : Good start)
    {calls : List Call}
    (step : ∀ moment ∈ past perform start calls, Good moment.world →
      Good (perform moment.world moment.call).world) :
    (∀ moment ∈ past perform start calls, Good moment.world) ∧
      Good (final perform start calls) := by
  induction calls generalizing start with
  | nil => exact ⟨List.forall_mem_nil _, first⟩
  | cons call rest induction =>
      have now : ⟨start, call⟩ ∈ past perform start (call :: rest) :=
        List.mem_append_right _ List.mem_cons_self
      have later := induction (step _ now first) fun moment member =>
        step moment (List.mem_append_left _ member)
      refine ⟨fun moment member => ?_, later.2⟩
      rcases List.mem_append.mp member with after | here
      · exact later.1 moment after
      · rw [List.mem_singleton.mp here]
        exact first

/-- What holds at the start holds all along, or there is a first call after which it does
not hold. -/
theorem always_or_first (Holds : World → Prop) {start : World} (first : Holds start)
    (calls : List Call) :
    (∀ moment ∈ past perform start calls, Holds (perform moment.world moment.call).world) ∨
      ∃ later moment earlier, past perform start calls = later ++ moment :: earlier ∧
        (∀ met ∈ moment :: earlier, Holds met.world) ∧
          ¬Holds (perform moment.world moment.call).world := by
  induction calls generalizing start with
  | nil => exact .inl (List.forall_mem_nil _)
  | cons call rest induction =>
      by_cases next : Holds (perform start call).world
      · rcases induction next with always | ⟨later, moment, earlier, split, held, broken⟩
        · refine .inl fun moment member => ?_
          rcases List.mem_append.mp member with later | now
          · exact always moment later
          · rw [List.mem_singleton.mp now]
            exact next
        · refine .inr ⟨later, moment, earlier ++ [⟨start, call⟩], ?_, ?_, broken⟩
          · rw [past, split, List.append_assoc, List.cons_append]
          · intro met member
            rw [← List.cons_append] at member
            rcases List.mem_append.mp member with later | now
            · exact held met later
            · rw [List.mem_singleton.mp now]
              exact first
      · refine .inr ⟨past perform (perform start call).world rest, ⟨start, call⟩, [], rfl, ?_,
          next⟩
        exact List.forall_mem_singleton.mpr first

end Past

/-! ## Events

Of a step, all its events may be heard, or those on one bus only. -/

section Events

variable (perform)

def heard (hear : Step World Call → List Event) (world : World) (calls : List Call) :
    List Event :=
  (trace perform world calls).flatMap hear

/-- All that a run publishes, in its order. -/
def published (world : World) (calls : List Call) : List Event :=
  heard perform (fun step => step.outcome.events) world calls

variable {perform}

theorem heard_cons (hear : Step World Call → List Event) (world : World) (call : Call)
    (rest : List Call) :
    heard perform hear world (call :: rest) =
      hear ⟨call, perform world call⟩ ++ heard perform hear (perform world call).world rest :=
  List.flatMap_cons ..

/-- Who hears every event, and knew how things were before, knows how they are. -/
theorem informed {Picture : Type} {note : Picture → Event → Picture}
    {hear : Step World Call → List Event} (Informed : Picture → World → Prop)
    {calls : List Call}
    (step : ∀ call ∈ calls, ∀ picture world, Informed picture world →
      Informed ((hear ⟨call, perform world call⟩).foldl note picture)
        (perform world call).world)
    {picture : Picture} {world : World} (before : Informed picture world) :
    Informed ((heard perform hear world calls).foldl note picture)
      (final perform world calls) := by
  induction calls generalizing picture world with
  | nil => exact before
  | cons call rest induction =>
      rw [heard_cons, List.foldl_append]
      refine induction (fun other member => step other (.tail call member)) ?_
      exact step call List.mem_cons_self picture world before

end Events

/-! ## Calls left out

Of a run, some calls can be left out and the others made all the same. Those meet other
worlds then, but need not notice. -/

/-- Steps of a run, without some that are spare where they are taken. -/
inductive Thinned (perform : World → Call → Outcome World) (Spare : World → Call → Prop) :
    World → List Call → List (Step World Call) → Prop
  | nil (world : World) : Thinned perform Spare world [] []
  | keep {world : World} {call : Call} {rest : List Call} {steps : List (Step World Call)} :
      Thinned perform Spare (perform world call).world rest steps →
        Thinned perform Spare world (call :: rest) (⟨call, perform world call⟩ :: steps)
  | drop {world : World} {call : Call} {rest : List Call} {steps : List (Step World Call)} :
      Spare world call → Thinned perform Spare (perform world call).world rest steps →
        Thinned perform Spare world (call :: rest) steps

section Thinned

variable {Spare : World → Call → Prop} {Same : World → World → Prop}

/-- If a spare call cannot be told from none, and no other call tells worlds that count as
the same apart, then all that is left of a run goes on as it did. -/
theorem seen_thinned {left right : World} {calls : List Call}
    {steps : List (Step World Call)} (thinned : Thinned perform Spare left calls steps)
    (dropped : ∀ left right call, Spare left call → Same left right →
      Same (perform left call).world right)
    (kept : ∀ step ∈ steps, ∀ left right, Same left right →
      Outcome.Related Same (perform left step.call) (perform right step.call))
    (same : Same left right) :
    (trace perform right (steps.map Step.call)).map Step.seen = steps.map Step.seen ∧
      Same (final perform left calls) (final perform right (steps.map Step.call)) := by
  -- The worlds need not be equal at the start: a call left out lets them drift apart.
  induction thinned generalizing right with
  | nil => exact ⟨rfl, same⟩
  | @keep world call rest steps _ induction =>
      have related := kept _ List.mem_cons_self world right same
      have later := induction (fun step member => kept step (.tail _ member)) related.world
      have head : Step.seen ⟨call, perform right call⟩ =
          Step.seen ⟨call, perform world call⟩ := by
        rw [Step.seen, Step.seen, related.answer, related.events]
      refine ⟨?_, later.2⟩
      simp only [List.map_cons, trace, head]
      exact congrArg _ later.1
  | @drop world call rest steps spare _ induction =>
      exact induction kept (dropped world right call spare same)

theorem thinned_filter {Good : World → Prop}
    (keeps : ∀ world call, Good world → Good (perform world call).world)
    {stays : Step World Call → Bool}
    (spare : ∀ world call, Good world → stays ⟨call, perform world call⟩ = false →
      Spare world call)
    {world : World} (good : Good world) (calls : List Call) :
    Thinned perform Spare world calls ((trace perform world calls).filter stays) := by
  induction calls generalizing world with
  | nil => exact .nil world
  | cons call rest induction =>
      have later := induction (keeps world call good)
      rw [trace, List.filter_cons]
      cases stay : stays ⟨call, perform world call⟩ with
      | true => exact .keep later
      | false => exact .drop (spare world call good stay) later

theorem calls_filter (stays : Call → Bool) (world : World) (calls : List Call) :
    ((trace perform world calls).filter fun step => stays step.call).map Step.call =
      calls.filter stays := by
  induction calls generalizing world with
  | nil => rfl
  | cons call rest induction =>
      have later := induction (perform world call).world
      rw [trace, List.filter_cons, List.filter_cons]
      cases stays call with
      | true => exact congrArg _ later
      | false => exact later

/-- Calls are left out for what they are, wherever in a run they are made. -/
theorem seen_filter {stays : Call → Bool}
    (dropped : ∀ left right call, stays call = false → Same left right →
      Same (perform left call).world right)
    (kept : ∀ left right call, stays call = true → Same left right →
      Outcome.Related Same (perform left call) (perform right call))
    {left right : World} (same : Same left right) (calls : List Call) :
    (trace perform right (calls.filter stays)).map Step.seen =
        ((trace perform left calls).filter fun step => stays step.call).map Step.seen ∧
      Same (final perform left calls) (final perform right (calls.filter stays)) := by
  have thinned : Thinned perform (fun _ call => stays call = false) left calls
      ((trace perform left calls).filter fun step => stays step.call) := by
    apply thinned_filter
    case Good => exact fun _ => True
    case keeps => exact fun _ _ _ => trivial
    case spare => exact fun _ _ _ leftOut => leftOut
    case good => trivial
  rw [← calls_filter stays left calls]
  apply seen_thinned thinned dropped _ same
  exact fun step member left right same =>
    kept left right step.call (List.mem_filter.mp member).2 same

end Thinned

/-! ### Refused calls left out -/

/-- The accepted steps of a run, and of the refused ones those that are to stay. -/
def kept (stays : Step World Call → Bool) (steps : List (Step World Call)) :
    List (Step World Call) :=
  steps.filter fun step => step.accepted || stays step

/-- A refused call leaves a world that counts as the same, and no later call can tell. -/
structure Forgetful (perform : World → Call → Outcome World) (Good : World → Prop)
    (Same : World → World → Prop) : Prop where
  good : ∀ world call, Good world → Good (perform world call).world
  atomic : ∀ world call, Good world → (perform world call).Atomic (Same world)
  related : ∀ left right call, Same left right →
    Outcome.Related Same (perform left call) (perform right call)
  symm : ∀ left right, Same left right → Same right left
  trans : ∀ left middle right, Same left middle → Same middle right → Same left right

section Forgetful

variable {Good : World → Prop} {Same : World → World → Prop}

theorem Forgetful.same_of_refused (forgetful : Forgetful perform Good Same)
    {left right : World} (good : Good left) (same : Same left right) {call : Call}
    (refused : (Step.mk call (perform left call)).accepted = false) :
    Same (perform left call).world right := by
  cases answer : (perform left call).answer with
  | ok => simp [Step.accepted, answer, Except.isOk, Except.toBool] at refused
  | error refusal =>
      have spared := (forgetful.atomic left call good).spared refusal answer
      exact forgetful.trans _ _ _ (forgetful.symm _ _ spared) same

theorem seen_kept (forgetful : Forgetful perform Good Same)
    (stays : Step World Call → Bool) (calls : List Call) {left right : World}
    (good : Good left) (same : Same left right) :
    let steps := kept stays (trace perform left calls)
    (trace perform right (steps.map Step.call)).map Step.seen = steps.map Step.seen ∧
      Same (final perform left calls) (final perform right (steps.map Step.call)) := by
  have spare (world : World) (call : Call) (good : Good world)
      (leftOut : ((Step.mk call (perform world call)).accepted ||
        stays ⟨call, perform world call⟩) = false) :
      Good world ∧ (Step.mk call (perform world call)).accepted = false :=
    ⟨good, (Bool.or_eq_false_iff.mp leftOut).1⟩
  apply seen_thinned (thinned_filter forgetful.good spare good calls) ?dropped ?kept same
  case dropped =>
    exact fun left right call spare same => forgetful.same_of_refused spare.1 same spare.2
  case kept => exact fun step _ left right same => forgetful.related left right step.call same

end Forgetful

end Run

end Turnstile
