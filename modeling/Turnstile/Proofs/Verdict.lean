import Turnstile.Proofs.Outcome

namespace Turnstile

/-! Decisions as lists of conditions. The conditions are looked at in order and the first
that fails decides; where all hold, nothing stands in the way. -/

/-- Something that has to hold, and what is answered where it does not. -/
structure Condition where
  holds : Bool
  refusal : Refusal
deriving DecidableEq

def verdict : List Condition → Except Refusal Unit
  | [] => .ok ()
  | condition :: rest =>
      if condition.holds then verdict rest else .error condition.refusal

@[simp] theorem verdict_nil : verdict [] = .ok () := rfl

theorem verdict_cons (condition : Condition) (rest : List Condition) :
    verdict (condition :: rest) =
      if condition.holds then verdict rest else .error condition.refusal := rfl

theorem verdict_cons_eq_ok_iff {condition : Condition} {rest : List Condition} :
    verdict (condition :: rest) = .ok () ↔
      condition.holds = true ∧ verdict rest = .ok () := by
  rw [verdict_cons]
  cases condition.holds <;> simp

theorem verdict_cons_eq_error_iff {condition : Condition} {rest : List Condition}
    {refusal : Refusal} :
    verdict (condition :: rest) = .error refusal ↔
      (condition.holds = false ∧ condition.refusal = refusal) ∨
        (condition.holds = true ∧ verdict rest = .error refusal) := by
  rw [verdict_cons]
  cases condition.holds <;> simp

theorem verdict_eq_ok_iff {conditions : List Condition} :
    verdict conditions = .ok () ↔ ∀ condition ∈ conditions, condition.holds = true := by
  induction conditions with
  | nil => simp
  | cons condition rest induction => simp [verdict_cons_eq_ok_iff, induction]

/-- A refusal is that of one of the conditions. -/
theorem mem_of_verdict_eq_error {conditions : List Condition} {refusal : Refusal}
    (refused : verdict conditions = .error refusal) :
    refusal ∈ conditions.map Condition.refusal := by
  induction conditions with
  | nil => cases refused
  | cons condition rest induction =>
      rw [verdict_cons] at refused
      split at refused
      · exact .tail _ (induction refused)
      · cases refused
        exact .head _

theorem verdict_append (first second : List Condition) :
    verdict (first ++ second) = (verdict first).bind fun _ => verdict second := by
  induction first with
  | nil => rfl
  | cons condition rest induction =>
      rw [List.cons_append, verdict_cons, verdict_cons]
      split
      · exact induction
      · rfl

theorem verdict_append_eq_ok_iff {first second : List Condition} :
    verdict (first ++ second) = .ok () ↔ verdict first = .ok () ∧ verdict second = .ok () := by
  rw [verdict_append]
  cases verdict first <;> simp [Except.bind]

theorem verdict_append_eq_error_iff {first second : List Condition} {refusal : Refusal} :
    verdict (first ++ second) = .error refusal ↔
      verdict first = .error refusal ∨
        (verdict first = .ok () ∧ verdict second = .error refusal) := by
  rw [verdict_append]
  cases verdict first <;> simp [Except.bind]

theorem verdict_append_eq_iff {first left right : List Condition} :
    verdict (first ++ left) = verdict (first ++ right) ↔
      (verdict first = .ok () → verdict left = verdict right) := by
  rw [verdict_append, verdict_append]
  cases verdict first <;> simp [Except.bind]

/-! ## Attempts

An attempt comes out as a check made for it says: it fails where and as the check does, and
else gives a result of the kind described. -/

inductive Follows {Result : Type} (Described : Result → Prop) :
    Except Refusal Unit → Except Refusal Result → Prop
  | refused (refusal : Refusal) : Follows Described (.error refusal) (.error refusal)
  | done {result : Result} : Described result → Follows Described (.ok ()) (.ok result)

theorem Follows.described {Result : Type} {Described : Result → Prop}
    {check : Except Refusal Unit} {result : Result}
    (follows : Follows Described check (.ok result)) : Described result := by
  cases follows with
  | done described => exact described

theorem Follows.passed {Result : Type} {Described : Result → Prop}
    {check : Except Refusal Unit} {result : Result}
    (follows : Follows Described check (.ok result)) : check = .ok () := by
  cases follows with
  | done => rfl

theorem Follows.refusal {Result : Type} {Described : Result → Prop}
    {check : Except Refusal Unit} {refusal : Refusal}
    (follows : Follows Described check (.error refusal)) : check = .error refusal := by
  cases follows with
  | refused => rfl

theorem follows_check (check : Except Refusal Unit) : Follows (fun _ => True) check check := by
  cases check with
  | ok => exact .done trivial
  | error refusal => exact .refused refusal

/-- The same attempt, described by what else is known of its results. -/
theorem Follows.of_result {Result : Type} {Described Known : Result → Prop}
    {check : Except Refusal Unit} {attempt : Except Refusal Result}
    (follows : Follows Described check attempt)
    (known : ∀ result, attempt = .ok result → Known result) : Follows Known check attempt := by
  cases follows with
  | refused refusal => exact .refused refusal
  | @done result _ => exact .done (known result rfl)

theorem Follows.bind_pure {First Result : Type} {Described : First → Prop}
    {check : Except Refusal Unit} {attempt : Except Refusal First}
    (follows : Follows Described check attempt) (make : First → Result) :
    Follows (fun _ => True) check (attempt >>= fun first => pure (make first)) := by
  cases follows with
  | refused refusal => exact .refused refusal
  | done => exact .done trivial

theorem exists_of_bind_eq_ok {First Result Fault : Type} {first : Except Fault First}
    {next : First → Except Fault Result} {result : Result}
    (done : first >>= next = .ok result) :
    ∃ value, first = .ok value ∧ next value = .ok result := by
  cases first with
  | error fault => cases done
  | ok value => exact ⟨value, rfl, done⟩

theorem bind_eq_ok_iff {First Result Fault : Type} {first : Except Fault First}
    {next : First → Except Fault Result} {result : Result} :
    first >>= next = .ok result ↔ ∃ value, first = .ok value ∧ next value = .ok result := by
  refine ⟨exists_of_bind_eq_ok, ?_⟩
  rintro ⟨value, rfl, done⟩
  exact done

theorem toOption_eq_some_iff {Item Fault : Type} {read : Except Fault Item} {item : Item} :
    read.toOption = some item ↔ read = .ok item := by
  cases read with
  | ok found => exact Option.some_inj.trans (Except.ok.injEq ..).to_iff.symm
  | error fault => exact ⟨nofun, nofun⟩

theorem mapError_eq_ok_iff {Item Fault Other : Type} {read : Except Fault Item}
    {explain : Fault → Other} {item : Item} :
    read.mapError explain = .ok item ↔ read = .ok item := by
  cases read with
  | ok found => exact (Except.ok.injEq ..).to_iff.trans (Except.ok.injEq ..).to_iff.symm
  | error fault => exact ⟨nofun, nofun⟩

/-! ## Outcomes

An outcome meets its conditions if it is accepted exactly where they hold and refused for
the first that fails, if a refusal leaves the world the same, and if acceptance leaves the
world and the events described. -/

namespace Outcome

variable {World Wider : Type}

structure Meets (conditions : List Condition) (Same : World → Prop)
    (Done : World → List Event → Prop) (outcome : Outcome World) : Prop where
  answer : outcome.answer = verdict conditions
  atomic : outcome.Atomic Same
  done : outcome.answer = .ok () → Done outcome.world outcome.events

variable {conditions first second : List Condition} {Same : World → Prop}
  {Done : World → List Event → Prop} {outcome : Outcome World} {world : World}

theorem meets_accepted {events : List Event} {readings : List Reading}
    (done : Done world events) : (accepted world events readings).Meets [] Same Done where
  answer := rfl
  atomic := atomic_accepted world events readings
  done _ := done

theorem Meets.guarded (meets : outcome.Meets second Same Done) (same : Same world) :
    (guarded world (verdict first) outcome).Meets (first ++ second) Same Done := by
  refine ⟨?_, meets.atomic.guarded same _, ?_⟩
  · rw [verdict_append]
    cases verdict first with
    | ok => exact meets.answer
    | error refusal => rfl
  · cases verdict first with
    | ok => exact meets.done
    | error refusal =>
        intro accepted
        cases accepted

/-- What follows a condition may rely on it. -/
theorem meets_required {condition : Condition} (same : Same world)
    (meets : condition.holds = true → outcome.Meets conditions Same Done) :
    (Outcome.guarded world (verdict [condition]) outcome).Meets (condition :: conditions)
      Same Done := by
  cases held : condition.holds with
  | true =>
      change Meets ([condition] ++ conditions) Same Done _
      exact (meets held).guarded same
  | false =>
      rw [verdict_cons, held]
      refine ⟨?_, atomic_refused same _, nofun⟩
      rw [verdict_cons, held]
      rfl

theorem Meets.required (meets : outcome.Meets conditions Same Done) (same : Same world)
    (condition : Condition) :
    (Outcome.guarded world (verdict [condition]) outcome).Meets (condition :: conditions)
      Same Done :=
  meets_required same fun _ => meets

theorem Meets.record (meets : outcome.Meets conditions Same Done)
    (readings : List Reading) : (outcome.record readings).Meets conditions Same Done where
  answer := meets.answer
  atomic := meets.atomic.record readings
  done := meets.done

theorem Meets.within {place : World → Wider} {Wide : Wider → Prop}
    {Placed : Wider → List Event → Prop} (meets : outcome.Meets conditions Same Done)
    (wide : ∀ world, Same world → Wide (place world))
    (placed : ∀ world events, Done world events → Placed (place world) events) :
    (outcome.within place).Meets conditions Wide Placed where
  answer := meets.answer
  atomic := meets.atomic.within wide
  done accepted := placed _ _ (meets.done accepted)

/-- What follows an accepted outcome and cannot fail adds to its effect only. -/
theorem Meets.andThen {next : World → Outcome World} {Finished : World → List Event → Prop}
    (meets : outcome.Meets conditions Same Done)
    (finish : outcome.answer = .ok () →
      (next outcome.world).answer = .ok () ∧
        Finished (next outcome.world).world (outcome.events ++ (next outcome.world).events)) :
    (outcome.andThen next).Meets conditions Same Finished := by
  rw [Outcome.andThen]
  cases answer : outcome.answer with
  | ok =>
      have finished := finish answer
      have passed := meets.answer.symm.trans answer
      exact ⟨finished.1.trans passed.symm, atomic_of_ok finished.1, fun _ => finished.2⟩
  | error refusal =>
      refine ⟨meets.answer, meets.atomic, ?_⟩
      intro accepted
      cases answer.symm.trans accepted

end Outcome

end Turnstile
