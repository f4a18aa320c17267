import Turnstile.Outcome

namespace Turnstile.Outcome

/-! Outcomes compared by the worlds they leave behind, where some differences between worlds
do not count. -/

variable {World Wider : Type}

/-! ## Accepted outcomes -/

section Accepted

variable {world : World} {next : Outcome World}

theorem guarded_of_ok {check : Except Refusal Unit}
    (accepted : (guarded world check next).answer = .ok ()) :
    guarded world check next = next := by
  cases check with
  | ok => rfl
  | error refusal => cases accepted

theorem check_of_guarded {check : Except Refusal Unit}
    (accepted : (guarded world check next).answer = .ok ()) : check = .ok () := by
  cases check with
  | ok => rfl
  | error refusal => cases accepted

theorem first_of_andThen {first : Outcome World} {next : World → Outcome World}
    (accepted : (first.andThen next).answer = .ok ()) : first.answer = .ok () := by
  rw [andThen] at accepted
  cases answer : first.answer with
  | ok => rfl
  | error refusal =>
      rw [answer] at accepted
      exact answer.symm.trans accepted

theorem guarded_answer_eq_ok_iff {check : Except Refusal Unit} :
    (guarded world check next).answer = .ok () ↔ check = .ok () ∧ next.answer = .ok () := by
  cases check with
  | ok => exact ⟨fun accepted => ⟨rfl, accepted⟩, And.right⟩
  | error refusal => exact ⟨nofun, fun both => nomatch both.1⟩

theorem andThen_answer_eq_ok_iff {first : Outcome World} {next : World → Outcome World} :
    (first.andThen next).answer = .ok () ↔
      first.answer = .ok () ∧ (next first.world).answer = .ok () := by
  rw [andThen]
  cases answer : first.answer <;> simp [answer]

theorem ite_refused_of_ok {barred : Prop} [Decidable barred] {refusal : Refusal}
    (accepted : (if barred then refused world refusal else next).answer = .ok ()) :
    (if barred then refused world refusal else next) = next := by
  by_cases holds : barred
  · rw [if_pos holds] at accepted
    cases accepted
  · exact if_neg holds

end Accepted

/-! ## Accepted calls

The call is accepted and leaves the world given. -/

structure Arrives (last : World) (outcome : Outcome World) : Prop where
  answer : outcome.answer = .ok ()
  world : outcome.world = last

section Arrives

variable {Command : Type} {perform : World → Command → Outcome World} {outcome : Outcome World}
  {world middle last : World}

theorem arrives_accepted (world : World) (events : List Event) (readings : List Reading) :
    (accepted world events readings).Arrives world :=
  ⟨rfl, rfl⟩

theorem Arrives.guarded (arrives : outcome.Arrives last) {check : Except Refusal Unit}
    (passed : check = .ok ()) (world : World) : (guarded world check outcome).Arrives last := by
  rw [passed]
  exact arrives

theorem arrives_andThen_iff {next : World → Outcome World} (accepted : outcome.answer = .ok ()) :
    (outcome.andThen next).Arrives last ↔ (next outcome.world).Arrives last := by
  rw [andThen, accepted]
  exact ⟨fun arrives => ⟨arrives.answer, arrives.world⟩,
    fun arrives => ⟨arrives.answer, arrives.world⟩⟩

theorem Arrives.andThen {next : World → Outcome World} (arrives : outcome.Arrives middle)
    (later : (next middle).Arrives last) : (outcome.andThen next).Arrives last := by
  rw [arrives_andThen_iff arrives.answer, arrives.world]
  exact later

theorem arrives_singleton {command : Command} (arrives : (perform world command).Arrives last) :
    (sequence perform world [command]).Arrives last :=
  arrives.andThen (arrives_accepted last [] [])

theorem arrives_append {first second : List Command}
    (before : (sequence perform world first).Arrives middle)
    (after : (sequence perform middle second).Arrives last) :
    (sequence perform world (first ++ second)).Arrives last := by
  induction first generalizing world with
  | nil =>
      cases before.world
      exact after
  | cons command rest induction =>
      have accepted := first_of_andThen before.answer
      exact (arrives_andThen_iff accepted).mpr
        (induction ((arrives_andThen_iff accepted).mp before))

/-- Commands to a part, given as orders to the whole. -/
theorem arrives_within {Order : Type} {execute : Wider → Order → Outcome Wider}
    (place : World → Wider) {order : Command → Order}
    (executes : ∀ world command,
      execute (place world) (order command) = (perform world command).within place)
    {commands : List Command} (arrives : (sequence perform world commands).Arrives last) :
    (sequence execute (place world) (commands.map order)).Arrives (place last) := by
  induction commands generalizing world with
  | nil => exact ⟨rfl, congrArg place arrives.world⟩
  | cons command rest induction =>
      have accepted := first_of_andThen arrives.answer
      have later := induction ((arrives_andThen_iff accepted).mp arrives)
      have placed : ((perform world command).within place).answer = .ok () := accepted
      rw [List.map_cons, sequence, executes]
      exact (arrives_andThen_iff placed).mpr later

/-- One command for each item of a list, all of them about one part of the world. As long as
that part is fit for it, the command is accepted and changes nothing else. -/
theorem arrives_map {Item Part : Type} {place : Part → World} {command : Item → Command}
    {change : Part → Item → Part} (Fit : Part → Prop) {items : List Item}
    (step : ∀ item ∈ items, ∀ part, Fit part →
      (perform (place part) (command item)).Arrives (place (change part item)))
    (kept : ∀ part item, Fit part → Fit (change part item)) {part : Part} (fit : Fit part) :
    (sequence perform (place part) (items.map command)).Arrives
      (place (items.foldl change part)) := by
  induction items generalizing part with
  | nil => exact arrives_accepted (place part) [] []
  | cons item rest induction =>
      refine (step item List.mem_cons_self part fit).andThen ?_
      exact induction (fun other member => step other (.tail item member)) (kept part item fit)

end Arrives

/-! ## What acceptance brings about -/

/-- If the call is accepted, the world that it leaves is as described. -/
structure Ensures (Done : World → Prop) (outcome : Outcome World) : Prop where
  done : outcome.answer = .ok () → Done outcome.world

section Ensures

variable {Done : World → Prop} {outcome : Outcome World} {world : World}

theorem ensures_refused (world : World) (refusal : Refusal) :
    (refused world refusal).Ensures Done :=
  ⟨fun accepted => nomatch accepted⟩

theorem ensures_accepted (done : Done world) (events : List Event)
    (readings : List Reading) : (accepted world events readings).Ensures Done :=
  ⟨fun _ => done⟩

theorem ensures_guarded {check : Except Refusal Unit}
    (next : check = .ok () → outcome.Ensures Done) :
    (guarded world check outcome).Ensures Done := by
  cases check with
  | ok => exact next rfl
  | error refusal => exact ensures_refused world refusal

end Ensures

/-! ## What stays true -/

/-- The world that the call leaves is good, whatever its answer was. -/
structure Keeps (Good : World → Prop) (outcome : Outcome World) : Prop where
  kept : Good outcome.world

section Keeps

variable {Good : World → Prop} {outcome : Outcome World} {world : World}

theorem keeps_refused (good : Good world) (refusal : Refusal) :
    (refused world refusal).Keeps Good :=
  ⟨good⟩

theorem keeps_accepted (good : Good world) (events : List Event) (readings : List Reading) :
    (accepted world events readings).Keeps Good :=
  ⟨good⟩

theorem Keeps.guarded (keeps : outcome.Keeps Good) (good : Good world)
    (check : Except Refusal Unit) : (guarded world check outcome).Keeps Good := by
  cases check with
  | ok => exact keeps
  | error refusal => exact keeps_refused good refusal

theorem Keeps.record (keeps : outcome.Keeps Good) (readings : List Reading) :
    (outcome.record readings).Keeps Good :=
  ⟨keeps.kept⟩

theorem Keeps.andThen {next : World → Outcome World} (keeps : outcome.Keeps Good)
    (later : ∀ world, Good world → (next world).Keeps Good) :
    (outcome.andThen next).Keeps Good := by
  rw [Outcome.andThen]
  cases outcome.answer with
  | ok => exact ⟨(later _ keeps.kept).kept⟩
  | error refusal => exact keeps

theorem Keeps.within {place : World → Wider} {Placed : Wider → Prop}
    (keeps : outcome.Keeps Good) (placed : ∀ world, Good world → Placed (place world)) :
    (outcome.within place).Keeps Placed :=
  ⟨placed _ keeps.kept⟩

theorem keeps_sequence {Command : Type} {perform : World → Command → Outcome World}
    {commands : List Command} (good : Good world)
    (step : ∀ command ∈ commands, ∀ world, Good world → (perform world command).Keeps Good) :
    (sequence perform world commands).Keeps Good := by
  induction commands generalizing world with
  | nil => exact ⟨good⟩
  | cons command rest induction =>
      refine (step command List.mem_cons_self world good).andThen fun next nextGood => ?_
      exact induction nextGood fun other member => step other (.tail command member)

end Keeps

/-! ## What is published

Every event of the call is of one kind. -/

structure Publishes (Kind : Event → Prop) (outcome : Outcome World) : Prop where
  kind : ∀ event ∈ outcome.events, Kind event

section Publishes

variable {Kind : Event → Prop} {outcome : Outcome World}

theorem publishes_refused (world : World) (refusal : Refusal) :
    (refused world refusal).Publishes Kind :=
  ⟨nofun⟩

theorem publishes_accepted (world : World) {events : List Event}
    (kind : ∀ event ∈ events, Kind event) (readings : List Reading) :
    (accepted world events readings).Publishes Kind :=
  ⟨kind⟩

theorem Publishes.guarded (publishes : outcome.Publishes Kind) (world : World)
    (check : Except Refusal Unit) : (guarded world check outcome).Publishes Kind := by
  cases check with
  | ok => exact publishes
  | error refusal => exact publishes_refused world refusal

theorem Publishes.mono (publishes : outcome.Publishes Kind) {Wide : Event → Prop}
    (wide : ∀ event, Kind event → Wide event) : outcome.Publishes Wide :=
  ⟨fun event member => wide event (publishes.kind event member)⟩

theorem Publishes.record (publishes : outcome.Publishes Kind) (readings : List Reading) :
    (outcome.record readings).Publishes Kind :=
  ⟨publishes.kind⟩

theorem Publishes.andThen {next : World → Outcome World} (publishes : outcome.Publishes Kind)
    (later : ∀ world, (next world).Publishes Kind) : (outcome.andThen next).Publishes Kind := by
  rw [Outcome.andThen]
  cases outcome.answer with
  | ok =>
      refine ⟨fun event member => ?_⟩
      rcases List.mem_append.mp member with first | second
      · exact publishes.kind event first
      · exact (later _).kind event second
  | error refusal => exact publishes

theorem Publishes.within (publishes : outcome.Publishes Kind) (place : World → Wider) :
    (outcome.within place).Publishes Kind :=
  ⟨publishes.kind⟩

end Publishes

/-! ## Barred calls -/

/-- Where the check fails, the call is refused for that reason and nothing else happens. -/
structure Barred (world : World) (check : Except Refusal Unit) (outcome : Outcome World) :
    Prop where
  refused : ∀ refusal, check = .error refusal → outcome = .refused world refusal

section Barred

variable {world : World} {check : Except Refusal Unit} {outcome : Outcome World}

theorem barred_guarded (world : World) (check : Except Refusal Unit)
    (outcome : Outcome World) : (guarded world check outcome).Barred world check := by
  refine ⟨?_⟩
  rintro refusal rfl
  rfl

/-- A check made behind another one decides where the other one passes. -/
theorem Barred.behind (barred : outcome.Barred world check) (first : Except Refusal Unit) :
    (guarded world first outcome).Barred world (first >>= fun _ => check) := by
  cases first with
  | ok => exact barred
  | error refusal =>
      refine ⟨fun other failed => ?_⟩
      cases failed
      rfl

theorem Barred.within (barred : outcome.Barred world check) (place : World → Wider) :
    (outcome.within place).Barred (place world) check := by
  refine ⟨fun refusal failed => ?_⟩
  rw [barred.refused refusal failed]
  rfl

end Barred

/-! ## All or nothing

A refused call publishes nothing, and the world that it leaves counts as the one it met. -/

structure Atomic (Same : World → Prop) (outcome : Outcome World) : Prop where
  silent : ∀ refusal, outcome.answer = .error refusal → outcome.events = []
  spared : ∀ refusal, outcome.answer = .error refusal → Same outcome.world

section Atomic

variable {Same : World → Prop} {outcome : Outcome World} {world : World}

theorem atomic_refused (same : Same world) (refusal : Refusal) :
    (refused world refusal).Atomic Same where
  silent _ _ := rfl
  spared _ _ := same

theorem atomic_of_ok (accepted : outcome.answer = .ok ()) : outcome.Atomic Same where
  silent _ refused := nomatch accepted.symm.trans refused
  spared _ refused := nomatch accepted.symm.trans refused

theorem atomic_accepted (world : World) (events : List Event) (readings : List Reading) :
    (accepted world events readings).Atomic Same :=
  atomic_of_ok rfl

theorem Atomic.guarded (atomic : outcome.Atomic Same) (same : Same world)
    (check : Except Refusal Unit) : (guarded world check outcome).Atomic Same := by
  cases check with
  | ok => exact atomic
  | error refusal => exact atomic_refused same refusal

theorem Atomic.record (atomic : outcome.Atomic Same) (readings : List Reading) :
    (outcome.record readings).Atomic Same where
  silent := atomic.silent
  spared := atomic.spared

theorem Atomic.within {place : World → Wider} {Placed : Wider → Prop}
    (atomic : outcome.Atomic Same) (placed : ∀ world, Same world → Placed (place world)) :
    (outcome.within place).Atomic Placed where
  silent := atomic.silent
  spared refusal refused := placed _ (atomic.spared refusal refused)

end Atomic

/-! ## Related outcomes

Two calls answer alike, publish the same and leave worlds that count as the same. -/

structure Related (Same : World → World → Prop) (left right : Outcome World) : Prop where
  world : Same left.world right.world
  answer : left.answer = right.answer
  events : left.events = right.events

section Related

variable {Same : World → World → Prop} {left right : Outcome World}
  {leftWorld rightWorld : World}

theorem related_refused (same : Same leftWorld rightWorld) (refusal : Refusal) :
    Related Same (refused leftWorld refusal) (refused rightWorld refusal) :=
  ⟨same, rfl, rfl⟩

theorem related_accepted (same : Same leftWorld rightWorld) (events : List Event)
    (leftReadings rightReadings : List Reading) :
    Related Same (accepted leftWorld events leftReadings)
      (accepted rightWorld events rightReadings) :=
  ⟨same, rfl, rfl⟩

theorem Related.guarded (related : Related Same left right)
    (same : Same leftWorld rightWorld) (check : Except Refusal Unit) :
    Related Same (guarded leftWorld check left) (guarded rightWorld check right) := by
  cases check with
  | ok => exact related
  | error refusal => exact related_refused same refusal

theorem Related.record (related : Related Same left right)
    (leftReadings rightReadings : List Reading) :
    Related Same (left.record leftReadings) (right.record rightReadings) :=
  ⟨related.world, related.answer, related.events⟩

theorem Related.mono (related : Related Same left right) {Wide : World → World → Prop}
    (wide : ∀ leftWorld rightWorld, Same leftWorld rightWorld → Wide leftWorld rightWorld) :
    Related Wide left right :=
  ⟨wide _ _ related.world, related.answer, related.events⟩

theorem Related.within {place other : World → Wider} {Placed : Wider → Wider → Prop}
    (related : Related Same left right)
    (placed : ∀ leftWorld rightWorld, Same leftWorld rightWorld →
      Placed (place leftWorld) (other rightWorld)) :
    Related Placed (left.within place) (right.within other) :=
  ⟨placed _ _ related.world, related.answer, related.events⟩

theorem Related.andThen {leftNext rightNext : World → Outcome World}
    (related : Related Same left right)
    (next : ∀ leftWorld rightWorld, Same leftWorld rightWorld →
      Related Same (leftNext leftWorld) (rightNext rightWorld)) :
    Related Same (left.andThen leftNext) (right.andThen rightNext) := by
  have second := next _ _ related.world
  rw [Outcome.andThen, Outcome.andThen]
  rw [← related.answer]
  cases left.answer with
  | ok =>
      have events : left.events ++ (leftNext left.world).events =
          right.events ++ (rightNext right.world).events := by
        rw [related.events, second.events]
      exact ⟨second.world, second.answer, events⟩
  | error refusal => exact related

end Related

end Turnstile.Outcome
