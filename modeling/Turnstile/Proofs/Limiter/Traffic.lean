import Mathlib.Logic.Relation
import Turnstile.Proofs.Limiter.Charging
import Turnstile.Proofs.Limiter.Repetition

namespace Turnstile.Limiter

/-! Charges in flight. A charge first reads whether its caller may charge, the defaults of
its asset and the time, and only later decides and writes, in one step on the record of its
position. In between, other charges may read and write and the clock may move. However the
steps fall, everything comes out as if the charges had been made one at a time, in the order
of their second steps and each at the time that it has read. -/

/-! ## Two steps -/

/-- A charge between its two steps, with what the first one has read. -/
structure Pending where
  charge : Charge
  permission : Except Refusal Unit
  defaults : Limits
  now : Seconds

def read (limiter : Limiter) (now : Seconds) (charge : Charge) : Pending where
  charge := charge
  permission := limiter.authority.require .caller charge.caller
  defaults := limiter.defaultLimits charge.position.asset
  now := now

namespace Pending

def commit (pending : Pending) (limiter : Limiter) : Outcome Limiter :=
  .guarded limiter pending.permission <|
    limiter.commitCharge pending.defaults pending.now pending.charge.position
      pending.charge.amount

/-- The same charge, made at once at the time that was read. -/
def call (pending : Pending) : Timed Request :=
  ⟨pending.now, pending.charge.request⟩

end Pending

private theorem commit_read (limiter : Limiter) (now : Seconds) (charge : Charge) :
    (limiter.read now charge).commit limiter = limiter.handle ⟨now, charge.request⟩ := rfl

/-! ## Interleavings -/

/-- A limiter with a clock, the charges in flight, and what has come of those that are
through, in the order in which they were committed. -/
structure Traffic where
  limiter : Limiter
  now : Seconds
  pending : List Pending
  committed : List (Step Limiter (Timed Request))

namespace Traffic

def idle (limiter : Limiter) (now : Seconds) : Traffic where
  limiter := limiter
  now := now
  pending := []
  committed := []

/-- The charges that are through, in the order of their commits. -/
def calls (traffic : Traffic) : List (Timed Request) :=
  traffic.committed.map Step.call

/-- One step of anyone: the clock moves, in either direction, a charge reads, or any of
those in flight commits. -/
inductive Advance : Traffic → Traffic → Prop
  | tick (traffic : Traffic) (now : Seconds) : Advance traffic { traffic with now }
  | read (traffic : Traffic) (charge : Charge) :
      Advance traffic
        { traffic with pending := traffic.limiter.read traffic.now charge :: traffic.pending }
  | commit {traffic : Traffic} {before after : List Pending} {pending : Pending} :
      traffic.pending = before ++ pending :: after →
      Advance traffic
        { traffic with
          limiter := (pending.commit traffic.limiter).world
          pending := before ++ after
          committed := traffic.committed ++ [⟨pending.call, pending.commit traffic.limiter⟩] }

end Traffic

theorem SameRules.read {left right : Limiter} (same : left.SameRules right) (now : Seconds)
    (charge : Charge) : right.read now charge = left.read now charge := by
  rw [Limiter.read, Limiter.read, same.authority, same.defaultLimits]

theorem sameRules_pending (pending : Pending) (limiter : Limiter) :
    limiter.SameRules (pending.commit limiter).world := by
  rw [Pending.commit]
  cases pending.permission with
  | ok => exact sameRules_commitCharge ..
  | error refusal => exact .refl limiter

/-! ## One at a time -/

/-- What is through has come out as in a run of the same charges one at a time, and what is
in flight has read what it would read now. -/
structure Serial (start : Limiter) (traffic : Traffic) : Prop where
  rules : start.SameRules traffic.limiter
  pending : ∀ pending ∈ traffic.pending,
    pending = start.read pending.now pending.charge
  committed : traffic.committed = Run.trace handle start traffic.calls
  limiter : traffic.limiter = Run.final handle start traffic.calls
  charges : ∀ call ∈ traffic.calls, ∃ charge : Charge, call.command = charge.request

theorem serial_idle (start : Limiter) (now : Seconds) : Serial start (.idle start now) where
  rules := .refl start
  pending := nofun
  committed := rfl
  limiter := rfl
  charges := nofun

namespace Serial

variable {start : Limiter} {traffic next : Traffic}

/-- Nobody has changed what the charge has read, so it may as well read it now. -/
private theorem commit_eq (serial : Serial start traffic) {pending : Pending}
    (inFlight : pending ∈ traffic.pending) :
    pending.commit traffic.limiter = traffic.limiter.handle pending.call := by
  rw [Pending.call, ← commit_read, serial.rules.read, ← serial.pending pending inFlight]

theorem advance (serial : Serial start traffic) (advance : traffic.Advance next) :
    Serial start next := by
  cases advance with
  | tick now => exact ⟨serial.rules, serial.pending, serial.committed, serial.limiter,
      serial.charges⟩
  | read charge =>
      refine ⟨serial.rules, ?_, serial.committed, serial.limiter, serial.charges⟩
      intro pending member
      rcases List.mem_cons.mp member with same | earlier
      · rw [same]
        exact serial.rules.read traffic.now charge
      · exact serial.pending pending earlier
  | @commit before after pending split =>
      have inFlight : pending ∈ traffic.pending := by
        rw [split]
        exact List.mem_append_right before List.mem_cons_self
      have committed := serial.commit_eq inFlight
      have calls : ({ traffic with
          limiter := (pending.commit traffic.limiter).world
          pending := before ++ after
          committed := traffic.committed ++
            [⟨pending.call, pending.commit traffic.limiter⟩] } : Traffic).calls =
          traffic.calls ++ [pending.call] := by
        rw [Traffic.calls, Traffic.calls, List.map_append]
        rfl
      refine ⟨?rules, ?pending, ?committed, ?limiter, ?charges⟩
      case rules => exact serial.rules.trans (sameRules_pending pending traffic.limiter)
      case pending =>
        intro other member
        refine serial.pending other ?_
        rw [split]
        exact (List.mem_append.mp member).elim (List.mem_append_left _)
          fun behind => List.mem_append_right before (List.mem_cons_of_mem pending behind)
      case committed =>
        rw [calls, Run.trace_append, ← serial.committed, ← serial.limiter]
        simp only [Run.trace, committed]
      case limiter =>
        rw [calls, Run.final_append, ← serial.limiter]
        simp only [Run.final, committed]
      case charges =>
        intro call member
        rw [calls] at member
        rcases List.mem_append.mp member with earlier | last
        · exact serial.charges call earlier
        · rw [List.mem_singleton.mp last]
          exact ⟨pending.charge, rfl⟩

end Serial

theorem serial_of_reached {start : Limiter} {begin : Seconds} {traffic : Traffic}
    (reached : Relation.ReflTransGen Traffic.Advance (.idle start begin) traffic) :
    Serial start traffic := by
  induction reached with
  | refl => exact serial_idle start begin
  | tail _ advance induction => exact induction.advance advance

/-- What started under one cooldown is one cooldown apart. -/
private theorem apart_of_waited {cooldown : Seconds} {later earlier : Moment}
    (waited : Waited cooldown later earlier) (started : earlier.now ≠ 0)
    (bound : earlier.now.toNat + cooldown.toNat < UInt64.size) :
    earlier.now.toNat + cooldown.toNat ≤ later.now.toNat := by
  have passed := UInt64.le_iff_toNat_le.mp (waited started)
  rw [Seconds.toNat_deadline_of_lt bound] at passed
  exact passed

private theorem length_filter_now_le_one {cooldown now : Seconds} {starts : List Moment}
    (waited : starts.Pairwise (Waited cooldown)) (some : cooldown ≠ 0) (started : now ≠ 0)
    (bound : now.toNat + cooldown.toNat < UInt64.size) :
    (starts.filter fun start => start.now = now).length ≤ 1 := by
  have delayed : cooldown.toNat ≠ 0 := fun zero => some (UInt64.toNat_inj.mp zero)
  have simultaneous := waited.filter fun start => start.now = now
  have at_now : ∀ start ∈ starts.filter fun start => start.now = now, start.now = now :=
    fun start member => of_decide_eq_true (List.mem_filter.mp member).2
  generalize starts.filter (fun start => start.now = now) = found at simultaneous at_now
  match found, simultaneous, at_now with
  | [], _, _ => exact Nat.zero_le 1
  | [_], _, _ => exact Nat.le_refl 1
  | later :: earlier :: _, simultaneous, at_now =>
      have laterNow := at_now later List.mem_cons_self
      have earlierNow := at_now earlier (.tail later List.mem_cons_self)
      have apart := apart_of_waited (List.rel_of_pairwise_cons simultaneous List.mem_cons_self)
        (earlierNow ▸ started) (earlierNow ▸ bound)
      rw [laterNow, earlierNow] at apart
      omega

/-- However charges race, answers, events and records are those of the same charges made one
at a time, in the order of their commits. A position that was not exempt and had nothing
consumed, such as one without a record, keeps its limits; its total is the exact sum of what
it has consumed in its current window, within its quota; its cooldown lies between any two
charges that pass, and of those that have read the same time at most one passes. -/
theorem traffic_serial {start : Limiter} {begin : Seconds} {traffic : Traffic}
    (reached : Relation.ReflTransGen Traffic.Advance (.idle start begin) traffic) :
    traffic.committed = Run.trace handle start traffic.calls ∧
      traffic.limiter = Run.final handle start traffic.calls ∧
      ∀ position, start.Unspent position →
        let past := start.past traffic.calls
        let limits := start.effectiveLimits position
        let window := currentWindow position past
        let passed := starts position past
        traffic.limiter.effectiveLimits position = limits ∧
          (traffic.limiter.standing position).window.total.toNat = total position window ∧
          total position window ≤ limits.quota.toNat ∧
          (passed.Pairwise fun later earlier =>
            earlier.now ≠ 0 →
              earlier.now.toNat + limits.cooldown.toNat < UInt64.size →
              earlier.now.toNat + limits.cooldown.toNat ≤ later.now.toNat) ∧
          ∀ now, limits.cooldown ≠ 0 → now ≠ 0 →
            now.toNat + limits.cooldown.toNat < UInt64.size →
            (passed.filter fun moment => moment.now = now).length ≤ 1 := by
  have serial := serial_of_reached reached
  refine ⟨serial.committed, serial.limiter, ?_⟩
  intro position unspent past limits window passed
  have charging := charging_final unspent serial.charges
  have enforced : limits = start.enforcedLimits position :=
    effectiveLimits_of_counted unspent.counted
  rw [← serial.limiter, ← enforced] at charging
  refine ⟨?limits, charging.accounted, charging.covered, ?apart, ?single⟩
  case limits =>
    rw [effectiveLimits_of_counted charging.counted]
    exact charging.enforced
  case apart => exact charging.waited.imp apart_of_waited
  case single =>
    intro now some started bound
    exact length_filter_now_le_one charging.waited some started bound

namespace Sample

def charges : Charge × Charge :=
  (⟨service, position, .ofNat 30⟩, ⟨service, position, .ofNat 40⟩)

/-- Two charges read the same time. The clock is set back, and the one that has read last is
committed first. -/
def overtaken : Traffic :=
  let first := (prepared.read 1000 charges.2).commit prepared
  let second := (prepared.read 1000 charges.1).commit first.world
  { limiter := second.world
    now := 990
    pending := []
    committed :=
      [⟨⟨1000, charges.2.request⟩, first⟩, ⟨⟨1000, charges.1.request⟩, second⟩] }

private theorem reached_overtaken :
    Relation.ReflTransGen Traffic.Advance (.idle prepared 1000) overtaken := by
  let slow := prepared.read 1000 charges.1
  let fast := prepared.read 1000 charges.2
  have slowRead := Relation.ReflTransGen.refl.tail (Traffic.Advance.read (.idle prepared 1000)
    charges.1)
  have fastRead := slowRead.tail (.read _ charges.2)
  have moved := fastRead.tail (.tick _ 990)
  have fastCommitted := moved.tail (@Traffic.Advance.commit _ [] [slow] fast rfl)
  exact fastCommitted.tail (@Traffic.Advance.commit _ [] [] slow rfl)

theorem unspent : prepared.Unspent position :=
  unspent_of_standing?_eq_none rfl

end Sample

theorem traffic_serial_sample :
    Sample.overtaken.committed =
        Run.trace handle Sample.prepared
          [⟨1000, Sample.charges.2.request⟩, ⟨1000, Sample.charges.1.request⟩] ∧
      Sample.overtaken.committed.map Step.accepted = [true, false] ∧
      ((starts Sample.position (Sample.prepared.past Sample.overtaken.calls)).filter
        fun moment => moment.now = 1000).length ≤ 1 := by
  have serial := traffic_serial Sample.reached_overtaken
  rcases serial.2.2 Sample.position Sample.unspent with ⟨_, _, _, _, single⟩
  exact ⟨serial.1, rfl, single 1000 (by decide) (by decide) (by decide)⟩

end Turnstile.Limiter
