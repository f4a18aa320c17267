import Turnstile.Proofs.Limiter.Cooldown

namespace Turnstile

/-! Runs of charges, one at a time and with nothing else in between. They leave every limit
as it is, so what is said in general of windows and of cooldowns holds under one quota and
one cooldown, from any start at which the position owes nothing. -/

namespace Impact

variable {limits : Limits} {now : Seconds} {before after : Standing}

/-- Enforcing limits changes neither the overrides nor the exemption. -/
theorem Leads.rules {enforcement : Enforcement}
    (leads : (Impact.enforce enforcement).Leads limits now before after) :
    after.overrides = before.overrides ∧ after.exempt = before.exempt := by
  rw [Impact.Leads] at leads
  split at leads
  next => exact leads ▸ ⟨rfl, rfl⟩
  next =>
    have passed := Enforcement.passed_judge leads
    exact ⟨passed.overrides, passed.exempt⟩

end Impact

namespace Limiter

structure Charge where
  caller : Address
  position : Position
  amount : Amount
deriving DecidableEq

def Charge.request (charge : Charge) : Request :=
  .perform charge.caller (.charge charge.position charge.amount)

/-! ## Single charges -/

namespace Moment

variable {moment : Moment} {charge : Charge} {position : Position}

private theorem impact_of_charge (called : moment.call.command = charge.request) :
    moment.impact position = .none ∨
      ∃ enforcement, moment.impact position = .enforce enforcement := by
  have struck : moment.call.command.impact position =
      (Impact.enforce (.charge charge.amount)).onlyAt charge.position position := by
    rw [called]
    rfl
  rw [Moment.impact, struck, Impact.onlyAt]
  split
  next =>
    split
    next => exact .inr ⟨_, rfl⟩
    next => exact .inl rfl
  next => exact .inl rfl

private theorem resets_of_charge (called : moment.call.command = charge.request) :
    moment.resets position = false := by
  rcases impact_of_charge called with none | ⟨enforcement, struck⟩
  · rw [resets, none]
  · rw [resets, struck]

private theorem rules_of_charge (called : moment.call.command = charge.request) :
    (moment.after.standing position).overrides =
        (moment.world.standing position).overrides ∧
      (moment.after.standing position).exempt =
        (moment.world.standing position).exempt := by
  have leads := moment.leads position
  rcases impact_of_charge called with none | ⟨enforcement, struck⟩
  · rw [none] at leads
    rw [show moment.after.standing position = _ from leads]
    exact ⟨rfl, rfl⟩
  · rw [struck] at leads
    exact leads.rules

end Moment

/-! ## What charges leave alone -/

/-- All that a charge reads of a limiter apart from the position that it is made at. -/
structure SameRules (left right : Limiter) : Prop where
  fallback : right.fallback = left.fallback
  defaults : right.defaults = left.defaults
  authority : right.authority = left.authority

namespace SameRules

variable {left middle right : Limiter}

theorem refl (limiter : Limiter) : limiter.SameRules limiter :=
  ⟨rfl, rfl, rfl⟩

theorem trans (first : left.SameRules middle) (second : middle.SameRules right) :
    left.SameRules right :=
  ⟨second.fallback.trans first.fallback, second.defaults.trans first.defaults,
    second.authority.trans first.authority⟩

theorem defaultLimits (same : left.SameRules right) (asset : Address) :
    right.defaultLimits asset = left.defaultLimits asset := by
  rw [Limiter.defaultLimits, Limiter.defaultLimits, same.defaults, same.fallback]

end SameRules

theorem sameRules_commitCharge (limiter : Limiter) (defaults : Limits) (now : Seconds)
    (position : Position) (amount : Amount) :
    limiter.SameRules (limiter.commitCharge defaults now position amount).world := by
  simp only [commitCharge, commit]
  split
  next => exact ⟨rfl, rfl, rfl⟩
  next => split <;> exact ⟨rfl, rfl, rfl⟩

theorem sameRules_charge (limiter : Limiter) (now : Seconds) (charge : Charge) :
    limiter.SameRules (limiter.handle ⟨now, charge.request⟩).world := by
  simp only [handle, Charge.request, perform, Limiter.charge]
  cases limiter.authority.require .caller charge.caller with
  | ok => exact sameRules_commitCharge ..
  | error refusal => exact .refl limiter

private theorem enforcedLimits_of_charge {moment : Moment} {charge : Charge}
    (called : moment.call.command = charge.request) (position : Position) :
    moment.after.enforcedLimits position = moment.world.enforcedLimits position := by
  have same : moment.world.SameRules moment.after := by
    have same := sameRules_charge moment.world moment.now charge
    rw [← called] at same
    exact same
  rw [enforcedLimits, enforcedLimits, Standing.limits, Standing.limits,
    (Moment.rules_of_charge called).1, same.defaultLimits]

/-! ## Many charges -/

/-- The position is not exempt and nothing of it has been consumed or started. -/
structure Unspent (limiter : Limiter) (position : Position) : Prop where
  counted : limiter.isExempt position = false
  window : (limiter.standing position).window = ⟨.zero, 0⟩
  lastTransferAt : (limiter.standing position).lastTransferAt = 0

/-- A position without a record is one of these. -/
theorem unspent_of_standing?_eq_none {limiter : Limiter} {position : Position}
    (untouched : limiter.standing? position = none) : limiter.Unspent position := by
  have fresh : limiter.standing position = .fresh := by
    rw [standing, untouched]
    rfl
  exact ⟨congrArg Standing.exempt fresh, congrArg Standing.window fresh,
    congrArg Standing.lastTransferAt fresh⟩

/-- The cooldown that started at the earlier moment was over at the later one. -/
def Waited (cooldown : Seconds) (later earlier : Moment) : Prop :=
  earlier.now ≠ 0 → Seconds.deadline earlier.now cooldown ≤ later.now

/-- What charges under unchanged limits come to at a position that counts. -/
structure Charging (position : Position) (limits : Limits) (limiter : Limiter)
    (past : List Moment) : Prop where
  counted : limiter.isExempt position = false
  enforced : limiter.enforcedLimits position = limits
  accounted : Accounted position limiter past
  covered : total position (currentWindow position past) ≤ limits.quota.toNat
  latest : (limiter.standing position).lastTransferAt =
    (starts position past).head?.elim 0 Moment.now
  waited : (starts position past).Pairwise (Waited limits.cooldown)

private theorem charging_nil {start : Limiter} {position : Position}
    (unspent : start.Unspent position) :
    Charging position (start.enforcedLimits position) start [] where
  counted := unspent.counted
  enforced := rfl
  accounted := by
    rw [Accounted, unspent.window]
    rfl
  covered := Nat.zero_le _
  latest := unspent.lastTransferAt
  waited := .nil

namespace Charging

variable {position : Position} {limits : Limits} {moment : Moment} {past : List Moment}
  {charge : Charge}

theorem covered_after (charging : Charging position limits moment.world past)
    (called : moment.call.command = charge.request) :
    total position (currentWindow position (moment :: past)) ≤ limits.quota.toNat := by
  cases consumed : moment.consumed? position with
  | none =>
      rw [currentWindow_of_not_opens (Moment.resets_of_charge called)
        (Moment.opens_of_consumed?_eq_none consumed), total_cons,
        Moment.amount_of_consumed?_eq_none consumed, Nat.zero_add]
      exact charging.covered
  | some amount =>
      have covered := covered_of_consumed? charging.accounted consumed
      rw [Moment.effectiveLimits_of_consumed? consumed, charging.enforced] at covered
      exact covered

theorem latest_after (charging : Charging position limits moment.world past) :
    (moment.after.standing position).lastTransferAt =
      (starts position (moment :: past)).head?.elim 0 Moment.now := by
  cases paces : moment.paces position with
  | false =>
      rw [starts_of_not_paces paces, Moment.lastTransferAt_kept paces]
      exact charging.latest
  | true =>
      rw [starts_of_paces paces, (Moment.lastTransferAt_of_paces paces).2]
      rfl

private theorem waited_head (charging : Charging position limits moment.world past)
    (paces : moment.paces position = true) {earlier : Moment} {before : List Moment}
    (latest : starts position past = earlier :: before) :
    Waited limits.cooldown moment earlier := by
  intro started
  have elapsed := (Moment.lastTransferAt_of_paces paces).1
  rw [charging.enforced] at elapsed
  simp only [Standing.cooldownCondition, charging.latest, latest, List.head?_cons,
    Option.elim_some, decide_eq_true_eq] at elapsed
  exact elapsed.resolve_left started

/-- Who has waited for the end of one cooldown has waited for all that ended before. -/
private theorem waited_trans {cooldown : Seconds} {later middle earlier : Moment}
    (second : Waited cooldown later middle) (first : Waited cooldown middle earlier) :
    Waited cooldown later earlier := by
  intro started
  have begun : earlier.now.toNat ≠ 0 := fun zero => started (UInt64.toNat_inj.mp zero)
  have passed := UInt64.le_iff_toNat_le.mp (first started)
  rw [Seconds.toNat_deadline] at passed
  have bound := earlier.now.toNat_lt
  have middleStarted : middle.now ≠ 0 := by
    intro zero
    rw [zero] at passed
    simp only [UInt64.toNat_zero, UInt64.size] at passed
    omega
  have further := UInt64.le_iff_toNat_le.mp (second middleStarted)
  rw [Seconds.toNat_deadline] at further
  rw [UInt64.le_iff_toNat_le, Seconds.toNat_deadline]
  have middleBound := middle.now.toNat_lt
  unfold UInt64.size at *
  omega

theorem waited_after (charging : Charging position limits moment.world past) :
    (starts position (moment :: past)).Pairwise (Waited limits.cooldown) := by
  cases paces : moment.paces position with
  | false =>
      rw [starts_of_not_paces paces]
      exact charging.waited
  | true =>
      rw [starts_of_paces paces, List.pairwise_cons]
      refine ⟨fun earlier member => ?_, charging.waited⟩
      cases before : starts position past with
      | nil =>
          rw [before] at member
          cases member
      | cons latest rest =>
          have waited := charging.waited_head paces before
          have earliest := charging.waited
          rw [before, List.pairwise_cons] at earliest
          rw [before] at member
          rcases List.mem_cons.mp member with same | older
          · exact same ▸ waited
          · exact waited_trans waited (earliest.1 earlier older)

theorem after (charging : Charging position limits moment.world past)
    (called : moment.call.command = charge.request) :
    Charging position limits moment.after (moment :: past) where
  counted := (Moment.rules_of_charge called).2.trans charging.counted
  enforced := (enforcedLimits_of_charge called position).trans charging.enforced
  accounted := accounted_after charging.accounted
  covered := charging.covered_after called
  latest := charging.latest_after
  waited := charging.waited_after

end Charging

theorem charging_final {start : Limiter} {position : Position}
    (unspent : start.Unspent position) {calls : List (Timed Request)}
    (charges : ∀ call ∈ calls, ∃ charge : Charge, call.command = charge.request) :
    Charging position (start.enforcedLimits position) (Run.final handle start calls)
      (start.past calls) := by
  -- That all calls are charges is known of the whole run, so it stands before what is kept.
  let Holds (limiter : Limiter) (past : List Moment) : Prop :=
    (∀ moment ∈ past, ∃ charge : Charge, moment.call.command = charge.request) →
      Charging position (start.enforcedLimits position) limiter past
  have step (moment : Moment) (past : List Moment) (holds : Holds moment.world past) :
      Holds moment.after (moment :: past) := by
    intro charges
    rcases charges moment List.mem_cons_self with ⟨charge, called⟩
    exact (holds fun earlier member => charges earlier (.tail moment member)).after called
  refine final_past_of_moment Holds (fun _ => charging_nil unspent) step calls ?_
  intro moment member
  exact charges moment.call (Run.call_mem_of_mem_past member)

end Limiter

end Turnstile
