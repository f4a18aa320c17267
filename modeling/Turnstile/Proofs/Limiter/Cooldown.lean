import Mathlib.Data.List.Chain
import Turnstile.Proofs.Limiter.Window

namespace Turnstile.Limiter

/-! Cooldowns over runs. The stored time of the last transfer is the time of the latest call
that has started the cooldown, whatever else was done since, so one such call comes at least
the cooldown after the one before it. -/

/-- The moments at which the position passed its cooldown and started it anew. -/
def starts (position : Position) (past : List Moment) : List Moment :=
  past.filter fun moment => moment.paces position

/-- The cooldown in force at the later moment has passed since the earlier one. This says
nothing where the earlier time is zero, which stands for "never", or where the cooldown
would end beyond the last second. -/
def Spaced (position : Position) (later earlier : Moment) : Prop :=
  earlier.now ≠ 0 →
    earlier.now.toNat + (later.world.effectiveLimits position).cooldown.toNat < UInt64.size →
    earlier.now.toNat + (later.world.effectiveLimits position).cooldown.toNat ≤ later.now.toNat

section

variable {position : Position} {moment : Moment} {past : List Moment}

theorem starts_of_paces (paces : moment.paces position = true) :
    starts position (moment :: past) = moment :: starts position past :=
  List.filter_cons_of_pos paces

theorem starts_of_not_paces (unpaced : moment.paces position = false) :
    starts position (moment :: past) = starts position past :=
  List.filter_cons_of_neg (Bool.eq_false_iff.mp unpaced)

namespace Moment

private theorem effectiveLimits_of_paces (paces : moment.paces position = true) :
    moment.world.effectiveLimits position = moment.world.enforcedLimits position :=
  effectiveLimits_of_counted (paces_iff_called.mp paces).2.1

private theorem spaced_of_paces {earlier : Moment} (paces : moment.paces position = true)
    (latest : (moment.world.standing position).lastTransferAt = earlier.now) :
    Spaced position moment earlier := by
  intro started bound
  have elapsed := (lastTransferAt_of_paces paces).1
  simp only [Standing.cooldownCondition, decide_eq_true_eq, latest] at elapsed
  rw [← effectiveLimits_of_paces paces] at elapsed
  have passed := UInt64.le_iff_toNat_le.mp (elapsed.resolve_left started)
  rw [Seconds.toNat_deadline_of_lt bound] at passed
  exact passed

end Moment

/-! ## The stored time -/

structure Paced (position : Position) (limiter : Limiter) (past : List Moment) : Prop where
  latest : (limiter.standing position).lastTransferAt =
    (starts position past).head?.elim 0 Moment.now
  spaced : (starts position past).IsChain (Spaced position)

theorem paced_after (paced : Paced position moment.world past) :
    Paced position moment.after (moment :: past) := by
  cases paces : moment.paces position with
  | false =>
      refine ⟨?_, ?_⟩
      · rw [starts_of_not_paces paces, Moment.lastTransferAt_kept paces]
        exact paced.latest
      · rw [starts_of_not_paces paces]
        exact paced.spaced
  | true =>
      refine ⟨?_, ?_⟩
      · rw [starts_of_paces paces, (Moment.lastTransferAt_of_paces paces).2]
        rfl
      · rw [starts_of_paces paces, List.isChain_cons]
        refine ⟨fun earlier found => ?_, paced.spaced⟩
        have latest := paced.latest
        rw [Option.mem_def.mp found] at latest
        exact Moment.spaced_of_paces paces latest

theorem paced_final {admin : Address} {fallback : Limits} {start : Limiter}
    (founded : Limiter.founded admin fallback = .ok start) (position : Position)
    (calls : List (Timed Request)) :
    Paced position (Run.final handle start calls) (start.past calls) := by
  refine final_past_of_moment (Paced position) ?_ (fun _ _ => paced_after) calls
  exact ⟨by rw [standing_of_founded founded]; rfl, .nil⟩

/-! ## Many starts -/

/-- Under one cooldown, every further start comes one cooldown later. -/
theorem span_of_spaced {cooldown : Seconds} {first : Moment} (started : first.now ≠ 0)
    (between : List Moment) (last : Moment)
    (spaced : (last :: (between ++ [first])).IsChain (Spaced position))
    (constant : ∀ moment ∈ last :: between,
      (moment.world.effectiveLimits position).cooldown = cooldown)
    (bound : ∀ moment ∈ between ++ [first],
      moment.now.toNat + cooldown.toNat < UInt64.size) :
    first.now.toNat + (between.length + 1) * cooldown.toNat ≤ last.now.toNat := by
  have positive : 0 < first.now.toNat :=
    Nat.pos_of_ne_zero fun zero => started (UInt64.toNat_inj.mp zero)
  -- The latest start stands first: each step of the induction goes one start back.
  induction between generalizing last with
  | nil =>
      have step := (List.isChain_cons.mp spaced).1 first rfl
      rw [Spaced, constant last List.mem_cons_self] at step
      simpa using step started (bound first List.mem_cons_self)
  | cons next rest induction =>
      rcases List.isChain_cons.mp spaced with ⟨step, chain⟩
      have reached := induction next chain
        (fun moment member => constant moment (List.mem_cons_of_mem last member))
        (fun moment member => bound moment (List.mem_cons_of_mem next member))
      -- What comes after a time that is not zero is not taken for "never" either.
      have later : next.now ≠ 0 := by
        intro zero
        rw [zero] at reached
        simp at reached
        omega
      have step := step next rfl
      rw [Spaced, constant last List.mem_cons_self] at step
      have further := step later (bound next List.mem_cons_self)
      rw [List.length_cons, Nat.succ_mul]
      omega

/-- In any run of a new limiter, the stored time is that of the latest start; a start comes at
least its cooldown after the one before it; and starts under one cooldown span as many
cooldowns as there are steps between them. -/
theorem starts_spaced {admin : Address} {fallback : Limits} {start : Limiter}
    (founded : Limiter.founded admin fallback = .ok start) (calls : List (Timed Request))
    (position : Position) :
    let starts := starts position (start.past calls)
    ((Run.final handle start calls).standing position).lastTransferAt =
        starts.head?.elim 0 Moment.now ∧
      starts.IsChain (Spaced position) ∧
      ∀ (cooldown : Seconds) (first last : Moment) (between : List Moment),
        last :: (between ++ [first]) <:+: starts →
        first.now ≠ 0 →
        (∀ moment ∈ last :: between,
          (moment.world.effectiveLimits position).cooldown = cooldown) →
        (∀ moment ∈ between ++ [first],
          moment.now.toNat + cooldown.toNat < UInt64.size) →
        first.now.toNat + (between.length + 1) * cooldown.toNat ≤ last.now.toNat := by
  intro starts
  have paced := paced_final founded position calls
  refine ⟨paced.latest, paced.spaced, ?_⟩
  intro cooldown first last between consecutive started constant bound
  have chain := List.IsChain.infix paced.spaced consecutive
  exact span_of_spaced started between last chain constant bound

end

namespace Sample

/-- Three transfers a minute apart, and between them one too early and one that needs no
cooldown. -/
def pacedCalls : List (Timed Request) :=
  [⟨1000, authorize⟩,
    ⟨1000, charge (.ofNat 20)⟩,
    ⟨1059, charge (.ofNat 20)⟩,
    ⟨1060, .perform service (.enforceCooldown position)⟩,
    ⟨1070, record (.ofNat 5)⟩,
    ⟨1130, charge (.ofNat 20)⟩]

def firstStart : Moment :=
  ⟨Run.final handle start (pacedCalls.take 1), ⟨1000, charge (.ofNat 20)⟩⟩

def secondStart : Moment :=
  ⟨Run.final handle start (pacedCalls.take 3),
    ⟨1060, .perform service (.enforceCooldown position)⟩⟩

def thirdStart : Moment :=
  ⟨Run.final handle start (pacedCalls.take 5), ⟨1130, charge (.ofNat 20)⟩⟩

private theorem starts_pacedCalls :
    starts position (start.past pacedCalls) = [thirdStart, secondStart, firstStart] := rfl

end Sample

theorem starts_spaced_sample :
    (starts Sample.position (Sample.start.past Sample.pacedCalls)).IsChain
        (Spaced Sample.position) ∧
      Sample.firstStart.now.toNat + (1 + 1) * 60 ≤ Sample.thirdStart.now.toNat := by
  have spaced := starts_spaced Sample.founded Sample.pacedCalls Sample.position
  refine ⟨spaced.2.1, ?_⟩
  refine spaced.2.2 60 Sample.firstStart Sample.thirdStart [Sample.secondStart] ?_ ?_ ?_ ?_
  · rw [Sample.starts_pacedCalls]
    exact List.infix_refl _
  · decide
  · decide
  · decide

end Turnstile.Limiter
