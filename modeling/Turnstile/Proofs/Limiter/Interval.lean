import Mathlib.Algebra.Order.Group.Nat
import Mathlib.Data.List.Basic
import Turnstile.Proofs.Limiter.Window

namespace Turnstile.Limiter

/-! What a quota per window guarantees over any stretch of time as long as a window. Windows
open at least one period apart, so such a stretch meets two of them at most: it sees no more
than twice the quota, and no more than the quota if one window holds it all. -/

/-- A run in which the clock never goes back, the position is never reset and whatever it
consumes is held to one quota per period. No window ends beyond the last second. -/
structure Steady (position : Position) (quota : Amount) (period : Seconds)
    (past : List Moment) : Prop where
  ordered : past.Pairwise fun later earlier => earlier.now.toNat ≤ later.now.toNat
  unreset : ∀ moment ∈ past, moment.resets position = false
  limits : ∀ moment ∈ past, (moment.consumed? position).isSome = true →
    (moment.world.effectiveLimits position).quota = quota ∧
      (moment.world.effectiveLimits position).period = period
  early : ∀ moment ∈ past, moment.now.toNat + period.toNat < UInt64.size

/-- The moments at which the position opened a window. -/
def openings (position : Position) (past : List Moment) : List Moment :=
  past.filter fun moment => moment.opens position

/-- The moments at which the position consumed something, for a duration from a time on. -/
def consumptions (position : Position) (begin duration : Nat) (past : List Moment) :
    List Moment :=
  past.filter fun moment =>
    (moment.consumed? position).isSome &&
      decide (begin ≤ moment.now.toNat ∧ moment.now.toNat < begin + duration)

section

variable {position : Position} {quota : Amount} {period : Seconds} {moment : Moment}
  {past : List Moment} {begin : Nat}

private theorem Steady.suffix {earlier : List Moment} (steady : Steady position quota period past)
    (suffix : earlier <:+ past) : Steady position quota period earlier where
  ordered := steady.ordered.sublist suffix.sublist
  unreset other member := steady.unreset other (suffix.mem member)
  limits other member := steady.limits other (suffix.mem member)
  early other member := steady.early other (suffix.mem member)

theorem Steady.tail (steady : Steady position quota period (moment :: past)) :
    Steady position quota period past :=
  steady.suffix (List.suffix_cons moment past)

private theorem Steady.unreset_head (steady : Steady position quota period (moment :: past)) :
    moment.resets position = false :=
  steady.unreset moment List.mem_cons_self

private theorem Steady.le_head (steady : Steady position quota period (moment :: past))
    {earlier : Moment} (member : earlier ∈ past) : earlier.now.toNat ≤ moment.now.toNat :=
  List.rel_of_pairwise_cons steady.ordered member

private theorem openings_of_opens (opens : moment.opens position = true) :
    openings position (moment :: past) = moment :: openings position past :=
  List.filter_cons_of_pos opens

private theorem openings_of_not_opens (unopened : moment.opens position = false) :
    openings position (moment :: past) = openings position past :=
  List.filter_cons_of_neg (Bool.eq_false_iff.mp unopened)

/-! ## Windows apart -/

namespace Moment

private theorem consumed?_of_opens (opens : moment.opens position = true) :
    ∃ amount, moment.consumed? position = some amount := by
  simp only [Moment.opens, Bool.and_eq_true] at opens
  exact Option.isSome_iff_exists.mp opens.1

private theorem resetAt_le_of_opens (opens : moment.opens position = true) :
    (moment.world.standing position).window.resetAt.toNat ≤ moment.now.toNat := by
  simp only [Moment.opens, Bool.and_eq_true, decide_eq_true_eq] at opens
  rcases opens.2 with never | ended
  · rw [never]
    exact Nat.zero_le _
  · exact UInt64.le_iff_toNat_le.mp ended

private theorem resetAt_of_opens (steady : Steady position quota period (moment :: past))
    (opens : moment.opens position = true) :
    (moment.after.standing position).window.resetAt.toNat =
      moment.now.toNat + period.toNat := by
  rcases consumed?_of_opens opens with ⟨amount, consumed⟩
  have limits := (steady.limits moment List.mem_cons_self (by rw [consumed]; rfl)).2
  rw [effectiveLimits_of_consumed? consumed] at limits
  rw [(window_of_consumed? consumed).2.resetAt, windowAt_of_opens opens, limits]
  exact Seconds.toNat_deadline_of_lt (steady.early moment List.mem_cons_self)

private theorem resetAt_kept (unreset : moment.resets position = false)
    (unopened : moment.opens position = false) :
    (moment.after.standing position).window.resetAt =
      (moment.world.standing position).window.resetAt := by
  cases consumed : moment.consumed? position with
  | none => rw [window_kept consumed unreset]
  | some amount =>
      rw [(window_of_consumed? consumed).2.resetAt, windowAt_of_not_opens consumed unopened]

end Moment

/-- Windows open one period apart, and none opens before the stored end. -/
structure Apart (position : Position) (period : Seconds) (limiter : Limiter)
    (past : List Moment) : Prop where
  ended : ∀ opening ∈ openings position past,
    opening.now.toNat + period.toNat ≤ (limiter.standing position).window.resetAt.toNat
  apart : (openings position past).Pairwise fun later earlier =>
    earlier.now.toNat + period.toNat ≤ later.now.toNat

theorem apart_after (steady : Steady position quota period (moment :: past))
    (apart : Apart position period moment.world past) :
    Apart position period moment.after (moment :: past) := by
  cases opens : moment.opens position with
  | true =>
      have due := Moment.resetAt_le_of_opens opens
      have reset := Moment.resetAt_of_opens steady opens
      have later : ∀ opening ∈ openings position past,
          opening.now.toNat + period.toNat ≤ moment.now.toNat :=
        fun opening member => (apart.ended opening member).trans due
      refine ⟨?_, ?_⟩
      · intro opening member
        rw [openings_of_opens opens] at member
        rw [reset]
        rcases List.mem_cons.mp member with same | member
        · rw [same]
        · exact (later opening member).trans (Nat.le_add_right _ _)
      · rw [openings_of_opens opens]
        exact List.pairwise_cons.mpr ⟨later, apart.apart⟩
  | false =>
      refine ⟨?_, ?_⟩
      · rw [openings_of_not_opens opens, Moment.resetAt_kept steady.unreset_head opens]
        exact apart.ended
      · rw [openings_of_not_opens opens]
        exact apart.apart

/-! ## Full windows -/

private theorem total_currentWindow_of_not_opens (unreset : moment.resets position = false)
    (unopened : moment.opens position = false) :
    total position (currentWindow position (moment :: past)) =
      moment.amount position + total position (currentWindow position past) := by
  rw [currentWindow_of_not_opens unreset unopened, total_cons]

theorem covered_after (steady : Steady position quota period (moment :: past))
    (accounted : Accounted position moment.world past)
    (covered : total position (currentWindow position past) ≤ quota.toNat) :
    total position (currentWindow position (moment :: past)) ≤ quota.toNat := by
  cases consumed : moment.consumed? position with
  | none =>
      rw [total_currentWindow_of_not_opens steady.unreset_head
          (Moment.opens_of_consumed?_eq_none consumed),
        Moment.amount_of_consumed?_eq_none consumed, Nat.zero_add]
      exact covered
  | some amount =>
      have limits := (steady.limits moment List.mem_cons_self (by rw [consumed]; rfl)).1
      rw [← limits]
      exact covered_of_consumed? accounted consumed

/-! ## Stretches of time -/

private theorem consumptions_cons (duration : Nat) :
    total position (consumptions position begin duration (moment :: past)) =
      (if begin ≤ moment.now.toNat ∧ moment.now.toNat < begin + duration then
        moment.amount position else 0) +
        total position (consumptions position begin duration past) := by
  rw [consumptions, List.filter_cons]
  cases consumed : moment.consumed? position with
  | none => simp [consumptions, Moment.amount_of_consumed?_eq_none consumed]
  | some amount =>
      by_cases inside : begin ≤ moment.now.toNat ∧ moment.now.toNat < begin + duration
      · simp [consumptions, inside]
      · simp [consumptions, inside]

private theorem consumptions_eq_nil {duration : Nat}
    (before : ∀ moment ∈ past, moment.now.toNat < begin) :
    consumptions position begin duration past = [] := by
  apply List.filter_eq_nil_iff.mpr
  intro other member
  have early := before other member
  simp
  omega

/-- How much a stretch of time sees, by the latest window that was opened: before the
stretch, within it or after it. -/
structure Limited (position : Position) (quota : Amount) (period : Seconds) (begin : Nat)
    (past : List Moment) : Prop where
  before : (∀ opening ∈ openings position past, opening.now.toNat < begin) →
    total position (consumptions position begin period.toNat past) ≤
      total position (currentWindow position past)
  within : (∀ opening ∈ openings position past,
      opening.now.toNat < begin + period.toNat) →
    total position (consumptions position begin period.toNat past) ≤
      quota.toNat + total position (currentWindow position past)
  always : total position (consumptions position begin period.toNat past) ≤ 2 * quota.toNat

private theorem limited_of_opens (steady : Steady position quota period (moment :: past))
    (covered : total position (currentWindow position past) ≤ quota.toNat)
    (coveredAfter : total position (currentWindow position (moment :: past)) ≤ quota.toNat)
    (apart : (openings position (moment :: past)).Pairwise fun later earlier =>
      earlier.now.toNat + period.toNat ≤ later.now.toNat)
    (limited : Limited position quota period begin past)
    (opens : moment.opens position = true) :
    Limited position quota period begin (moment :: past) := by
  have window : total position (currentWindow position (moment :: past)) =
      moment.amount position := by
    rw [currentWindow_of_opens steady.unreset_head opens]
    exact Nat.add_zero _
  rw [openings_of_opens opens] at apart
  have gap := (List.pairwise_cons.mp apart).1
  -- A window that opens before the end of the stretch has no other before it in the stretch.
  have within (early : moment.now.toNat < begin + period.toNat) :
      total position (consumptions position begin period.toNat past) ≤ quota.toNat := by
    refine (limited.before fun opening member => ?_).trans covered
    have earlier := gap opening member
    omega
  refine ⟨?before, ?within, ?always⟩
  case before =>
    intro early
    rw [openings_of_opens opens] at early
    have now := early moment List.mem_cons_self
    have outside : ∀ other ∈ past, other.now.toNat < begin := fun other member =>
      (steady.le_head member).trans_lt now
    rw [consumptions_cons, consumptions_eq_nil outside, if_neg (by omega)]
    exact Nat.zero_le _
  case within =>
    intro early
    rw [openings_of_opens opens] at early
    have sum := within (early moment List.mem_cons_self)
    rw [consumptions_cons, window]
    split <;> omega
  case always =>
    have always := limited.always
    rw [consumptions_cons]
    split
    next inside =>
      have sum := within inside.2
      omega
    next => omega

private theorem limited_of_not_opens (steady : Steady position quota period (moment :: past))
    (coveredAfter : total position (currentWindow position (moment :: past)) ≤ quota.toNat)
    (limited : Limited position quota period begin past)
    (unopened : moment.opens position = false) :
    Limited position quota period begin (moment :: past) := by
  rw [total_currentWindow_of_not_opens steady.unreset_head unopened] at coveredAfter
  refine ⟨?before, ?within, ?always⟩
  case before =>
    intro early
    rw [openings_of_not_opens unopened] at early
    have sum := limited.before early
    rw [consumptions_cons, total_currentWindow_of_not_opens steady.unreset_head unopened]
    split <;> omega
  case within =>
    intro early
    rw [openings_of_not_opens unopened] at early
    have sum := limited.within early
    rw [consumptions_cons, total_currentWindow_of_not_opens steady.unreset_head unopened]
    split <;> omega
  case always =>
    have always := limited.always
    rw [consumptions_cons]
    split
    next inside =>
      have sum := limited.within fun opening member =>
        (steady.le_head (List.mem_of_mem_filter member)).trans_lt inside.2
      omega
    next => omega

/-! ## Runs -/

/-- What a steady run keeps. -/
structure Regular (position : Position) (quota : Amount) (period : Seconds)
    (limiter : Limiter) (past : List Moment) : Prop where
  apart : Apart position period limiter past
  covered : total position (currentWindow position past) ≤ quota.toNat
  limited : ∀ begin, Limited position quota period begin past

theorem regular_after (steady : Steady position quota period (moment :: past))
    (accounted : Accounted position moment.world past)
    (regular : Regular position quota period moment.world past) :
    Regular position quota period moment.after (moment :: past) := by
  have apart := apart_after steady regular.apart
  have covered := covered_after steady accounted regular.covered
  refine ⟨apart, covered, fun begin => ?_⟩
  cases opens : moment.opens position with
  | true =>
      exact limited_of_opens steady regular.covered covered apart.apart
        (regular.limited begin) opens
  | false => exact limited_of_not_opens steady covered (regular.limited begin) opens

private theorem regular_nil (limiter : Limiter) : Regular position quota period limiter [] where
  apart := ⟨nofun, .nil⟩
  covered := Nat.zero_le _
  limited _ := ⟨fun _ => Nat.zero_le _, fun _ => Nat.zero_le _, Nat.zero_le _⟩

theorem regular_final {admin : Address} {fallback : Limits} {start : Limiter}
    (founded : Limiter.founded admin fallback = .ok start) {calls : List (Timed Request)}
    (steady : Steady position quota period (start.past calls)) :
    Regular position quota period (Run.final handle start calls) (start.past calls) := by
  -- That a run is steady is known of all its moments at once, so it stands before what is
  -- kept; the stored total needs no such condition and is carried along.
  let Holds (limiter : Limiter) (past : List Moment) : Prop :=
    Accounted position limiter past ∧
      (Steady position quota period past → Regular position quota period limiter past)
  have step (moment : Moment) (past : List Moment) (holds : Holds moment.world past) :
      Holds moment.after (moment :: past) :=
    ⟨accounted_after holds.1, fun steady =>
      regular_after steady holds.1 (holds.2 steady.tail)⟩
  have first : Holds start [] :=
    ⟨accounted_final founded position [], fun _ => regular_nil start⟩
  exact (final_past_of_moment Holds first step calls).2 steady

private theorem total_le_of_sublist {some all : List Moment} (sublist : some.Sublist all) :
    total position some ≤ total position all := by
  induction sublist with
  | slnil => exact Nat.le_refl 0
  | cons moment _ induction => exact induction.trans (Nat.le_add_left _ _)
  | cons_cons moment _ induction => exact Nat.add_le_add_left induction _

private theorem past_suffix {start : Limiter} {earlier calls : List (Timed Request)}
    (first : earlier <+: calls) : start.past earlier <:+ start.past calls := by
  rcases first with ⟨later, rfl⟩
  rw [past, past, Run.past_append]
  exact List.suffix_append _ _

/-- In a steady run from a new limiter, windows open at least one period apart. Within one
period from any time on, a position consumes twice its quota at most, and its quota at most
if the window of some time of the run holds all of it. -/
theorem consumption_limited {admin : Address} {fallback : Limits} {start : Limiter}
    (founded : Limiter.founded admin fallback = .ok start) (calls : List (Timed Request))
    (position : Position) (quota : Amount) (period : Seconds)
    (steady : Steady position quota period (start.past calls)) :
    let past := start.past calls
    ((openings position past).Pairwise fun later earlier =>
        earlier.now.toNat + period.toNat ≤ later.now.toNat) ∧
      ∀ begin,
        let consumed := consumptions position begin period.toNat past
        total position consumed ≤ 2 * quota.toNat ∧
          ((∃ earlier, earlier <+: calls ∧
              consumed.Sublist (currentWindow position (start.past earlier))) →
            total position consumed ≤ quota.toNat) := by
  intro past
  have regular := regular_final founded steady
  refine ⟨regular.apart.apart, fun begin => ⟨(regular.limited begin).always, ?_⟩⟩
  rintro ⟨earlier, first, sublist⟩
  have window := (regular_final founded (steady.suffix (past_suffix first))).covered
  exact (total_le_of_sublist sublist).trans window

end

namespace Sample

/-- Most of a window is consumed in its last second, and the next in its first. -/
def steadyCalls : List (Timed Request) :=
  [⟨1000, authorize⟩,
    ⟨1000, record (.ofNat 10)⟩,
    ⟨4599, record (.ofNat 70)⟩,
    ⟨4599, record (.ofNat 1)⟩,
    ⟨4600, record (.ofNat 80)⟩]

private theorem steady :
    Steady position fallback.quota fallback.period (start.past steadyCalls) where
  ordered := by decide
  unreset := by decide
  limits := by decide
  early := by decide

end Sample

theorem consumption_limited_sample :
    Steady Sample.position Sample.fallback.quota Sample.fallback.period
        (Sample.start.past Sample.steadyCalls) ∧
      total Sample.position
          (consumptions Sample.position 4599 3600 (Sample.start.past Sample.steadyCalls)) =
        150 ∧
      150 ≤ 2 * 80 ∧
      total Sample.position
          (consumptions Sample.position 1000 3600 (Sample.start.past Sample.steadyCalls)) ≤
        80 := by
  have limited := consumption_limited Sample.founded Sample.steadyCalls Sample.position
    Sample.fallback.quota Sample.fallback.period Sample.steady
  refine ⟨Sample.steady, rfl, (limited.2 4599).1, (limited.2 1000).2 ?_⟩
  exact ⟨Sample.steadyCalls.take 3, List.take_prefix .., .refl (currentWindow Sample.position
    (Sample.start.past (Sample.steadyCalls.take 3)))⟩

end Turnstile.Limiter
