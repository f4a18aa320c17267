import Turnstile.Proofs.Checkpoint.Reachable
import Turnstile.Proofs.Limiter.Wait

namespace Turnstile

/-! Previews of transfers against admissions. Both look at the same conditions in the same
order, except that the preview reads the quota off the allowance that remains. As long as
the window holds no more than the quota, this makes no difference. Once the quota was
lowered below what the window holds, nothing remains: the preview then reports the quota as
the total of the window, and lets an amount of zero pass. -/

namespace Standing

/-- What remains of the quota covers the amount. -/
def allowanceCondition (standing : Standing) (limits : Limits) (amount : Amount)
    (now : Seconds) : Condition :=
  let remaining := standing.remaining limits now
  { holds := amount ≤ remaining
    refusal := .exceedsPeriodLimit amount (limits.quota.saturatingSub remaining) limits.quota }

def previewConditions (standing : Standing) (limits : Limits) (amount : Amount)
    (now : Seconds) : List Condition :=
  [capCondition limits amount, standing.cooldownCondition limits now,
    standing.allowanceCondition limits amount now]

/-- The window holds more than the quota. -/
def Overdrawn (standing : Standing) (limits : Limits) (now : Seconds) : Prop :=
  limits.quota < (standing.windowAt limits.period now).total

instance (standing : Standing) (limits : Limits) (now : Seconds) :
    Decidable (standing.Overdrawn limits now) :=
  inferInstanceAs (Decidable (_ < _))

section

variable {standing : Standing} {limits : Limits} {now : Seconds}

private theorem allowanceCondition_eq (covered : ¬standing.Overdrawn limits now) (amount : Amount) :
    standing.allowanceCondition limits amount now =
      standing.quotaCondition limits amount now := by
  have total : (standing.windowAt limits.period now).total.toNat ≤ limits.quota.toNat :=
    Nat.not_lt.mp covered
  have counted : limits.quota.saturatingSub (standing.remaining limits now) =
      (standing.windowAt limits.period now).total := by
    apply Amount.ext_toNat
    rw [remaining, Amount.toNat_saturatingSub, Amount.toNat_saturatingSub]
    omega
  have covers : amount ≤ standing.remaining limits now ↔
      (standing.windowAt limits.period now).total.toNat + amount.toNat ≤
        limits.quota.toNat := by
    rw [Amount.le_iff, remaining, Amount.toNat_saturatingSub]
    omega
  simp only [allowanceCondition, quotaCondition, counted, covers]

private theorem verdict_quota_of_overdrawn (overdrawn : standing.Overdrawn limits now)
    (amount : Amount) :
    verdict [standing.quotaCondition limits amount now] =
      .error (.exceedsPeriodLimit amount (standing.windowAt limits.period now).total
        limits.quota) := by
  have beyond : limits.quota.toNat < (standing.windowAt limits.period now).total.toNat :=
    overdrawn
  have fails : ¬(standing.windowAt limits.period now).total.toNat + amount.toNat ≤
      limits.quota.toNat := by
    omega
  simp [verdict, quotaCondition, fails]

private theorem verdict_allowance_of_overdrawn (overdrawn : standing.Overdrawn limits now)
    (amount : Amount) :
    verdict [standing.allowanceCondition limits amount now] =
      if amount = .zero then .ok ()
      else .error (.exceedsPeriodLimit amount limits.quota limits.quota) := by
  have beyond : limits.quota.toNat < (standing.windowAt limits.period now).total.toNat :=
    overdrawn
  have nothing : standing.remaining limits now = .zero := by
    apply Amount.ext_toNat
    rw [remaining, Amount.toNat_saturatingSub, Amount.toNat_zero]
    omega
  have counted : limits.quota.saturatingSub .zero = limits.quota := Amount.ext_toNat rfl
  have covers : amount ≤ .zero ↔ amount = .zero := by
    rw [Amount.le_iff, Amount.toNat_zero, Nat.le_zero]
    exact ⟨fun zero => Amount.ext_toNat zero, fun zero => zero ▸ rfl⟩
  simp only [verdict, allowanceCondition, nothing, counted, covers, decide_eq_true_eq]

private theorem verdict_allowance_eq_iff (amount : Amount) :
    verdict [standing.allowanceCondition limits amount now] =
        verdict [standing.quotaCondition limits amount now] ↔
      ¬standing.Overdrawn limits now := by
  constructor
  · intro equal overdrawn
    have different : limits.quota ≠ (standing.windowAt limits.period now).total := by
      intro same
      have beyond : limits.quota.toNat < (standing.windowAt limits.period now).total.toNat :=
        overdrawn
      rw [same] at beyond
      exact Nat.lt_irrefl _ beyond
    rw [verdict_allowance_of_overdrawn overdrawn, verdict_quota_of_overdrawn overdrawn] at equal
    split at equal
    · cases equal
    · simp [different] at equal
  · intro covered
    rw [allowanceCondition_eq covered]

end

end Standing

namespace Limiter

/-! ## What the limiter shows -/

/-- The conditions as a preview puts them together from what the limiter shows. -/
def shownConditions (limiter : Limiter) (position : Position) (amount : Amount)
    (now : Seconds) : List Condition :=
  let limits := limiter.effectiveLimits position
  let next := limiter.nextValidTransferTime position now
  let remaining := (limiter.remainingAllowance position now).1
  [⟨limiter.allowsAmount position amount, .limitExceeded amount limits.cap⟩,
    ⟨next = 0, .cooldownNotElapsed next⟩,
    ⟨amount ≤ remaining,
      .exceedsPeriodLimit amount (limits.quota.saturatingSub remaining) limits.quota⟩]

section

variable {limiter : Limiter} {position : Position}

private theorem verdict_shown_of_exempt (exempt : limiter.isExempt position = true)
    (amount : Amount) (now : Seconds) :
    verdict (limiter.shownConditions position amount now) = .ok () := by
  have bound : amount ≤ .unlimited := Nat.le_sub_one_of_lt amount.isLt
  simp [shownConditions, allowsAmount, nextValidTransferTime, remainingAllowance, exempt,
    bound, verdict]

/-- What has to be waited for is not mistaken for the zero that stands for no wait. -/
private theorem verdict_next_of_counted (counted : limiter.isExempt position = false)
    (now : Seconds) (rest : List Condition) :
    let next := limiter.nextValidTransferTime position now
    verdict (⟨next = 0, .cooldownNotElapsed next⟩ :: rest) =
      verdict ((limiter.standing position).cooldownCondition (limiter.enforcedLimits position)
        now :: rest) := by
  intro next
  rw [verdict_cons, verdict_cons]
  cases rested : ((limiter.standing position).cooldownCondition
      (limiter.enforcedLimits position) now).holds with
  | true =>
      have passed : (limiter.standing position).checkCooldown
          (limiter.enforcedLimits position).cooldown now = .ok () := by
        rw [Standing.checkCooldown_eq_verdict, verdict_cons, rested]
        rfl
      have none : next = 0 :=
        (nextValidTransferTime_eq_zero_iff counted).mpr (Standing.checkCooldown_eq_ok_iff.mp passed)
      simp [none]
  | false =>
      rcases Standing.cooldownCondition_refuses_iff.mp ⟨rested, rfl⟩ with ⟨found, early⟩
      have shown : next = _ := nextValidTransferTime_of_nextStart? counted found now
      have ahead := UInt64.pos_iff_ne_zero.mp (UInt64.lt_of_le_of_lt UInt64.zero_le early)
      rw [shown, if_pos early]
      simp only [ahead, decide_false, Bool.false_eq_true, if_false]
      rfl

private theorem verdict_shown_of_counted (counted : limiter.isExempt position = false)
    (amount : Amount) (now : Seconds) :
    verdict (limiter.shownConditions position amount now) =
      verdict ((limiter.standing position).previewConditions
        (limiter.enforcedLimits position) amount now) := by
  have limits := effectiveLimits_of_counted counted
  have allowed : limiter.allowsAmount position amount =
      decide (amount ≤ (limiter.enforcedLimits position).cap) := by
    simp [allowsAmount, counted]
  have remaining : (limiter.remainingAllowance position now).1 =
      (limiter.standing position).remaining (limiter.enforcedLimits position) now := by
    simp [remainingAllowance, counted]
  simp only [shownConditions, Standing.previewConditions, limits, allowed, remaining]
  rw [verdict_cons, verdict_next_of_counted counted]
  rfl

end

end Limiter

namespace Checkpoint

/-- Limits are checked and the position is not exempt from them. -/
def counts (checkpoint : Checkpoint) (position : Position) : Bool :=
  checkpoint.gate.switches.limitChecks && !checkpoint.limiter.isExempt position

/-! ## Both as lists of conditions -/

theorem checkTransfer_eq_shown (checkpoint : Checkpoint) (now : Seconds)
    (asset source destination : Address) (amount : Amount) :
    checkpoint.checkTransfer now asset source destination amount =
      verdict (checkpoint.accessConditions [source, destination] ++
        if checkpoint.gate.switches.limitChecks then
          checkpoint.limiter.shownConditions ⟨asset, source⟩ amount now
        else []) := by
  simp only [checkTransfer, checkAccess_eq_verdict]
  rw [verdict_append]
  cases verdict (checkpoint.accessConditions [source, destination]) with
  | error refusal => rfl
  | ok =>
      cases checkpoint.gate.switches.limitChecks with
      | false => rfl
      | true =>
          simp only [Limiter.shownConditions, Amount.le_iff, Amount.lt_iff]
          cases checkpoint.limiter.allowsAmount ⟨asset, source⟩ amount with
          | false => rfl
          | true =>
              by_cases rested : checkpoint.limiter.nextValidTransferTime ⟨asset, source⟩ now = 0
              · by_cases covered : amount.toNat ≤
                    (checkpoint.limiter.remainingAllowance ⟨asset, source⟩ now).1.toNat
                · simp [rested, covered, Nat.not_lt.mpr covered, verdict]
                  rfl
                · simp [rested, covered, Nat.not_le.mp covered, verdict]
                  rfl
              · simp [rested, verdict]
                rfl

theorem checkTransfer_eq_verdict (checkpoint : Checkpoint) (now : Seconds)
    (asset source destination : Address) (amount : Amount) :
    checkpoint.checkTransfer now asset source destination amount =
      verdict (checkpoint.accessConditions [source, destination] ++
        if checkpoint.counts ⟨asset, source⟩ then
          (checkpoint.limiter.standing ⟨asset, source⟩).previewConditions
            (checkpoint.limiter.enforcedLimits ⟨asset, source⟩) amount now
        else []) := by
  rw [checkTransfer_eq_shown, verdict_append, verdict_append, counts]
  cases checkpoint.gate.switches.limitChecks with
  | false => rfl
  | true =>
      cases exempt : checkpoint.limiter.isExempt ⟨asset, source⟩ with
      | true =>
          have shown := Limiter.verdict_shown_of_exempt exempt amount now
          simp [shown]
      | false =>
          have shown := Limiter.verdict_shown_of_counted exempt amount now
          simp [shown]

theorem admitTransfer_answer {checkpoint : Checkpoint}
    (caller : checkpoint.limiter.authority.holds .caller checkpoint.gate.identity = true)
    (now : Seconds) (asset source destination : Address) (amount : Amount) :
    (checkpoint.admitTransfer now asset source destination amount).answer =
      verdict (checkpoint.accessConditions [source, destination] ++
        if checkpoint.counts ⟨asset, source⟩ then
          (checkpoint.limiter.standing ⟨asset, source⟩).conditions
            (checkpoint.limiter.enforcedLimits ⟨asset, source⟩) amount now
        else []) := by
  have meets := meets_decision checkpoint now .admission ⟨asset, source⟩ [source, destination]
    amount []
  rw [List.nil_append, limitConditions, Limiter.chargeConditions] at meets
  refine meets.answer.trans ?_
  rw [verdict_append, verdict_append, counts]
  cases checkpoint.gate.switches.limitChecks with
  | false => rfl
  | true =>
      cases checkpoint.limiter.isExempt ⟨asset, source⟩ with
      | true => simp [verdict_cons, caller]
      | false => simp [verdict_cons, caller]

/-! ## Where they differ -/

/-- Nothing but the quota bars a transfer, and the window holds more than the quota. -/
structure Overdrawn (checkpoint : Checkpoint) (now : Seconds)
    (asset source destination : Address) (amount : Amount) : Prop where
  access : checkpoint.checkAccess [source, destination] = .ok ()
  counted : checkpoint.counts ⟨asset, source⟩ = true
  cap : amount ≤ (checkpoint.limiter.enforcedLimits ⟨asset, source⟩).cap
  cooldown : (checkpoint.limiter.standing ⟨asset, source⟩).checkCooldown
    (checkpoint.limiter.enforcedLimits ⟨asset, source⟩).cooldown now = .ok ()
  window : (checkpoint.limiter.standing ⟨asset, source⟩).Overdrawn
    (checkpoint.limiter.enforcedLimits ⟨asset, source⟩) now

section

variable {checkpoint : Checkpoint} {now : Seconds} {asset source destination : Address}
  {amount : Amount}

/-- What is looked at before the quota. -/
def priorConditions (checkpoint : Checkpoint) (now : Seconds)
    (asset source destination : Address) (amount : Amount) : List Condition :=
  checkpoint.accessConditions [source, destination] ++
    ([Standing.capCondition (checkpoint.limiter.enforcedLimits ⟨asset, source⟩) amount] ++
      [(checkpoint.limiter.standing ⟨asset, source⟩).cooldownCondition
        (checkpoint.limiter.enforcedLimits ⟨asset, source⟩) now])

theorem overdrawn_iff :
    checkpoint.Overdrawn now asset source destination amount ↔
      checkpoint.counts ⟨asset, source⟩ = true ∧
        verdict (checkpoint.priorConditions now asset source destination amount) = .ok () ∧
        (checkpoint.limiter.standing ⟨asset, source⟩).Overdrawn
          (checkpoint.limiter.enforcedLimits ⟨asset, source⟩) now := by
  rw [priorConditions, verdict_append_eq_ok_iff, verdict_append_eq_ok_iff,
    ← checkAccess_eq_verdict, ← Standing.checkCooldown_eq_verdict]
  have cap : verdict [Standing.capCondition
      (checkpoint.limiter.enforcedLimits ⟨asset, source⟩) amount] = .ok () ↔
        amount ≤ (checkpoint.limiter.enforcedLimits ⟨asset, source⟩).cap := by
    simp [verdict, Standing.capCondition]
  rw [cap]
  constructor
  · rintro ⟨access, counted, cap, cooldown, window⟩
    exact ⟨counted, ⟨access, cap, cooldown⟩, window⟩
  · rintro ⟨counted, ⟨access, cap, cooldown⟩, window⟩
    exact ⟨access, counted, cap, cooldown, window⟩

private theorem checkTransfer_of_counts (counted : checkpoint.counts ⟨asset, source⟩ = true) :
    checkpoint.checkTransfer now asset source destination amount =
      verdict (checkpoint.priorConditions now asset source destination amount ++
        [(checkpoint.limiter.standing ⟨asset, source⟩).allowanceCondition
          (checkpoint.limiter.enforcedLimits ⟨asset, source⟩) amount now]) := by
  rw [checkTransfer_eq_verdict, if_pos counted, priorConditions, List.append_assoc]
  rfl

private theorem admitTransfer_of_counts
    (caller : checkpoint.limiter.authority.holds .caller checkpoint.gate.identity = true)
    (counted : checkpoint.counts ⟨asset, source⟩ = true) :
    (checkpoint.admitTransfer now asset source destination amount).answer =
      verdict (checkpoint.priorConditions now asset source destination amount ++
        [(checkpoint.limiter.standing ⟨asset, source⟩).quotaCondition
          (checkpoint.limiter.enforcedLimits ⟨asset, source⟩) amount now]) := by
  rw [admitTransfer_answer caller, if_pos counted, priorConditions, List.append_assoc]
  rfl

private theorem answers_of_overdrawn
    (caller : checkpoint.limiter.authority.holds .caller checkpoint.gate.identity = true)
    (overdrawn : checkpoint.Overdrawn now asset source destination amount) :
    let position : Position := ⟨asset, source⟩
    let limits := checkpoint.limiter.enforcedLimits position
    let window := (checkpoint.limiter.standing position).windowAt limits.period now
    (checkpoint.checkTransfer now asset source destination amount =
        if amount = .zero then .ok ()
        else .error (.exceedsPeriodLimit amount limits.quota limits.quota)) ∧
      (checkpoint.admitTransfer now asset source destination amount).answer =
        .error (.exceedsPeriodLimit amount window.total limits.quota) := by
  rcases overdrawn_iff.mp overdrawn with ⟨counted, prior, window⟩
  constructor
  · rw [checkTransfer_of_counts counted, verdict_append, prior]
    exact Standing.verdict_allowance_of_overdrawn window amount
  · rw [admitTransfer_of_counts caller counted, verdict_append, prior]
    exact Standing.verdict_quota_of_overdrawn window amount

theorem checkTransfer_eq_iff
    (caller : checkpoint.limiter.authority.holds .caller checkpoint.gate.identity = true) :
    checkpoint.checkTransfer now asset source destination amount =
        (checkpoint.admitTransfer now asset source destination amount).answer ↔
      ¬checkpoint.Overdrawn now asset source destination amount := by
  cases counted : checkpoint.counts ⟨asset, source⟩ with
  | false =>
      have equal : checkpoint.checkTransfer now asset source destination amount =
          (checkpoint.admitTransfer now asset source destination amount).answer := by
        rw [checkTransfer_eq_verdict, admitTransfer_answer caller, counted]
        rfl
      exact iff_of_true equal fun overdrawn => nomatch counted.symm.trans overdrawn.counted
  | true =>
      rw [checkTransfer_of_counts counted, admitTransfer_of_counts caller counted,
        verdict_append_eq_iff, Standing.verdict_allowance_eq_iff, overdrawn_iff]
      simp [counted]

theorem isAllowedTransfer_iff :
    checkpoint.isAllowedTransfer now asset source destination amount = true ↔
      checkpoint.checkTransfer now asset source destination amount = .ok () := by
  rw [isAllowedTransfer]
  cases checkpoint.checkTransfer now asset source destination amount with
  | ok => exact iff_of_true rfl rfl
  | error refusal => exact iff_of_false nofun nofun

theorem isAllowedTransfer_agrees_iff
    (caller : checkpoint.limiter.authority.holds .caller checkpoint.gate.identity = true) :
    (checkpoint.isAllowedTransfer now asset source destination amount = true ↔
        (checkpoint.admitTransfer now asset source destination amount).answer = .ok ()) ↔
      ¬(checkpoint.Overdrawn now asset source destination amount ∧ amount = .zero) := by
  rw [isAllowedTransfer_iff]
  by_cases overdrawn : checkpoint.Overdrawn now asset source destination amount
  · rcases answers_of_overdrawn caller overdrawn with ⟨preview, admission⟩
    rw [preview, admission]
    by_cases nothing : amount = .zero
    · subst nothing
      simp [overdrawn]
    · simp [nothing]
  · rw [(checkTransfer_eq_iff caller).mpr overdrawn]
    simp [overdrawn]

end

/-- A preview answers what the admission would, unless the window holds more than the quota
and nothing else bars the transfer. The admission then refuses any amount with the total of
the window; the preview lets zero pass, and names the quota in place of the total. -/
theorem preview_decided {checkpoint : Checkpoint}
    (caller : checkpoint.limiter.authority.holds .caller checkpoint.gate.identity = true)
    (now : Seconds) (asset source destination : Address) (amount : Amount) :
    let limits := checkpoint.limiter.enforcedLimits ⟨asset, source⟩
    let window := (checkpoint.limiter.standing ⟨asset, source⟩).windowAt limits.period now
    let preview := checkpoint.checkTransfer now asset source destination amount
    let allowed := checkpoint.isAllowedTransfer now asset source destination amount
    let admission := (checkpoint.admitTransfer now asset source destination amount).answer
    let overdrawn := checkpoint.Overdrawn now asset source destination amount
    (preview = admission ↔ ¬overdrawn) ∧
      ((allowed = true ↔ admission = .ok ()) ↔ ¬(overdrawn ∧ amount = .zero)) ∧
      (overdrawn →
        admission = .error (.exceedsPeriodLimit amount window.total limits.quota) ∧
          preview = if amount = .zero then .ok ()
            else .error (.exceedsPeriodLimit amount limits.quota limits.quota)) := by
  refine ⟨checkTransfer_eq_iff caller, isAllowedTransfer_agrees_iff caller, ?_⟩
  intro overdrawn
  rcases answers_of_overdrawn caller overdrawn with ⟨preview, admission⟩
  exact ⟨admission, preview⟩

end Checkpoint

namespace Sample

/-- After a transfer, the quota is lowered below what the window holds. -/
def loweringCalls : List (Timed Checkpoint.Command) :=
  [⟨1000, .gate transfer.command⟩,
    ⟨1010, .limiter admin (.setDefaultPeriod asset ⟨25, by decide⟩ 3600)⟩]

def lowered : Checkpoint :=
  Run.final Checkpoint.executeAt checkpoint loweringCalls

private theorem reachable_lowered : lowered.Reachable :=
  ⟨checkpoint, origin, loweringCalls, rfl⟩

end Sample

theorem Checkpoint.preview_decided_sample :
    Sample.lowered.Overdrawn 1060 Sample.asset Sample.payer Sample.payee ⟨10, by decide⟩ ∧
      Sample.lowered.checkTransfer 1060 Sample.asset Sample.payer Sample.payee
          ⟨10, by decide⟩ =
        .error (.exceedsPeriodLimit ⟨10, by decide⟩ ⟨25, by decide⟩ ⟨25, by decide⟩) := by
  have caller : Sample.lowered.limiter.authority.holds .caller
      Sample.lowered.gate.identity = true := rfl
  have overdrawn : Sample.lowered.Overdrawn 1060 Sample.asset Sample.payer Sample.payee
      ⟨10, by decide⟩ := ⟨rfl, rfl, by decide, rfl, by decide⟩
  have decided := preview_decided caller 1060 Sample.asset Sample.payer Sample.payee
    ⟨10, by decide⟩
  exact ⟨overdrawn, (decided.2.2 overdrawn).2⟩

/-- A preview of nothing passes where its admission is refused. -/
theorem Checkpoint.preview_passes_sample :
    Sample.lowered.Reachable ∧
      Sample.lowered.limiter.authority.holds .caller Sample.lowered.gate.identity = true ∧
      Sample.lowered.checkTransfer 1060 Sample.asset Sample.payer Sample.payee .zero = .ok () ∧
      Sample.lowered.isAllowedTransfer 1060 Sample.asset Sample.payer Sample.payee .zero = true ∧
      (Sample.lowered.admitTransfer 1060 Sample.asset Sample.payer Sample.payee .zero).answer =
        .error (.exceedsPeriodLimit .zero ⟨30, by decide⟩ ⟨25, by decide⟩) :=
  ⟨Sample.reachable_lowered, rfl, rfl, rfl, rfl⟩

end Turnstile
