import Turnstile.Proofs.Checkpoint.Preview
import Turnstile.Proofs.Limiter.Wait

namespace Turnstile

/-! The time at which to come again. Whoever is refused for a cooldown is told a time; whatever
else could have been asked names the same one, before it everyone is refused with it, and from
it on nobody is refused for the cooldown any more. -/

namespace Limiter

variable {limiter : Limiter} {now next : Seconds} {position : Position}

/-- Someone who holds the position to its limits now is told to come again at a time. -/
inductive Defers (limiter : Limiter) (now : Seconds) (position : Position) (next : Seconds) :
    Prop
  | pace (caller : Address) :
      (limiter.enforceCooldown now caller position).answer = .error (.cooldownNotElapsed next) →
        Defers limiter now position next
  | charge (caller : Address) (amount : Amount) :
      (limiter.charge now caller position amount).answer = .error (.cooldownNotElapsed next) →
        Defers limiter now position next

theorem Defers.waits (defers : limiter.Defers now position next) :
    limiter.isExempt position = false ∧ limiter.nextStart? position = some next ∧
      now < next := by
  cases defers with
  | pace caller refused => exact (enforceCooldown_waits_iff.mp refused).2
  | charge caller amount refused =>
      rcases charge_waits_iff.mp refused with ⟨_, counted, _, waits⟩
      exact ⟨counted, waits⟩

end Limiter

namespace Checkpoint

variable {checkpoint : Checkpoint} {now next : Seconds} {asset source destination : Address}
  {position : Position} {amount : Amount}

/-! ## What a checkpoint says of the cooldown -/

private theorem checkAccess_ne_cooldown (checkpoint : Checkpoint) (accounts : List Address)
    (next : Seconds) : checkpoint.checkAccess accounts ≠ .error (.cooldownNotElapsed next) := by
  intro refused
  rw [checkAccess_eq_verdict] at refused
  have named := mem_of_verdict_eq_error refused
  rw [accessConditions] at named
  split at named <;> simp at named

theorem checkTransfer_waits_iff :
    checkpoint.checkTransfer now asset source destination amount =
        .error (.cooldownNotElapsed next) ↔
      checkpoint.checkAccess [source, destination] = .ok () ∧
        checkpoint.gate.switches.limitChecks = true ∧
        checkpoint.limiter.isExempt ⟨asset, source⟩ = false ∧
        amount ≤ (checkpoint.limiter.enforcedLimits ⟨asset, source⟩).cap ∧
        checkpoint.limiter.nextStart? ⟨asset, source⟩ = some next ∧ now < next := by
  have access := checkpoint.checkAccess_ne_cooldown [source, destination] next
  rw [checkTransfer_eq_verdict, verdict_append_eq_error_iff, ← checkAccess_eq_verdict, counts]
  cases checkpoint.gate.switches.limitChecks with
  | false => simp [access]
  | true =>
      cases checkpoint.limiter.isExempt ⟨asset, source⟩ with
      | true => simp [access]
      | false =>
          simp [access, Standing.previewConditions, verdict_cons_eq_error_iff,
            Standing.cooldownCondition_refuses_iff, Standing.capCondition,
            Standing.allowanceCondition, Limiter.nextStart?]

theorem isAllowedSender_iff :
    checkpoint.isAllowedSender now position = true ↔
      checkpoint.checkAccess [position.account] = .ok () ∧
        (checkpoint.gate.switches.limitChecks = true →
          checkpoint.limiter.nextValidTransferTime position now = 0) := by
  rw [isAllowedSender]
  cases checkpoint.checkAccess [position.account] with
  | error refusal => simp [Except.isOk, Except.toBool]
  | ok => cases checkpoint.gate.switches.limitChecks <;> simp [Except.isOk, Except.toBool]

/-! ## The time to come again -/

/-- Everything that asks for the cooldown of the position finds the same end of it. -/
structure ResumesAt (checkpoint : Checkpoint) (position : Position) (next : Seconds) : Prop where
  cooldown : ∀ now,
    (checkpoint.limiter.standing position).checkCooldown
        (checkpoint.limiter.enforcedLimits position).cooldown now =
      if now < next then .error (.cooldownNotElapsed next) else .ok ()
  paced : ∀ now caller, checkpoint.limiter.authority.holds .caller caller = true →
    (checkpoint.limiter.enforceCooldown now caller position).answer =
      if now < next then .error (.cooldownNotElapsed next) else .ok ()
  charged : ∀ now caller amount told,
    (checkpoint.limiter.charge now caller position amount).answer =
        .error (.cooldownNotElapsed told) ↔
      checkpoint.limiter.authority.holds .caller caller = true ∧
        amount ≤ (checkpoint.limiter.enforcedLimits position).cap ∧ next = told ∧ now < told
  shown : ∀ now,
    checkpoint.limiter.nextValidTransferTime position now = if now < next then next else 0
  previewed : ∀ now destination amount told,
    checkpoint.checkTransfer now position.asset position.account destination amount =
        .error (.cooldownNotElapsed told) ↔
      checkpoint.checkAccess [position.account, destination] = .ok () ∧
        checkpoint.gate.switches.limitChecks = true ∧
        amount ≤ (checkpoint.limiter.enforcedLimits position).cap ∧ next = told ∧ now < told
  sender : ∀ now,
    checkpoint.isAllowedSender now position = true ↔
      checkpoint.checkAccess [position.account] = .ok () ∧
        (checkpoint.gate.switches.limitChecks = true → next ≤ now)

private theorem resumesAt_of_nextStart? (counted : checkpoint.limiter.isExempt position = false)
    (found : checkpoint.limiter.nextStart? position = some next) :
    checkpoint.ResumesAt position next where
  cooldown := Standing.checkCooldown_of_nextAllowedAt? found
  paced now caller permitted := by
    rw [Limiter.answer_enforceCooldown permitted counted,
      Standing.checkCooldown_of_nextAllowedAt? found]
  charged now caller amount told := by
    rw [Limiter.charge_waits_iff, counted, found]
    simp
  shown := Limiter.nextValidTransferTime_of_nextStart? counted found
  previewed now destination amount told := by
    rw [checkTransfer_waits_iff, counted, found]
    simp
  sender now := by
    rw [isAllowedSender_iff, Limiter.nextValidTransferTime_eq_zero_iff counted, found]
    simp

/-- Where no time is shown, the cooldown does not stand in the way of anyone. -/
theorem enforceCooldown_of_nextValidTransferTime {caller : Address}
    (permitted : checkpoint.limiter.authority.holds .caller caller = true)
    (shown : checkpoint.limiter.nextValidTransferTime position now = 0) :
    (checkpoint.limiter.enforceCooldown now caller position).answer = .ok () := by
  cases exempt : checkpoint.limiter.isExempt position with
  | true =>
      have waived := Limiter.perform_of_exempt permitted exempt now .pace
      change checkpoint.limiter.enforceCooldown now caller position = _ at waived
      rw [waived]
      rfl
  | false =>
      rw [Limiter.answer_enforceCooldown permitted exempt, Standing.checkCooldown_eq_ok_iff]
      exact (Limiter.nextValidTransferTime_eq_zero_iff exempt).mp shown

/-- The time that a refusal for the cooldown names lies ahead, it is the one that is shown, and
it is the time at which the position resumes. Nobody is refused for a cooldown where none is
shown. -/
theorem retry_time_exact (checkpoint : Checkpoint) (position : Position) :
    (∀ now next, checkpoint.limiter.Defers now position next →
        now < next ∧ checkpoint.limiter.nextValidTransferTime position now = next ∧
          checkpoint.ResumesAt position next) ∧
      ∀ now caller, checkpoint.limiter.authority.holds .caller caller = true →
        checkpoint.limiter.nextValidTransferTime position now = 0 →
          (checkpoint.limiter.enforceCooldown now caller position).answer = .ok () := by
  constructor
  · intro now next defers
    rcases defers.waits with ⟨counted, found, ahead⟩
    have resumes : checkpoint.ResumesAt position next := resumesAt_of_nextStart? counted found
    refine ⟨ahead, ?_, resumes⟩
    rw [resumes.shown, if_pos ahead]
  · intro now caller permitted shown
    exact enforceCooldown_of_nextValidTransferTime permitted shown

end Checkpoint

/-! ### A transfer that comes too early

Thirty seconds after the first transfer, half of its cooldown is over. -/

namespace Sample

private theorem defers : paid.limiter.Defers 1030 ⟨asset, payer⟩ 1060 :=
  .charge identity ⟨30, by decide⟩ rfl

end Sample

theorem Checkpoint.retry_time_exact_sample :
    Sample.paid.limiter.Defers 1030 ⟨Sample.asset, Sample.payer⟩ 1060 ∧
      Sample.paid.checkTransfer 1059 Sample.asset Sample.payer Sample.payee ⟨30, by decide⟩ =
        .error (.cooldownNotElapsed 1060) ∧
      Sample.paid.isAllowedSender 1060 ⟨Sample.asset, Sample.payer⟩ = true ∧
      (Sample.paid.limiter.enforceCooldown 1060 Sample.identity
        ⟨Sample.asset, Sample.payer⟩).answer = .ok () := by
  have told := retry_time_exact Sample.paid ⟨Sample.asset, Sample.payer⟩
  have resumes := (told.1 1030 1060 Sample.defers).2.2
  have shown : Sample.paid.limiter.nextValidTransferTime ⟨Sample.asset, Sample.payer⟩ 1060 = 0 :=
    resumes.shown 1060
  refine ⟨Sample.defers, ?previewed, ?sender, told.2 1060 Sample.identity rfl shown⟩
  case previewed =>
    exact (resumes.previewed 1059 Sample.payee _ 1060).mpr
      ⟨rfl, rfl, by decide, rfl, by decide⟩
  case sender =>
    exact (resumes.sender 1060).mpr ⟨rfl, fun _ => UInt64.le_refl 1060⟩

end Turnstile
