import Turnstile.Proofs.Checkpoint.Easing
import Turnstile.Proofs.Checkpoint.Retry

namespace Turnstile

/-! Who may send at all. The check for it asks nothing of a receiver, of the cap or of the
quota, and it need not: with the sender as the receiver and nothing as the amount, none of them
is in the way. So it passes exactly if some transfer would, and who does not pass it cannot pay
anything to anyone. -/

theorem Amount.zero_le (amount : Amount) : zero ≤ amount :=
  le_iff.mpr (Nat.zero_le amount.toNat)

namespace Limiter

variable {limiter : Limiter} {now : Seconds} {position : Position}

private theorem allowsAmount_zero (limiter : Limiter) (position : Position) :
    limiter.allowsAmount position .zero = true := by
  simp [allowsAmount, Amount.zero_le]

theorem shownConditions_eq_ok_iff {amount : Amount} :
    verdict (limiter.shownConditions position amount now) = .ok () ↔
      limiter.allowsAmount position amount = true ∧
        limiter.nextValidTransferTime position now = 0 ∧
        amount ≤ (limiter.remainingAllowance position now).1 := by
  simp [shownConditions, verdict_cons_eq_ok_iff]

/-- Where an amount can be charged, no time to wait for is shown. -/
private theorem nextValidTransferTime_of_charge {caller : Address} {amount : Amount}
    (passed : verdict (limiter.chargeConditions now caller position amount) = .ok ()) :
    limiter.nextValidTransferTime position now = 0 := by
  have conditions := (verdict_cons_eq_ok_iff.mp passed).2
  cases exempt : limiter.isExempt position with
  | true => exact if_pos exempt
  | false =>
      rw [if_neg (Bool.eq_false_iff.mp exempt), Standing.conditions] at conditions
      have cooldown := (verdict_cons_eq_ok_iff.mp (verdict_cons_eq_ok_iff.mp conditions).2).1
      rw [nextValidTransferTime_eq_zero_iff exempt, nextStart?,
        ← Standing.checkCooldown_eq_ok_iff, Standing.checkCooldown_eq_verdict,
        verdict_cons_eq_ok_iff]
      exact ⟨cooldown, rfl⟩

end Limiter

namespace Checkpoint

variable {checkpoint : Checkpoint} {now : Seconds} {position : Position} {amount : Amount}

/-! ## The preview -/

private theorem checkAccess_of_mem {accounts : List Address} {account : Address}
    (passed : checkpoint.checkAccess accounts = .ok ()) (member : account ∈ accounts) :
    checkpoint.checkAccess [account] = .ok () := by
  rw [checkAccess_eq_ok_iff] at passed ⊢
  refine ⟨passed.1, fun asks other single => ?_⟩
  rw [List.mem_singleton.mp single]
  exact passed.2 asks account member

/-- Whoever may pass may pass twice. -/
private theorem checkAccess_self {account : Address}
    (passed : checkpoint.checkAccess [account] = .ok ()) :
    checkpoint.checkAccess [account, account] = .ok () := by
  rw [checkAccess_eq_ok_iff] at passed ⊢
  simpa using passed

theorem checkTransfer_eq_ok_iff {asset source destination : Address} :
    checkpoint.checkTransfer now asset source destination amount = .ok () ↔
      checkpoint.checkAccess [source, destination] = .ok () ∧
        (checkpoint.gate.switches.limitChecks = true →
          checkpoint.limiter.allowsAmount ⟨asset, source⟩ amount = true ∧
            checkpoint.limiter.nextValidTransferTime ⟨asset, source⟩ now = 0 ∧
            amount ≤ (checkpoint.limiter.remainingAllowance ⟨asset, source⟩ now).1) := by
  rw [checkTransfer_eq_shown, verdict_append_eq_ok_iff, ← checkAccess_eq_verdict]
  cases checkpoint.gate.switches.limitChecks with
  | false => simp
  | true => simp [Limiter.shownConditions_eq_ok_iff]

/-- The receiver only adds to what is asked of the sender. -/
theorem isAllowedSender_of_isAllowedTransfer {destination : Address}
    (allowed :
      checkpoint.isAllowedTransfer now position.asset position.account destination amount = true) :
    checkpoint.isAllowedSender now position = true := by
  rw [isAllowedTransfer_iff, checkTransfer_eq_ok_iff] at allowed
  rcases allowed with ⟨access, limits⟩
  rw [isAllowedSender_iff]
  exact ⟨checkAccess_of_mem access List.mem_cons_self, fun checks => (limits checks).2.1⟩

/-- Nothing can be sent to oneself by everyone who may send. -/
theorem isAllowedTransfer_of_isAllowedSender
    (allowed : checkpoint.isAllowedSender now position = true) :
    checkpoint.isAllowedTransfer now position.asset position.account position.account .zero =
      true := by
  rw [isAllowedSender_iff] at allowed
  rw [isAllowedTransfer_iff, checkTransfer_eq_ok_iff]
  refine ⟨checkAccess_self allowed.1, fun checks => ?_⟩
  exact ⟨Limiter.allowsAmount_zero .., allowed.2 checks, Amount.zero_le _⟩

/-! ## Payments -/

private theorem isAllowedSender_of_decision {operation : Operation} {accounts : List Address}
    {check : Except Refusal Unit} (member : position.account ∈ accounts)
    (accepted :
      (checkpoint.decision now operation position accounts amount check).answer = .ok ()) :
    checkpoint.isAllowedSender now position = true := by
  rw [decision_answer_eq_ok_iff] at accepted
  rcases accepted with ⟨access, _, limits⟩
  rw [isAllowedSender_iff]
  refine ⟨checkAccess_of_mem access member, fun checks => ?_⟩
  rw [limitConditions, if_pos checks] at limits
  exact Limiter.nextValidTransferTime_of_charge limits

private theorem refused_of_movement {movement : Movement} (pays : movement.pays = true)
    (barred : checkpoint.isAllowedSender now movement.charged = false) :
    (checkpoint.perform now movement.command).answer ≠ .ok () := by
  intro accepted
  have judged := (movement_answer_eq_ok_iff.mp accepted).2.1
  have member : movement.charged.account ∈ movement.gated := by
    cases movement with
    | mint => cases pays
    | transfer | transferFrom | burn => exact List.mem_cons_self
  exact Bool.eq_false_iff.mp barred (isAllowedSender_of_decision member judged)

/-- Nothing that the position would pay is accepted, whoever it is to reach. -/
structure PaysNothing (checkpoint : Checkpoint) (now : Seconds) (position : Position) : Prop where
  transfer : ∀ destination amount,
    (checkpoint.transfer now position.asset position.account destination amount).answer ≠ .ok ()
  transferFrom : ∀ spender destination amount,
    (checkpoint.transferFrom now position.asset spender position.account destination
      amount).answer ≠ .ok ()
  burn : ∀ amount,
    (checkpoint.burn now position.asset position.account amount).answer ≠ .ok ()
  admitTransfer : ∀ destination amount,
    (checkpoint.admitTransfer now position.asset position.account destination amount).answer ≠
      .ok ()

theorem paysNothing_of_isAllowedSender (barred : checkpoint.isAllowedSender now position = false) :
    checkpoint.PaysNothing now position := by
  refine ⟨?transfer, ?transferFrom, ?burn, ?admitTransfer⟩
  case transfer =>
    intro destination amount
    let movement := Movement.transfer position.asset position.account destination amount
    exact refused_of_movement (show movement.pays = true from rfl) barred
  case transferFrom =>
    intro spender destination amount
    let movement :=
      Movement.transferFrom position.asset spender position.account destination amount
    exact refused_of_movement (show movement.pays = true from rfl) barred
  case burn =>
    intro amount
    let movement := Movement.burn position.asset position.account amount
    exact refused_of_movement (show movement.pays = true from rfl) barred
  case admitTransfer =>
    intro destination amount accepted
    have allowed := isAllowedSender_of_decision List.mem_cons_self accepted
    exact Bool.eq_false_iff.mp barred allowed

/-- The check for a sender passes exactly if a transfer of some amount to someone is allowed,
and where it does not pass, nothing that the sender pays is accepted. -/
theorem sender_decided (checkpoint : Checkpoint) (now : Seconds) (position : Position) :
    (checkpoint.isAllowedSender now position = true ↔
        ∃ destination amount, checkpoint.isAllowedTransfer now position.asset position.account
          destination amount = true) ∧
      (checkpoint.isAllowedSender now position = false →
        checkpoint.PaysNothing now position) := by
  refine ⟨⟨fun allowed => ?_, ?_⟩, paysNothing_of_isAllowedSender⟩
  · exact ⟨position.account, .zero, isAllowedTransfer_of_isAllowedSender allowed⟩
  · rintro ⟨destination, amount, allowed⟩
    exact isAllowedSender_of_isAllowedTransfer allowed

end Checkpoint

/-- Half a minute after a transfer, its sender has to wait, and half a minute later no more. -/
theorem Checkpoint.sender_decided_sample :
    Sample.paid.isAllowedSender 1030 ⟨Sample.asset, Sample.payer⟩ = false ∧
      Sample.paid.PaysNothing 1030 ⟨Sample.asset, Sample.payer⟩ ∧
      ∃ destination amount,
        Sample.paid.isAllowedTransfer 1060 Sample.asset Sample.payer destination amount = true := by
  have early := sender_decided Sample.paid 1030 ⟨Sample.asset, Sample.payer⟩
  have later := sender_decided Sample.paid 1060 ⟨Sample.asset, Sample.payer⟩
  exact ⟨rfl, early.2 rfl, later.1.mp rfl⟩

end Turnstile
