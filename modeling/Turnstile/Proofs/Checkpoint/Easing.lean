import Turnstile.Proofs.Checkpoint.Invariant
import Turnstile.Proofs.Checkpoint.Supply
import Turnstile.Proofs.Limiter.Easing

namespace Turnstile

/-! Nothing is lost by waiting, by asking for less, or by rules that are relaxed. What an
account may do with an amount now it may do as well with any smaller amount at any later time,
and after its limits, the whitelist or the switches were eased, or its balance has grown. -/

/-- Where an amount fits, a smaller one does. -/
private theorem Amount.checkedAdd_of_le {balance received amount less : Amount}
    (smaller : less ≤ amount) (sum : balance.checkedAdd amount = some received) :
    ∃ received, balance.checkedAdd less = some received := by
  have total := checkedAdd_eq_some_iff.mp sum
  have bound := received.isLt
  rw [le_iff] at smaller
  exact ⟨⟨balance.toNat + less.toNat, by omega⟩, checkedAdd_eq_some_iff.mpr rfl⟩

/-! ## Books -/

namespace Ledger

variable {ledger : Ledger} {position : Position} {asset source destination : Address}
  {amount less : Amount}

private theorem debit_written_iff :
    (∃ written, ledger.debit position amount = .ok written) ↔
      amount ≤ ledger.balance position := by
  rw [← ensureBalance_eq_ok_iff, debit]
  cases ledger.ensureBalance position amount <;> simp [bind, Except.bind, pure, Except.pure]

private theorem move_written_iff :
    (∃ written, ledger.move asset source destination amount = .ok written) ↔
      amount ≤ ledger.balance ⟨asset, source⟩ ∧
        (source ≠ destination →
          ∃ received, (ledger.balance ⟨asset, destination⟩).checkedAdd amount = some received) := by
  rw [← ensureBalance_eq_ok_iff, move]
  cases ledger.ensureBalance ⟨asset, source⟩ amount with
  | error refusal => simp [bind, Except.bind]
  | ok =>
      by_cases same : source = destination
      · simp [same, bind, Except.bind, pure, Except.pure]
      · cases (ledger.balance ⟨asset, destination⟩).checkedAdd amount <;>
          simp [same, bind, Except.bind, pure, Except.pure]

/-- The book is the same, or it is balanced and holds no less at the position. -/
def Eased (position : Position) (before after : Ledger) : Prop :=
  after = before ∨ (after.Balanced ∧ before.balance position ≤ after.balance position)

section

variable {before after : Ledger}

theorem Eased.balance (eased : Eased position before after) :
    before.balance position ≤ after.balance position := by
  rcases eased with rfl | ⟨_, more⟩
  · exact Nat.le_refl _
  · exact more

private theorem ensureBalance_of_eased (eased : Eased position before after)
    (smaller : less ≤ amount) (passed : before.ensureBalance position amount = .ok ()) :
    after.ensureBalance position less = .ok () := by
  rw [ensureBalance_eq_ok_iff] at passed ⊢
  exact Nat.le_trans smaller (Nat.le_trans passed eased.balance)

private theorem debit_of_eased (eased : Eased position before after) (smaller : less ≤ amount)
    (written : ∃ ledger, before.debit position amount = .ok ledger) :
    ∃ ledger, after.debit position less = .ok ledger := by
  rw [debit_written_iff, ← ensureBalance_eq_ok_iff] at written ⊢
  exact ensureBalance_of_eased eased smaller written

private theorem move_of_eased (eased : Eased ⟨asset, source⟩ before after) (smaller : less ≤ amount)
    (written : ∃ ledger, before.move asset source destination amount = .ok ledger) :
    ∃ ledger, after.move asset source destination less = .ok ledger := by
  rw [move_written_iff, ← ensureBalance_eq_ok_iff] at written ⊢
  have covered := ensureBalance_of_eased eased smaller written.1
  refine ⟨covered, fun different => ?_⟩
  -- A book that is not balanced promises no room, but it has had room for more.
  rcases eased with rfl | ⟨balanced, _⟩
  · rcases written.2 different with ⟨received, sum⟩
    exact Amount.checkedAdd_of_le smaller sum
  · exact checkedAdd_of_ensureBalance balanced different covered

end

end Ledger

namespace Movement

/-- The same movement of another amount. -/
def withAmount (amount : Amount) : Movement → Movement
  | .transfer asset source destination _ => .transfer asset source destination amount
  | .transferFrom asset spender source destination _ =>
      .transferFrom asset spender source destination amount
  | .mint caller asset destination _ => .mint caller asset destination amount
  | .burn asset holder _ => .burn asset holder amount

/-- The position that is charged is the one that the amount is taken from. -/
def pays : Movement → Bool
  | .transfer .. | .transferFrom .. | .burn .. => true
  | .mint .. => false

section

variable (movement : Movement) (pays : movement.pays = true) {before after : Ledger}
  {less : Amount}

include pays

private theorem check_of_eased (eased : Ledger.Eased movement.charged before after)
    (smaller : less ≤ movement.amount) (passed : movement.check before = .ok ()) :
    (movement.withAmount less).check after = .ok () := by
  cases movement with
  | mint => cases pays
  | transfer | transferFrom | burn => exact Ledger.ensureBalance_of_eased eased smaller passed

private theorem write_of_eased (eased : Ledger.Eased movement.charged before after)
    (smaller : less ≤ movement.amount)
    (written : ∃ ledger, movement.write before = .ok ledger) :
    ∃ ledger, (movement.withAmount less).write after = .ok ledger := by
  cases movement with
  | mint => cases pays
  | transfer | transferFrom => exact Ledger.move_of_eased eased smaller written
  | burn => exact Ledger.debit_of_eased eased smaller written

end

end Movement

/-! ## Decisions -/

namespace Checkpoint

/-- For what the position pays, one checkpoint is no stricter than another: each of its rules
asks for the same or for less. -/
structure Eased (position : Position) (before after : Checkpoint) : Prop where
  paused : after.gate.switches.paused = true → before.gate.switches.paused = true
  whitelistChecks : after.gate.switches.whitelistChecks = true →
    before.gate.switches.whitelistChecks = true
  limitChecks : after.gate.switches.limitChecks = true → before.gate.switches.limitChecks = true
  whitelisted : ∀ account, before.whitelist.isWhitelisted account = true →
    after.whitelist.isWhitelisted account = true
  caller : before.limiter.authority.holds .caller before.gate.identity = true →
    after.limiter.authority.holds .caller after.gate.identity = true
  limiter : Limiter.Eased position before.limiter after.limiter
  ledger : Ledger.Eased position before.gate.ledger after.gate.ledger

theorem Eased.refl (position : Position) (checkpoint : Checkpoint) :
    Eased position checkpoint checkpoint where
  paused := id
  whitelistChecks := id
  limitChecks := id
  whitelisted _ := id
  caller := id
  limiter := .refl position checkpoint.limiter
  ledger := .inl rfl

theorem eased_withExemption (checkpoint : Checkpoint) (position : Position) :
    Eased position checkpoint
      { checkpoint with limiter := checkpoint.limiter.withExemption position true } where
  paused := id
  whitelistChecks := id
  limitChecks := id
  whitelisted _ := id
  caller := id
  limiter := Limiter.eased_withExemption checkpoint.limiter position
  ledger := .inl rfl

section

variable {before after : Checkpoint} {position : Position} {now later : Seconds}
  {amount less : Amount}

private theorem checkAccess_of_eased (eased : Eased position before after) {accounts : List Address}
    (passed : before.checkAccess accounts = .ok ()) : after.checkAccess accounts = .ok () := by
  rw [checkAccess_eq_ok_iff] at passed ⊢
  rcases passed with ⟨running, whitelisted⟩
  constructor
  · exact Bool.eq_false_iff.mpr (mt eased.paused (Bool.eq_false_iff.mp running))
  · intro asks account member
    exact eased.whitelisted account (whitelisted (eased.whitelistChecks asks) account member)

private theorem limitConditions_of_eased (eased : Eased position before after)
    (ordered : now ≤ later) (smaller : less ≤ amount)
    (passed : verdict (before.limitConditions now position amount) = .ok ()) :
    verdict (after.limitConditions later position less) = .ok () := by
  rw [limitConditions] at passed ⊢
  cases checks : after.gate.switches.limitChecks with
  | false => rfl
  | true =>
      rw [if_pos (eased.limitChecks checks)] at passed
      exact Limiter.chargeConditions_of_eased eased.limiter eased.caller ordered smaller passed

private theorem decision_of_eased (eased : Eased position before after) (ordered : now ≤ later)
    (smaller : less ≤ amount) {operation : Operation} {accounts : List Address}
    {check checkAfter : Except Refusal Unit} (checked : check = .ok () → checkAfter = .ok ())
    (accepted :
      (before.decision now operation position accounts amount check).answer = .ok ()) :
    (after.decision later operation position accounts less checkAfter).answer = .ok () := by
  rw [decision_answer_eq_ok_iff] at accepted ⊢
  rcases accepted with ⟨access, passed, limits⟩
  exact ⟨checkAccess_of_eased eased access, checked passed,
    limitConditions_of_eased eased ordered smaller limits⟩

/-! ## Payments -/

private theorem settle_answer_eq_ok_iff {checkpoint : Checkpoint} {written : Except Refusal Ledger}
    {events : List Event} :
    (checkpoint.settle written events).answer = .ok () ↔ ∃ ledger, written = .ok ledger := by
  cases written <;> simp [settle, Outcome.refused, Outcome.accepted]

/-- The book that is written is the one that was asked. -/
theorem movement_answer_eq_ok_iff {checkpoint : Checkpoint} {movement : Movement} :
    (checkpoint.perform now movement.command).answer = .ok () ↔
      verdict (movement.callerConditions checkpoint.gate.authority) = .ok () ∧
        (checkpoint.judge now movement).answer = .ok () ∧
        ∃ ledger, movement.write checkpoint.gate.ledger = .ok ledger := by
  rw [perform_movement, Outcome.guarded_answer_eq_ok_iff, Outcome.andThen_answer_eq_ok_iff,
    settle_answer_eq_ok_iff, judge, gate_decision]

theorem movement_of_eased {movement : Movement} (pays : movement.pays = true)
    (eased : Eased movement.charged before after) (ordered : now ≤ later)
    (smaller : less ≤ movement.amount)
    (accepted : (before.perform now movement.command).answer = .ok ()) :
    (after.perform later (movement.withAmount less).command).answer = .ok () := by
  rw [movement_answer_eq_ok_iff] at accepted ⊢
  rcases accepted with ⟨_, judged, written⟩
  have checked := movement.check_of_eased pays eased.ledger smaller
  refine ⟨?caller, ?judged, movement.write_of_eased pays eased.ledger smaller written⟩
  case caller =>
    cases movement with
    | mint => cases pays
    | transfer | transferFrom | burn => rfl
  case judged =>
    cases movement with
    | mint => cases pays
    | transfer | transferFrom | burn =>
        exact decision_of_eased eased ordered smaller checked judged

end

/-- What a position can pay now, it can pay at any later time and under rules that have been
eased, and with it any smaller amount. -/
theorem admission_monotone {before after : Checkpoint} {position : Position}
    (eased : Eased position before after) {now later : Seconds} (ordered : now ≤ later)
    {less amount : Amount} (smaller : less ≤ amount) :
    (∀ destination,
        (before.transfer now position.asset position.account destination amount).answer =
          .ok () →
        (after.transfer later position.asset position.account destination less).answer =
          .ok ()) ∧
      (∀ spender destination,
        (before.transferFrom now position.asset spender position.account destination
          amount).answer = .ok () →
        (after.transferFrom later position.asset spender position.account destination
          less).answer = .ok ()) ∧
      ((before.burn now position.asset position.account amount).answer = .ok () →
        (after.burn later position.asset position.account less).answer = .ok ()) ∧
      (∀ destination,
        (before.admitTransfer now position.asset position.account destination amount).answer =
          .ok () →
        (after.admitTransfer later position.asset position.account destination less).answer =
          .ok ()) := by
  refine ⟨?transfer, ?transferFrom, ?burn, ?admitTransfer⟩
  case transfer =>
    intro destination
    let movement := Movement.transfer position.asset position.account destination amount
    exact movement_of_eased (show movement.pays = true from rfl) eased ordered smaller
  case transferFrom =>
    intro spender destination
    let movement :=
      Movement.transferFrom position.asset spender position.account destination amount
    exact movement_of_eased (show movement.pays = true from rfl) eased ordered smaller
  case burn =>
    let movement := Movement.burn position.asset position.account amount
    exact movement_of_eased (show movement.pays = true from rfl) eased ordered smaller
  case admitTransfer =>
    intro destination accepted
    exact decision_of_eased eased ordered smaller id accepted

end Checkpoint

/-! ### A stricter gate and two that are less strict -/

namespace Sample

/-- Higher limits for half the cooldown, and nobody is looked up in the whitelist. -/
def relaxingCalls : List (Timed Checkpoint.Command) :=
  [⟨1030, .limiter admin
      (.setDefaultLimits asset ⟨⟨60, by decide⟩, 30, ⟨100, by decide⟩, 600⟩)⟩,
    ⟨1030, .gate (.setChecks admin true false)⟩]

def relaxed : Checkpoint :=
  Run.final Checkpoint.executeAt paid relaxingCalls

private theorem eased_relaxed : Checkpoint.Eased ⟨asset, payer⟩ paid relaxed where
  paused := id
  whitelistChecks asks := nomatch asks
  limitChecks := id
  whitelisted _ := id
  caller := id
  limiter := ⟨id, ⟨by decide, by decide, by decide⟩, ⟨rfl, rfl⟩⟩
  ledger := .inl rfl

def waived : Checkpoint :=
  { paid with limiter := paid.limiter.withExemption ⟨asset, payer⟩ true }

end Sample

theorem Checkpoint.admission_monotone_sample :
    (Sample.paid.transfer 1060 Sample.asset Sample.payer Sample.payee ⟨30, by decide⟩).answer =
        .ok () ∧
      (Sample.paid.transfer 2000 Sample.asset Sample.payer Sample.payee .zero).answer =
        .ok () ∧
      (Sample.relaxed.transfer 1060 Sample.asset Sample.payer Sample.payee
        ⟨30, by decide⟩).answer = .ok () ∧
      (Sample.waived.burn 1060 Sample.asset Sample.payer ⟨20, by decide⟩).answer = .ok () := by
  have same := Eased.refl ⟨Sample.asset, Sample.payer⟩ Sample.paid
  have exempted := eased_withExemption Sample.paid ⟨Sample.asset, Sample.payer⟩
  have later : (1060 : Seconds) ≤ 2000 := by decide
  have nothing : Amount.zero ≤ ⟨30, by decide⟩ := Nat.zero_le 30
  have less : (⟨20, by decide⟩ : Amount) ≤ ⟨30, by decide⟩ := by decide
  have all : (⟨30, by decide⟩ : Amount) ≤ ⟨30, by decide⟩ := by decide
  refine ⟨rfl, ?later, ?relaxed, ?waived⟩
  case later => exact (admission_monotone same later nothing).1 Sample.payee rfl
  case relaxed =>
    exact (admission_monotone Sample.eased_relaxed (UInt64.le_refl 1060) all).1 Sample.payee rfl
  case waived =>
    exact (admission_monotone exempted (UInt64.le_refl 1060) less).2.2.1 rfl

end Turnstile
