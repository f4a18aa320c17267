import Turnstile.Proofs.Checkpoint.Decision
import Turnstile.Proofs.Ledger.Entry

namespace Turnstile

/-! Movements: the operations on balances that pass the whole decision. In front of a
balanced book, each is carried out exactly if its conditions hold, and then enters its
posting and charges its position. -/

inductive Movement where
  | transfer (asset source destination : Address) (amount : Amount)
  | transferFrom (asset spender source destination : Address) (amount : Amount)
  | mint (caller asset destination : Address) (amount : Amount)
  | burn (asset holder : Address) (amount : Amount)
deriving DecidableEq

namespace Movement

def command : Movement → Gate.Command
  | .transfer asset source destination amount => .transfer asset source destination amount
  | .transferFrom asset spender source destination amount =>
      .transferFrom asset spender source destination amount
  | .mint caller asset destination amount => .mint caller asset destination amount
  | .burn asset holder amount => .burn asset holder amount

def posting : Movement → Posting
  | .transfer asset source destination amount => ⟨asset, source, destination, amount⟩
  | .transferFrom asset _ source destination amount => ⟨asset, source, destination, amount⟩
  | .mint _ asset destination amount => ⟨asset, none, destination, amount⟩
  | .burn asset holder amount => ⟨asset, holder, none, amount⟩

def amount (movement : Movement) : Amount :=
  movement.posting.amount

/-- The position whose limits apply: the one that pays, or the receiver of a mint. -/
def charged : Movement → Position
  | .transfer asset source _ _ => ⟨asset, source⟩
  | .transferFrom asset _ source _ _ => ⟨asset, source⟩
  | .mint _ asset destination _ => ⟨asset, destination⟩
  | .burn asset holder _ => ⟨asset, holder⟩

theorem asset_charged (movement : Movement) : movement.charged.asset = movement.posting.asset := by
  cases movement <;> rfl

/-- The accounts that have to be whitelisted, in the order in which they are asked for. -/
def gated : Movement → List Address
  | .transfer _ source destination _ => [source, destination]
  | .transferFrom _ spender source destination _ => [source, destination, spender]
  | .mint _ _ destination _ => [destination]
  | .burn _ holder _ => [holder]

def event (movement : Movement) : Event :=
  .transfer movement.posting.asset (movement.posting.source.getD .zero)
    (movement.posting.destination.getD .zero) movement.amount

def operation : Movement → Operation
  | .transfer .. => .transfer
  | .transferFrom .. => .transferFrom
  | .mint .. => .mint
  | .burn .. => .burn

/-! ## The book

What is asked of the ledger before the limiter is charged, and what is written after. -/

def check (ledger : Ledger) : Movement → Except Refusal Unit
  | .transfer asset source _ amount => ledger.ensureBalance ⟨asset, source⟩ amount
  | .transferFrom asset _ source _ amount => ledger.ensureBalance ⟨asset, source⟩ amount
  | .mint _ asset destination amount => ledger.ensureCredit ⟨asset, destination⟩ amount
  | .burn asset holder amount => ledger.ensureBalance ⟨asset, holder⟩ amount

def write (ledger : Ledger) : Movement → Except Refusal Ledger
  | .transfer asset source destination amount => ledger.move asset source destination amount
  | .transferFrom asset _ source destination amount =>
      ledger.move asset source destination amount
  | .mint _ asset destination amount => ledger.credit ⟨asset, destination⟩ amount
  | .burn asset holder amount => ledger.debit ⟨asset, holder⟩ amount

private theorem follows_write {ledger : Ledger} (balanced : ledger.Balanced) (movement : Movement) :
    Follows (Ledger.Posted movement.posting ledger) (movement.check ledger)
      (movement.write ledger) := by
  cases movement with
  | transfer asset source destination amount =>
      exact Ledger.follows_move balanced asset source destination amount
  | transferFrom asset spender source destination amount =>
      exact Ledger.follows_move balanced asset source destination amount
  | mint caller asset destination amount =>
      exact Ledger.follows_credit ledger ⟨asset, destination⟩ amount
  | burn asset holder amount => exact Ledger.follows_debit balanced ⟨asset, holder⟩ amount

/-! ## Conditions -/

def callerConditions (authority : Authority) : Movement → List Condition
  | .mint caller _ destination _ =>
      [⟨authority.holds .minter caller, .unauthorized .minter caller⟩,
        ⟨destination ≠ .zero, .invalidArgument .zeroAddress⟩]
  | .transfer .. | .transferFrom .. | .burn .. => []

def ledgerCondition (ledger : Ledger) : Movement → Condition
  | .transfer asset source _ amount => ledger.balanceCondition ⟨asset, source⟩ amount
  | .transferFrom asset _ source _ amount => ledger.balanceCondition ⟨asset, source⟩ amount
  | .mint _ asset _ amount => ledger.supplyCondition asset amount
  | .burn asset holder amount => ledger.balanceCondition ⟨asset, holder⟩ amount

theorem check_eq_verdict {ledger : Ledger} (balanced : ledger.Balanced)
    (movement : Movement) :
    movement.check ledger = verdict [movement.ledgerCondition ledger] := by
  cases movement with
  | transfer => exact Ledger.ensureBalance_eq_verdict ..
  | transferFrom => exact Ledger.ensureBalance_eq_verdict ..
  | mint => exact Ledger.ensureCredit_eq_verdict balanced ..
  | burn => exact Ledger.ensureBalance_eq_verdict ..

def conditions (movement : Movement) (checkpoint : Checkpoint) (now : Seconds) :
    List Condition :=
  movement.callerConditions checkpoint.gate.authority ++
    (checkpoint.accessConditions movement.gated ++
      ([movement.ledgerCondition checkpoint.gate.ledger] ++
        checkpoint.limitConditions now movement.charged movement.amount))

end Movement

/-- A command to a gate moves something, or it is one of the others. -/
@[elab_as_elim]
theorem Gate.Command.byMovement {motive : Gate.Command → Prop}
    (movement : ∀ movement : Movement, motive movement.command)
    (admitTransfer : ∀ asset source destination amount,
      motive (.admitTransfer asset source destination amount))
    (recordConsumption : ∀ position amount, motive (.recordConsumption position amount))
    (assignMinter : ∀ caller account held, motive (.assignMinter caller account held))
    (setChecks : ∀ caller limitChecks whitelistChecks,
      motive (.setChecks caller limitChecks whitelistChecks))
    (setPaused : ∀ caller paused, motive (.setPaused caller paused))
    (replaceWhitelist : ∀ caller whitelist, motive (.replaceWhitelist caller whitelist))
    (replaceLimiter : ∀ caller limiter, motive (.replaceLimiter caller limiter))
    (recover : ∀ caller asset destination amount,
      motive (.recover caller asset destination amount))
    (deposit : ∀ asset amount, motive (.deposit asset amount)) (command : Gate.Command) :
    motive command := by
  cases command with
  | transfer asset source destination amount =>
      exact movement (.transfer asset source destination amount)
  | transferFrom asset spender source destination amount =>
      exact movement (.transferFrom asset spender source destination amount)
  | mint caller asset destination amount =>
      exact movement (.mint caller asset destination amount)
  | burn asset holder amount => exact movement (.burn asset holder amount)
  | admitTransfer => exact admitTransfer ..
  | recordConsumption => exact recordConsumption ..
  | assignMinter => exact assignMinter ..
  | setChecks => exact setChecks ..
  | setPaused => exact setPaused ..
  | replaceWhitelist => exact replaceWhitelist ..
  | replaceLimiter => exact replaceLimiter ..
  | recover => exact recover ..
  | deposit => exact deposit ..

namespace Checkpoint

/-! ## Effects -/

/-- One checkpoint is another after an amount was posted and charged, and differs in
nothing else. -/
structure Settled (now : Seconds) (charged : Position) (posting : Posting)
    (before after : Checkpoint) : Prop where
  gate : after.gate = { before.gate with ledger := after.gate.ledger }
  whitelist : after.whitelist = before.whitelist
  ledger : Ledger.Posted posting before.gate.ledger after.gate.ledger
  limiter : Limited now charged posting.amount before after

def judge (checkpoint : Checkpoint) (now : Seconds) (movement : Movement) :
    Outcome Checkpoint :=
  checkpoint.decision now movement.operation movement.charged movement.gated movement.amount
    (movement.check checkpoint.gate.ledger)

/-- All movements go the same way: the caller, the decision, the book. -/
theorem perform_movement (checkpoint : Checkpoint) (now : Seconds) (movement : Movement) :
    checkpoint.perform now movement.command =
      .guarded checkpoint (verdict (movement.callerConditions checkpoint.gate.authority))
        ((checkpoint.judge now movement).andThen fun charged =>
          charged.settle (movement.write charged.gate.ledger) [movement.event]) := by
  cases movement with
  | transfer => rfl
  | transferFrom => rfl
  | burn => rfl
  | mint caller asset destination amount =>
      change checkpoint.mint now caller asset destination amount = _
      simp only [mint, Movement.callerConditions, Limiter.require_eq_verdict, verdict_cons]
      cases checkpoint.gate.authority.holds .minter caller with
      | false => rfl
      | true =>
          by_cases null : destination = .zero
          · simp [null]
          · simp [null]
            rfl

theorem meets_judge {checkpoint : Checkpoint}
    (balanced : checkpoint.gate.ledger.Balanced) (now : Seconds) (movement : Movement) :
    (checkpoint.judge now movement).Meets
      (checkpoint.accessConditions movement.gated ++
        ([movement.ledgerCondition checkpoint.gate.ledger] ++
          checkpoint.limitConditions now movement.charged movement.amount))
      checkpoint.Alike (Decided now movement.charged movement.amount checkpoint) := by
  rw [judge, movement.check_eq_verdict balanced]
  exact meets_decision checkpoint now movement.operation movement.charged movement.gated
    movement.amount [movement.ledgerCondition checkpoint.gate.ledger]

/-- Once decided, the ledger takes the posting that was checked. -/
theorem written_of_judge {checkpoint : Checkpoint}
    (balanced : checkpoint.gate.ledger.Balanced) {now : Seconds} {movement : Movement}
    (accepted : (checkpoint.judge now movement).answer = .ok ()) :
    ∃ ledger, movement.write (checkpoint.judge now movement).world.gate.ledger = .ok ledger ∧
      Ledger.Posted movement.posting checkpoint.gate.ledger ledger := by
  have meets := meets_judge balanced now movement
  have follows := movement.follows_write balanced
  have passed := meets.answer.symm.trans accepted
  rw [verdict_append_eq_ok_iff, verdict_append_eq_ok_iff] at passed
  rw [movement.check_eq_verdict balanced, passed.2.1] at follows
  rw [(meets.done accepted).gate]
  generalize movement.write checkpoint.gate.ledger = written at follows
  cases follows with
  | done posted => exact ⟨_, rfl, posted⟩

theorem meets_movement {checkpoint : Checkpoint}
    (balanced : checkpoint.gate.ledger.Balanced) (now : Seconds) (movement : Movement) :
    (checkpoint.perform now movement.command).Meets (movement.conditions checkpoint now)
      checkpoint.Alike (fun after events =>
        Settled now movement.charged movement.posting checkpoint after ∧
          events = checkpoint.limitEvents after movement.charged movement.amount ++
            [movement.event]) := by
  rw [perform_movement]
  apply Outcome.Meets.guarded _ (.refl checkpoint)
  apply (meets_judge balanced now movement).andThen
  intro accepted
  rcases written_of_judge balanced accepted with ⟨ledger, written, posted⟩
  have decided := (meets_judge balanced now movement).done accepted
  rw [written]
  refine ⟨rfl, ⟨?_, decided.whitelist, posted, decided.limiter⟩, ?_⟩
  · rw [settle, Outcome.accepted, withLedger, decided.gate]
  · rw [decided.events]
    rfl

/-- In front of a balanced book, a movement is decided by its conditions, taken in their
order. If they all hold, it enters its posting, charges its position and changes nothing
else. -/
theorem movement_decided {checkpoint : Checkpoint}
    (balanced : checkpoint.gate.ledger.Balanced) (now : Seconds) (movement : Movement) :
    let outcome := checkpoint.perform now movement.command
    outcome.answer = verdict (movement.conditions checkpoint now) ∧
      (outcome.answer = .ok () →
        Settled now movement.charged movement.posting checkpoint outcome.world ∧
          outcome.events =
            checkpoint.limitEvents outcome.world movement.charged movement.amount ++
              [movement.event]) := by
  have meets := meets_movement balanced now movement
  exact ⟨meets.answer, meets.done⟩

end Checkpoint

/-! ## An open gate

Two accounts may pass, one of them holds something, and there are limits to it. -/

namespace Sample

def identity : Address := ⟨1, by decide⟩

def admin : Address := ⟨2, by decide⟩

def payer : Address := ⟨3, by decide⟩

def payee : Address := ⟨4, by decide⟩

def asset : Address := ⟨7, by decide⟩

def balances : List (Position × Amount) := [(⟨asset, payer⟩, ⟨90, by decide⟩)]

def grants : List Grant := [⟨.admin, admin⟩, ⟨.minter, admin⟩]

def checkpoint : Checkpoint where
  gate :=
    { identity
      switches := .initial
      ledger := (Ledger.empty.setBalance ⟨asset, payer⟩ ⟨90, by decide⟩).setSupply asset
        ⟨90, by decide⟩
      authority := .ofGrants grants }
  whitelist :=
    { enabled := true
      members := .ofKeys [payer, payee]
      authority := .ofGrants [⟨.admin, admin⟩] }
  limiter :=
    { fallback := ⟨⟨50, by decide⟩, 60, ⟨80, by decide⟩, 3600⟩
      defaults := .empty
      standings := .empty
      authority := .ofGrants [⟨.admin, admin⟩, ⟨.caller, identity⟩] }

def transfer : Movement := .transfer asset payer payee ⟨30, by decide⟩

/-- After the transfer. -/
def paid : Checkpoint :=
  (checkpoint.perform 1000 transfer.command).world

/-- After another transfer, which takes what is left of the quota. -/
def drained : Checkpoint :=
  (paid.perform 1060 (Movement.transfer asset payer payee (.ofNat 50)).command).world

/-- All that is left, to be sent when the next window opens. -/
def last : Movement := .transfer asset payer payee (.ofNat 10)

def holdings (checkpoint : Checkpoint) : Nat × Nat :=
  ((checkpoint.gate.ledger.balance ⟨asset, payer⟩).toNat,
    (checkpoint.gate.ledger.balance ⟨asset, payee⟩).toNat)

theorem balanced : checkpoint.gate.ledger.Balanced :=
  Ledger.balanced_ofRecords
    (show Ledger.ofRecords balances = .ok checkpoint.gate.ledger from rfl)

end Sample

/-- The quota holds the last transfer up to the end of the window, and is counted anew then. -/
theorem Checkpoint.movement_decided_sample :
    let late := Sample.drained.perform 4600 Sample.last.command
    (Sample.checkpoint.gate.ledger.Balanced ∧
        Settled 1000 Sample.transfer.charged Sample.transfer.posting Sample.checkpoint
          Sample.paid ∧
        Sample.holdings Sample.checkpoint = (90, 0) ∧ Sample.holdings Sample.paid = (60, 30)) ∧
      Sample.holdings Sample.drained = (10, 80) ∧ Sample.drained.gate.ledger.Balanced ∧
      (Sample.drained.perform 4599 Sample.last.command).answer =
        .error (.exceedsPeriodLimit (.ofNat 10) (.ofNat 80) (.ofNat 80)) ∧
      (late.answer = .ok () ∧
        Settled 4600 Sample.last.charged Sample.last.posting Sample.drained late.world ∧
        Sample.holdings late.world = (0, 90)) ∧
      (late.world.limiter.standing Sample.last.charged).window.total = .ofNat 10 := by
  intro late
  have first := movement_decided Sample.balanced 1000 Sample.transfer
  have settled := (first.2 (first.1.trans rfl)).1
  have second := movement_decided (settled.ledger.balanced Sample.balanced) 1060
    (.transfer Sample.asset Sample.payer Sample.payee (.ofNat 50))
  have balanced : Sample.drained.gate.ledger.Balanced :=
    (second.2 (second.1.trans rfl)).1.ledger.balanced (settled.ledger.balanced Sample.balanced)
  have early := (movement_decided balanced 4599 Sample.last).1
  have third := movement_decided balanced 4600 Sample.last
  have accepted : late.answer = .ok () := third.1.trans rfl
  exact ⟨⟨Sample.balanced, settled, rfl, rfl⟩, rfl, balanced, early.trans rfl,
    ⟨accepted, (third.2 accepted).1, rfl⟩, rfl⟩

end Turnstile
