import Turnstile.Proofs.Checkpoint.Refused
import Turnstile.Proofs.Run

namespace Turnstile

/-! Supplies over whole runs. From its origin on, the book of a gate is balanced, whatever
is done at the gate and at its collaborators; every accepted command enters at most one
posting; and a supply counts what was created less what was destroyed. -/

/-! ## Origins -/

/-- A gate as it comes into being: new, or restored from a snapshot. -/
inductive Gate.Origin : Gate → Prop
  | founded {identity admin : Address} {gate : Gate} :
      Gate.founded identity admin = .ok gate → Origin gate
  | restored {identity : Address} {snapshot : Gate.Snapshot} {gate : Gate} :
      Gate.ofSnapshot identity snapshot = .ok gate → Origin gate

theorem Gate.Origin.balanced {gate : Gate} (origin : gate.Origin) :
    gate.ledger.Balanced := by
  cases origin with
  | founded founded =>
      rw [Gate.founded] at founded
      split at founded
      · cases founded
      · rcases exists_of_bind_eq_ok founded with ⟨authority, _, done⟩
        cases done
        exact Ledger.balanced_empty
  | restored restored =>
      rcases exists_of_bind_eq_ok restored with ⟨ledger, rebuilt, done⟩
      cases done
      exact Ledger.balanced_ofRecords rebuilt

/-! ## What accepted commands enter -/

namespace Gate.Command

def movement? : Gate.Command → Option Movement
  | .transfer asset source destination amount =>
      some (.transfer asset source destination amount)
  | .transferFrom asset spender source destination amount =>
      some (.transferFrom asset spender source destination amount)
  | .mint caller asset destination amount => some (.mint caller asset destination amount)
  | .burn asset holder amount => some (.burn asset holder amount)
  | _ => none

def posting? (identity : Address) : Gate.Command → Option Posting
  | .recover _ asset destination amount => some ⟨asset, identity, destination, amount⟩
  | .deposit asset amount => some ⟨asset, none, identity, amount⟩
  | command => command.movement?.map Movement.posting

end Gate.Command

theorem Movement.posting?_command (movement : Movement) (identity : Address) :
    movement.command.posting? identity = some movement.posting := by
  cases movement <;> rfl

/-- A book after a posting, or as it was if there is none. -/
def Ledger.Entered (posting : Option Posting) (before after : Ledger) : Prop :=
  match posting with
  | some posting => Posted posting before after
  | none => after = before

theorem Ledger.Entered.balanced {posting : Option Posting} {before after : Ledger}
    (entered : Entered posting before after) (balanced : before.Balanced) :
    after.Balanced := by
  cases posting with
  | some posting => exact Posted.balanced entered balanced
  | none =>
      rw [show after = before from entered]
      exact balanced

namespace Checkpoint

private theorem posted_settle {checkpoint : Checkpoint} {posting : Posting}
    {check : Except Refusal Unit} {written : Except Refusal Ledger}
    (follows : Follows (Ledger.Posted posting checkpoint.gate.ledger) check written)
    {events : List Event} (accepted : (checkpoint.settle written events).answer = .ok ()) :
    Ledger.Posted posting checkpoint.gate.ledger
      (checkpoint.settle written events).world.gate.ledger := by
  cases follows with
  | refused refusal => cases accepted
  | done posted => exact posted

theorem posted_movement {checkpoint : Checkpoint}
    (balanced : checkpoint.gate.ledger.Balanced) {now : Seconds} (movement : Movement)
    (accepted : (checkpoint.perform now movement.command).answer = .ok ()) :
    Ledger.Posted movement.posting checkpoint.gate.ledger
      (checkpoint.perform now movement.command).world.gate.ledger :=
  ((meets_movement balanced now movement).done accepted).1.ledger

private theorem posted_recover {checkpoint : Checkpoint}
    (balanced : checkpoint.gate.ledger.Balanced)
    {caller asset destination : Address} {amount : Amount}
    (accepted : (checkpoint.recover caller asset destination amount).answer = .ok ()) :
    Ledger.Posted ⟨asset, checkpoint.gate.identity, destination, amount⟩
      checkpoint.gate.ledger
      (checkpoint.recover caller asset destination amount).world.gate.ledger := by
  have follows := Ledger.follows_move balanced asset checkpoint.gate.identity destination amount
  rw [recover, asAdmin] at accepted ⊢
  have granted := Outcome.guarded_of_ok accepted
  rw [granted] at accepted ⊢
  have nonzero := Outcome.ite_refused_of_ok accepted
  rw [nonzero] at accepted ⊢
  have other := Outcome.ite_refused_of_ok accepted
  rw [other] at accepted ⊢
  exact posted_settle follows accepted

/-! Everything else keeps the ledger. -/

private theorem gate_limited (checkpoint : Checkpoint) (act : Limiter → Outcome Limiter) :
    (checkpoint.limited act).world.gate = checkpoint.gate := by
  rw [limited]
  split <;> rfl

private theorem gate_recordConsumption (checkpoint : Checkpoint) (now : Seconds)
    (position : Position) (amount : Amount) :
    (checkpoint.recordConsumption now position amount).world.gate = checkpoint.gate := by
  simp only [recordConsumption, observed, Outcome.record]
  split
  · rfl
  · exact gate_limited checkpoint _

private theorem ledger_assignMinter (checkpoint : Checkpoint) (caller account : Address)
    (held : Bool) :
    (checkpoint.assignMinter caller account held).world.gate.ledger =
      checkpoint.gate.ledger := by
  rw [assignMinter, Authority.reassign]
  split <;> rfl

private theorem ledger_asAdmin (checkpoint changed : Checkpoint) (caller : Address)
    (events : List Event) (kept : changed.gate.ledger = checkpoint.gate.ledger) :
    (checkpoint.asAdmin caller (.accepted changed events [])).world.gate.ledger =
      checkpoint.gate.ledger := by
  rw [asAdmin]
  cases checkpoint.gate.authority.require .admin caller with
  | ok => exact kept
  | error refusal => rfl

theorem entered_perform {checkpoint : Checkpoint}
    (balanced : checkpoint.gate.ledger.Balanced) (now : Seconds) (command : Gate.Command)
    (accepted : (checkpoint.perform now command).answer = .ok ()) :
    Ledger.Entered (command.posting? checkpoint.gate.identity) checkpoint.gate.ledger
      (checkpoint.perform now command).world.gate.ledger := by
  cases command using Gate.Command.byMovement with
  | movement movement =>
      rw [movement.posting?_command]
      exact posted_movement balanced movement accepted
  | recover caller asset destination amount => exact posted_recover balanced accepted
  | deposit asset amount =>
      exact posted_settle (Ledger.follows_credit checkpoint.gate.ledger
        ⟨asset, checkpoint.gate.identity⟩ amount) accepted
  | admitTransfer asset source destination amount =>
      exact congrArg Gate.ledger ((meets_decision checkpoint now .admission ⟨asset, source⟩
        [source, destination] amount []).done accepted).gate
  | recordConsumption position amount =>
      exact congrArg Gate.ledger (gate_recordConsumption checkpoint now position amount)
  | assignMinter caller account held => exact ledger_assignMinter checkpoint ..
  | setChecks caller limitChecks whitelistChecks =>
      exact ledger_asAdmin checkpoint (checkpoint.withSwitches
        (checkpoint.gate.switches.setChecks limitChecks whitelistChecks)) caller _ rfl
  | setPaused caller paused =>
      exact ledger_asAdmin checkpoint
        (checkpoint.withSwitches (checkpoint.gate.switches.setPaused paused)) caller _ rfl
  | replaceWhitelist caller whitelist =>
      exact ledger_asAdmin checkpoint { checkpoint with whitelist } caller _ rfl
  | replaceLimiter caller limiter =>
      exact ledger_asAdmin checkpoint { checkpoint with limiter } caller _ rfl

namespace Command

def posting? (identity : Address) : Command → Option Posting
  | .gate command => command.posting? identity
  | .whitelist .. | .limiter .. => none

/-- What a command adds to the supply of an asset if it is accepted. -/
def created (asset : Address) : Command → Nat
  | .gate (.mint _ minted _ amount) => if minted = asset then amount.toNat else 0
  | .gate (.deposit deposited amount) => if deposited = asset then amount.toNat else 0
  | _ => 0

/-- What a command takes from the supply of an asset if it is accepted. -/
def destroyed (asset : Address) : Command → Nat
  | .gate (.burn burned _ amount) => if burned = asset then amount.toNat else 0
  | _ => 0

end Command

theorem entered_execute {checkpoint : Checkpoint}
    (balanced : checkpoint.gate.ledger.Balanced) (now : Seconds) (command : Command)
    (accepted : (checkpoint.execute now command).answer = .ok ()) :
    Ledger.Entered (command.posting? checkpoint.gate.identity) checkpoint.gate.ledger
      (checkpoint.execute now command).world.gate.ledger := by
  cases command with
  | whitelist caller command => exact (rfl : checkpoint.gate.ledger = _)
  | limiter caller command => exact (rfl : checkpoint.gate.ledger = _)
  | gate command => exact entered_perform balanced now command accepted

theorem ledger_execute_of_error {checkpoint : Checkpoint}
    (balanced : checkpoint.gate.ledger.Balanced) {now : Seconds} {command : Command}
    {refusal : Refusal} (refused : (checkpoint.execute now command).answer = .error refusal) :
    (checkpoint.execute now command).world.gate.ledger = checkpoint.gate.ledger := by
  have same := (atomic_execute balanced now command).spared refusal refused
  rw [same.gate]

theorem balanced_execute {checkpoint : Checkpoint}
    (balanced : checkpoint.gate.ledger.Balanced) (now : Seconds) (command : Command) :
    (checkpoint.execute now command).world.gate.ledger.Balanced := by
  cases answer : (checkpoint.execute now command).answer with
  | ok => exact (entered_execute balanced now command answer).balanced balanced
  | error refusal =>
      rw [ledger_execute_of_error balanced answer]
      exact balanced

/-! ## Runs -/

private theorem supply_of_entered {identity asset : Address} {command : Command}
    {before after : Ledger} (entered : Ledger.Entered (command.posting? identity) before after) :
    (after.supply asset).toNat + command.destroyed asset =
      (before.supply asset).toNat + command.created asset := by
  cases command with
  | whitelist caller command =>
      rw [show after = before from entered]
      rfl
  | limiter caller command =>
      rw [show after = before from entered]
      rfl
  | gate command =>
      cases command with
      | transfer | transferFrom | mint | burn | recover | deposit =>
          simpa [Command.created, Command.destroyed, Command.posting?, Gate.Command.posting?,
            Gate.Command.movement?, Movement.posting, Posting.created, Posting.destroyed]
            using Ledger.Posted.supplies entered asset
      | admitTransfer | recordConsumption | assignMinter | setChecks | setPaused
      | replaceWhitelist | replaceLimiter =>
          rw [show after = before from entered]
          rfl

def executeAt (checkpoint : Checkpoint) (call : Timed Command) : Outcome Checkpoint :=
  checkpoint.execute call.now call.command

theorem supply_execute {checkpoint : Checkpoint}
    (balanced : checkpoint.gate.ledger.Balanced) (call : Timed Command) (asset : Address) :
    ((checkpoint.executeAt call).world.gate.ledger.supply asset).toNat +
        (if (Step.mk call (checkpoint.executeAt call)).accepted then
          call.command.destroyed asset else 0) =
      (checkpoint.gate.ledger.supply asset).toNat +
        (if (Step.mk call (checkpoint.executeAt call)).accepted then
          call.command.created asset else 0) := by
  rw [Step.accepted, executeAt]
  cases answer : (checkpoint.execute call.now call.command).answer with
  | ok => exact supply_of_entered (entered_execute balanced call.now call.command answer)
  | error refusal =>
      rw [ledger_execute_of_error balanced answer]
      rfl

theorem supply_final {start : Checkpoint} (balanced : start.gate.ledger.Balanced)
    (calls : List (Timed Command)) (asset : Address) :
    ((Run.final executeAt start calls).gate.ledger.supply asset).toNat +
        Run.total (fun call => call.command.destroyed asset)
          (Run.trace executeAt start calls) =
      (start.gate.ledger.supply asset).toNat +
        Run.total (fun call => call.command.created asset)
          (Run.trace executeAt start calls) := by
  induction calls generalizing start with
  | nil => rfl
  | cons call rest induction =>
      have here := supply_execute balanced call asset
      have later := induction (balanced_execute balanced call.now call.command)
      simp only [Run.final, Run.trace, Run.total]
      simp only [executeAt] at here later ⊢
      omega

theorem balanced_final {start : Checkpoint} (origin : start.gate.Origin)
    (calls : List (Timed Command)) : (Run.final executeAt start calls).gate.ledger.Balanced :=
  Run.final_of_step (fun checkpoint : Checkpoint => checkpoint.gate.ledger.Balanced)
    (fun _ call balanced => balanced_execute balanced call.now call.command)
    origin.balanced calls

/-- After any run since the origin of the gate, the supply of every asset is the exact sum
of all balances, and the start, with what was created, without what was destroyed. -/
theorem supply_accounted {start : Checkpoint} (origin : start.gate.Origin)
    (calls : List (Timed Command)) :
    let trace := Run.trace executeAt start calls
    let ledger := (Run.final executeAt start calls).gate.ledger
    (∀ asset, (ledger.supply asset).toNat =
        ∑ account : Address, (ledger.balance ⟨asset, account⟩).toNat) ∧
      (∀ asset, (ledger.supply asset).toNat < Amount.count) ∧
      (∀ asset, (ledger.supply asset).toNat +
          Run.total (fun call => call.command.destroyed asset) trace =
        (start.gate.ledger.supply asset).toNat +
          Run.total (fun call => call.command.created asset) trace) ∧
      ledger.Exact := by
  intro trace ledger
  have balanced : ledger.Balanced := balanced_final origin calls
  refine ⟨balanced, ?_, ?_, balanced.exact⟩
  · intro asset
    exact (ledger.supply asset).isLt
  · intro asset
    exact supply_final origin.balanced calls asset

end Checkpoint

namespace Sample

theorem origin : checkpoint.gate.Origin :=
  .restored (show Gate.ofSnapshot identity
    { switches := .initial, roles := grants, balances } = .ok checkpoint.gate from rfl)

/-- The second call comes too early; the others move, create and destroy. -/
def calls : List (Timed Checkpoint.Command) :=
  [⟨1000, .gate transfer.command⟩,
    ⟨1001, .gate transfer.command⟩,
    ⟨1060, .gate (.transfer asset payer payer ⟨10, by decide⟩)⟩,
    ⟨1070, .gate (.mint admin asset payee ⟨20, by decide⟩)⟩,
    ⟨1130, .gate (.burn asset payee ⟨45, by decide⟩)⟩]

end Sample

theorem Checkpoint.supply_accounted_sample :
    ∑ account : Address,
      ((Run.final executeAt Sample.checkpoint Sample.calls).gate.ledger.balance
        ⟨Sample.asset, account⟩).toNat = 65 := by
  have accounted := (supply_accounted Sample.origin Sample.calls).1 Sample.asset
  exact accounted.symm

/-! ### A new gate -/

namespace Sample

def newGate : Gate where
  identity
  switches := .initial
  ledger := .empty
  authority := .ofGrants [⟨.admin, admin⟩]

/-- A new gate with the collaborators of the open one. -/
def newCheckpoint : Checkpoint := { checkpoint with gate := newGate }

theorem founded : Gate.founded identity admin = .ok newCheckpoint.gate := rfl

end Sample

end Turnstile
