import Turnstile.Gate
import Turnstile.Limiter
import Turnstile.Whitelist

namespace Turnstile

/-! The gate with its collaborators. Every operation that changes balances passes, in
this order: the pause switch, the whitelist, a check against the ledger, and the limits
of the account that is charged. Only then is the ledger written. -/

/-- A gate together with the whitelist and the limiter that it asks. -/
structure Checkpoint where
  gate : Gate
  whitelist : Whitelist
  limiter : Limiter
deriving DecidableEq, Inhabited

namespace Checkpoint

def withLedger (checkpoint : Checkpoint) (ledger : Ledger) : Checkpoint :=
  { checkpoint with gate.ledger := ledger }

def withSwitches (checkpoint : Checkpoint) (switches : Switches) : Checkpoint :=
  { checkpoint with gate.switches := switches }

/-- Not paused, and all the accounts may pass; otherwise the first that may not. -/
def checkAccess (checkpoint : Checkpoint) (accounts : List Address) : Except Refusal Unit :=
  if checkpoint.gate.switches.paused then .error .paused
  else if checkpoint.gate.switches.whitelistChecks then
    match accounts.find? fun account => !checkpoint.whitelist.isWhitelisted account with
    | some denied => .error (.notWhitelisted denied)
    | none => .ok ()
  else .ok ()

/-- The readings of a decision: one for what was decided, one for why not. -/
def decisionReadings (operation : Operation) : Except Refusal Unit → List Reading
  | .ok () => [.decision operation true]
  | .error refusal => [.decision operation false, .rejection refusal.reason]

def observed (operation : Operation) (outcome : Outcome Checkpoint) : Outcome Checkpoint :=
  outcome.record (decisionReadings operation outcome.answer)

/-- Let the limiter act, as long as limits are checked at all. -/
def limited (checkpoint : Checkpoint) (act : Limiter → Outcome Limiter) :
    Outcome Checkpoint :=
  if checkpoint.gate.switches.limitChecks then
    (act checkpoint.limiter).within fun limiter => { checkpoint with limiter }
  else .accepted checkpoint [] []

/-- The decision on one operation: access of the accounts, the ledger's check, and the
limits of the charged position. -/
def decision (checkpoint : Checkpoint) (now : Seconds) (operation : Operation)
    (charged : Position) (accounts : List Address) (amount : Amount)
    (ledgerCheck : Except Refusal Unit) : Outcome Checkpoint :=
  observed operation <|
    .guarded checkpoint (checkpoint.checkAccess accounts) <|
      .guarded checkpoint ledgerCheck <|
        checkpoint.limited fun limiter =>
          limiter.charge now checkpoint.gate.identity charged amount

/-- Write the ledger and publish. -/
def settle (checkpoint : Checkpoint) (written : Except Refusal Ledger)
    (events : List Event) : Outcome Checkpoint :=
  match written with
  | .error refusal => .refused checkpoint refusal
  | .ok ledger => .accepted (checkpoint.withLedger ledger) events []

/-! ## Previews -/

/-- Whether a transfer would pass now, without charging anything: every limit is read
off what the limiter shows. -/
def checkTransfer (checkpoint : Checkpoint) (now : Seconds)
    (asset source destination : Address) (amount : Amount) : Except Refusal Unit := do
  checkpoint.checkAccess [source, destination]
  if !checkpoint.gate.switches.limitChecks then
    return ()
  let position : Position := ⟨asset, source⟩
  let limits := checkpoint.limiter.effectiveLimits position
  if !checkpoint.limiter.allowsAmount position amount then
    throw (.limitExceeded amount limits.cap)
  let next := checkpoint.limiter.nextValidTransferTime position now
  if next ≠ 0 then
    throw (.cooldownNotElapsed next)
  let remaining := (checkpoint.limiter.remainingAllowance position now).1
  if remaining < amount then
    throw (.exceedsPeriodLimit amount (limits.quota.saturatingSub remaining) limits.quota)

def isAllowedTransfer (checkpoint : Checkpoint) (now : Seconds)
    (asset source destination : Address) (amount : Amount) : Bool :=
  (checkpoint.checkTransfer now asset source destination amount).isOk

/-- Whether an account may send at all now. -/
def isAllowedSender (checkpoint : Checkpoint) (now : Seconds) (position : Position) :
    Bool :=
  (checkpoint.checkAccess [position.account]).isOk &&
    (!checkpoint.gate.switches.limitChecks ||
      checkpoint.limiter.nextValidTransferTime position now == 0)

/-! ## Operations on balances -/

/-- Decide on a transfer and charge it, without moving a balance. -/
def admitTransfer (checkpoint : Checkpoint) (now : Seconds)
    (asset source destination : Address) (amount : Amount) : Outcome Checkpoint :=
  checkpoint.decision now .admission ⟨asset, source⟩ [source, destination] amount (.ok ())

/-- Charge what an earlier preview has let pass. -/
def recordConsumption (checkpoint : Checkpoint) (now : Seconds) (position : Position)
    (amount : Amount) : Outcome Checkpoint :=
  observed .consumption <|
    if checkpoint.gate.switches.paused then .refused checkpoint .paused
    else
      checkpoint.limited fun limiter =>
        limiter.recordTransfer now checkpoint.gate.identity position amount

def transfer (checkpoint : Checkpoint) (now : Seconds)
    (asset source destination : Address) (amount : Amount) : Outcome Checkpoint :=
  let paying : Position := ⟨asset, source⟩
  (checkpoint.decision now .transfer paying [source, destination] amount
      (checkpoint.gate.ledger.ensureBalance paying amount)).andThen fun charged =>
    charged.settle (charged.gate.ledger.move asset source destination amount)
      [.transfer asset source destination amount]

/-- A transfer that someone else starts. No allowances are kept; the spender only has
to be whitelisted. -/
def transferFrom (checkpoint : Checkpoint) (now : Seconds)
    (asset spender source destination : Address) (amount : Amount) : Outcome Checkpoint :=
  let paying : Position := ⟨asset, source⟩
  (checkpoint.decision now .transferFrom paying [source, destination, spender] amount
      (checkpoint.gate.ledger.ensureBalance paying amount)).andThen fun charged =>
    charged.settle (charged.gate.ledger.move asset source destination amount)
      [.transfer asset source destination amount]

/-- Create an amount, charged to the receiver. -/
def mint (checkpoint : Checkpoint) (now : Seconds)
    (caller asset destination : Address) (amount : Amount) : Outcome Checkpoint :=
  let receiving : Position := ⟨asset, destination⟩
  .guarded checkpoint (checkpoint.gate.authority.require .minter caller) <|
    if destination = .zero then .refused checkpoint (.invalidArgument .zeroAddress)
    else
      (checkpoint.decision now .mint receiving [destination] amount
          (checkpoint.gate.ledger.ensureCredit receiving amount)).andThen fun charged =>
        charged.settle (charged.gate.ledger.credit receiving amount)
          [.transfer asset .zero destination amount]

/-- Destroy an amount. -/
def burn (checkpoint : Checkpoint) (now : Seconds) (asset holder : Address)
    (amount : Amount) : Outcome Checkpoint :=
  let paying : Position := ⟨asset, holder⟩
  (checkpoint.decision now .burn paying [holder] amount
      (checkpoint.gate.ledger.ensureBalance paying amount)).andThen fun charged =>
    charged.settle (charged.gate.ledger.debit paying amount)
      [.transfer asset holder .zero amount]

/-! ## Administration -/

def assignMinter (checkpoint : Checkpoint) (caller account : Address) (held : Bool) :
    Outcome Checkpoint :=
  checkpoint.gate.authority.reassign checkpoint
    (fun authority => { checkpoint with gate.authority := authority })
    caller .minter account held

/-- Do as an administrator of the gate. -/
def asAdmin (checkpoint : Checkpoint) (caller : Address) (next : Outcome Checkpoint) :
    Outcome Checkpoint :=
  .guarded checkpoint (checkpoint.gate.authority.require .admin caller) next

def setChecks (checkpoint : Checkpoint) (caller : Address)
    (limitChecks whitelistChecks : Bool) : Outcome Checkpoint :=
  checkpoint.asAdmin caller <|
    .accepted
      (checkpoint.withSwitches
        (checkpoint.gate.switches.setChecks limitChecks whitelistChecks))
      [.configUpdated limitChecks whitelistChecks] []

def pauseEvent (caller : Address) : (paused : Bool) → Event
  | true => .paused caller
  | false => .unpaused caller

def setPaused (checkpoint : Checkpoint) (caller : Address) (paused : Bool) :
    Outcome Checkpoint :=
  checkpoint.asAdmin caller <|
    .accepted (checkpoint.withSwitches (checkpoint.gate.switches.setPaused paused))
      [pauseEvent caller paused] []

def replaceWhitelist (checkpoint : Checkpoint) (caller : Address) (whitelist : Whitelist) :
    Outcome Checkpoint :=
  checkpoint.asAdmin caller <|
    .accepted { checkpoint with whitelist } [.collaboratorReplaced .whitelist] []

/-- Exchange the limiter. Charges are refused until the gate's identity is a caller
there. -/
def replaceLimiter (checkpoint : Checkpoint) (caller : Address) (limiter : Limiter) :
    Outcome Checkpoint :=
  checkpoint.asAdmin caller <|
    .accepted { checkpoint with limiter } [.collaboratorReplaced .limiter] []

/-- Sweep an amount from the gate's own account to another one. -/
def recover (checkpoint : Checkpoint) (caller asset destination : Address)
    (amount : Amount) : Outcome Checkpoint :=
  checkpoint.asAdmin caller <|
    if destination = .zero then .refused checkpoint (.invalidArgument .zeroAddress)
    else if destination = checkpoint.gate.identity then
      .refused checkpoint (.invalidArgument .selfRecovery)
    else
      checkpoint.settle
        (checkpoint.gate.ledger.move asset checkpoint.gate.identity destination amount)
        [.tokensRecovered asset destination amount]

/-- Credit the gate's own account, as when tokens were sent to it by mistake. -/
def deposit (checkpoint : Checkpoint) (asset : Address) (amount : Amount) :
    Outcome Checkpoint :=
  checkpoint.settle
    (checkpoint.gate.ledger.credit ⟨asset, checkpoint.gate.identity⟩ amount) []

end Checkpoint

/-! ## Commands -/

inductive Gate.Command where
  | transfer (asset source destination : Address) (amount : Amount)
  | transferFrom (asset spender source destination : Address) (amount : Amount)
  | mint (caller asset destination : Address) (amount : Amount)
  | burn (asset holder : Address) (amount : Amount)
  | admitTransfer (asset source destination : Address) (amount : Amount)
  | recordConsumption (position : Position) (amount : Amount)
  | assignMinter (caller account : Address) (held : Bool)
  | setChecks (caller : Address) (limitChecks whitelistChecks : Bool)
  | setPaused (caller : Address) (paused : Bool)
  | replaceWhitelist (caller : Address) (whitelist : Whitelist)
  | replaceLimiter (caller : Address) (limiter : Limiter)
  | recover (caller asset destination : Address) (amount : Amount)
  | deposit (asset : Address) (amount : Amount)
deriving DecidableEq

def Checkpoint.perform (checkpoint : Checkpoint) (now : Seconds) :
    Gate.Command → Outcome Checkpoint
  | .transfer asset source destination amount =>
      checkpoint.transfer now asset source destination amount
  | .transferFrom asset spender source destination amount =>
      checkpoint.transferFrom now asset spender source destination amount
  | .mint caller asset destination amount =>
      checkpoint.mint now caller asset destination amount
  | .burn asset holder amount => checkpoint.burn now asset holder amount
  | .admitTransfer asset source destination amount =>
      checkpoint.admitTransfer now asset source destination amount
  | .recordConsumption position amount => checkpoint.recordConsumption now position amount
  | .assignMinter caller account held => checkpoint.assignMinter caller account held
  | .setChecks caller limitChecks whitelistChecks =>
      checkpoint.setChecks caller limitChecks whitelistChecks
  | .setPaused caller paused => checkpoint.setPaused caller paused
  | .replaceWhitelist caller whitelist => checkpoint.replaceWhitelist caller whitelist
  | .replaceLimiter caller limiter => checkpoint.replaceLimiter caller limiter
  | .recover caller asset destination amount =>
      checkpoint.recover caller asset destination amount
  | .deposit asset amount => checkpoint.deposit asset amount

/-- A command to the gate or to one of its collaborators. -/
inductive Checkpoint.Command where
  | whitelist (caller : Address) (command : Whitelist.Command)
  | limiter (caller : Address) (command : Limiter.Command)
  | gate (command : Gate.Command)
deriving DecidableEq

def Checkpoint.execute (checkpoint : Checkpoint) (now : Seconds) :
    Checkpoint.Command → Outcome Checkpoint
  | .whitelist caller command =>
      (checkpoint.whitelist.perform caller command).within fun whitelist =>
        { checkpoint with whitelist }
  | .limiter caller command =>
      (checkpoint.limiter.perform now caller command).within fun limiter =>
        { checkpoint with limiter }
  | .gate command => checkpoint.perform now command

end Turnstile
