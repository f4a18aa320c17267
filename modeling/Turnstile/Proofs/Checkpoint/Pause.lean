import Turnstile.Proofs.Checkpoint.History

namespace Turnstile

/-! The emergency stop. While a gate is paused, nothing passes it and nothing is charged by it,
whatever else is done to it and to its collaborators. Only an administrator can get at what
the gate itself holds, and anyone can add to that. -/

/-- Moves or charges something, and is refused by a paused gate as such. -/
def Gate.Command.pausable : Gate.Command → Bool
  | .transfer .. | .transferFrom .. | .burn .. | .admitTransfer .. => true
  | .recordConsumption .. => true
  | _ => false

def Gate.Command.mints : Gate.Command → Bool
  | .mint .. => true
  | _ => false

namespace Checkpoint

/-- It ends the pause, or it is what a pause does not hold up. -/
def Request.breaksPause : Request → Bool
  | .execute (.gate (.setPaused _ paused)) => !paused
  | .execute (.gate (.recover ..)) | .execute (.gate (.deposit ..)) => true
  | _ => false

/-! ## A paused gate -/

/-- The gate is paused, and whoever asks beforehand is told so. -/
structure Shut (checkpoint : Checkpoint) : Prop where
  paused : checkpoint.gate.switches.paused = true
  checkTransfer : ∀ now asset source destination amount,
    checkpoint.checkTransfer now asset source destination amount = .error .paused
  isAllowedTransfer : ∀ now asset source destination amount,
    checkpoint.isAllowedTransfer now asset source destination amount = false
  isAllowedSender : ∀ now position, checkpoint.isAllowedSender now position = false

section Shut

variable {checkpoint : Checkpoint}

private theorem checkAccess_of_paused (paused : checkpoint.gate.switches.paused = true)
    (accounts : List Address) : checkpoint.checkAccess accounts = .error .paused :=
  if_pos paused

theorem shut_of_paused (paused : checkpoint.gate.switches.paused = true) :
    checkpoint.Shut := by
  have barred (accounts : List Address) := checkAccess_of_paused paused accounts
  have refused (now : Seconds) (asset source destination : Address) (amount : Amount) :
      checkpoint.checkTransfer now asset source destination amount = .error .paused := by
    rw [checkTransfer, barred]
    rfl
  refine ⟨paused, refused, ?_, ?_⟩
  · intro now asset source destination amount
    rw [isAllowedTransfer, refused]
    rfl
  · intro now position
    rw [isAllowedSender, barred]
    rfl

/-! ## Commands to a paused gate -/

/-- How a paused gate answers a command, and what it leaves as it is. -/
structure Standstill (command : Gate.Command) (checkpoint : Checkpoint)
    (outcome : Outcome Checkpoint) : Prop where
  refused : command.pausable = true → outcome.answer = .error .paused
  unminted : command.mints = true → ∃ refusal, outcome.answer = .error refusal
  ledger : outcome.world.gate.ledger = checkpoint.gate.ledger
  limiter : outcome.world.limiter = checkpoint.limiter ∨
    ∃ caller, command = .replaceLimiter caller outcome.world.limiter

private theorem decision_of_paused (paused : checkpoint.gate.switches.paused = true) (now : Seconds)
    (operation : Operation) (charged : Position) (accounts : List Address) (amount : Amount)
    (check : Except Refusal Unit) :
    checkpoint.decision now operation charged accounts amount check =
      observed operation (.refused checkpoint .paused) := by
  rw [decision, checkAccess_of_paused paused, Outcome.guarded_error]

/-- Books and limiter are as they were. -/
def Untouched (checkpoint after : Checkpoint) : Prop :=
  after.gate.ledger = checkpoint.gate.ledger ∧ after.limiter = checkpoint.limiter

private theorem standstill_of_untouched {command : Gate.Command} {outcome : Outcome Checkpoint}
    (untouched : outcome.Keeps checkpoint.Untouched) (unpausable : command.pausable = false)
    (mintless : command.mints = false) : Standstill command checkpoint outcome where
  refused pausable := nomatch unpausable.symm.trans pausable
  unminted mints := nomatch mintless.symm.trans mints
  ledger := untouched.kept.1
  limiter := .inl untouched.kept.2

private theorem standstill_of_refused {command : Gate.Command} {outcome : Outcome Checkpoint}
    {refusal : Refusal} (world : outcome.world = checkpoint)
    (answer : outcome.answer = .error refusal)
    (reason : command.pausable = true → refusal = .paused) :
    Standstill command checkpoint outcome where
  refused pausable := by rw [answer, reason pausable]
  unminted _ := ⟨refusal, answer⟩
  ledger := by rw [world]
  limiter := .inl (by rw [world])

/-- The caller of a mint is looked at first. All else is refused for the pause. -/
private theorem standstill_movement (paused : checkpoint.gate.switches.paused = true)
    (now : Seconds) (movement : Movement) :
    Standstill movement.command checkpoint (checkpoint.perform now movement.command) := by
  rw [perform_movement, judge, decision_of_paused paused]
  cases callers : verdict (movement.callerConditions checkpoint.gate.authority) with
  | ok => exact standstill_of_refused rfl rfl fun _ => rfl
  | error refusal =>
      refine standstill_of_refused rfl rfl fun pausable => ?_
      cases movement with
      | mint => cases pausable
      | transfer | transferFrom | burn => cases callers

private theorem standstill_recordConsumption (paused : checkpoint.gate.switches.paused = true)
    (now : Seconds) (position : Position) (amount : Amount) :
    Standstill (.recordConsumption position amount) checkpoint
      (checkpoint.recordConsumption now position amount) := by
  rw [recordConsumption, if_pos paused]
  exact standstill_of_refused rfl rfl fun _ => rfl

private theorem standstill_replaceLimiter (caller : Address) (limiter : Limiter) :
    Standstill (.replaceLimiter caller limiter) checkpoint
      (checkpoint.replaceLimiter caller limiter) := by
  rw [replaceLimiter, asAdmin]
  cases checkpoint.gate.authority.require .admin caller with
  | ok =>
      exact ⟨(absurd · Bool.false_ne_true), (absurd · Bool.false_ne_true), rfl,
        .inr ⟨caller, rfl⟩⟩
  | error refusal => exact standstill_of_refused rfl rfl (absurd · Bool.false_ne_true)

theorem standstill_perform (paused : checkpoint.gate.switches.paused = true) (now : Seconds)
    {command : Gate.Command}
    (unbroken : (checkpoint.perform now command).answer = .ok () →
      Request.breaksPause (.execute (.gate command)) = false) :
    Standstill command checkpoint (checkpoint.perform now command) := by
  have untouched : checkpoint.Untouched checkpoint := ⟨rfl, rfl⟩
  have spared (atomic : (checkpoint.perform now command).Atomic (checkpoint = ·))
      (breaks : Request.breaksPause (.execute (.gate command)) = true) :
      (checkpoint.perform now command).Keeps checkpoint.Untouched := by
    cases answer : (checkpoint.perform now command).answer with
    | ok => exact nomatch breaks.symm.trans (unbroken answer)
    | error refusal =>
        refine ⟨?_⟩
        rw [← atomic.spared refusal answer]
        exact untouched
  cases command using Gate.Command.byMovement with
  | movement movement => exact standstill_movement paused now movement
  | admitTransfer asset source destination amount =>
      change Standstill _ _ (checkpoint.decision now .admission ⟨asset, source⟩
        [source, destination] amount (.ok ()))
      rw [decision_of_paused paused]
      exact standstill_of_refused rfl rfl fun _ => rfl
  | recordConsumption => exact standstill_recordConsumption paused ..
  | replaceLimiter => exact standstill_replaceLimiter ..
  | assignMinter =>
      refine standstill_of_untouched ?_ rfl rfl
      refine Authority.keeps_reassign untouched _ (fun changed => ?_) ..
      exact untouched
  | setChecks | setPaused | replaceWhitelist =>
      exact standstill_of_untouched (Outcome.Keeps.guarded ⟨untouched⟩ untouched _) rfl rfl
  | recover => exact standstill_of_untouched (spared (atomic_recover rfl ..) rfl) rfl rfl
  | deposit => exact standstill_of_untouched (spared (atomic_settle rfl ..) rfl) rfl rfl

end Shut

/-! ## Runs -/

private theorem Request.paused_turned {switches : Switches} (paused : switches.paused = true)
    {request : Request} (unbroken : request.breaksPause = false) :
    (request.turned switches).paused = true := by
  cases request with
  | regrant => exact paused
  | execute command =>
      cases command with
      | whitelist | limiter => exact paused
      | gate command =>
          cases command with
          | setPaused caller paused =>
              cases paused with
              | true => rfl
              | false => cases unbroken
          | _ => exact paused

/-- The gate is paused, and its book is the given one. -/
def StoppedWith (ledger : Ledger) (checkpoint : Checkpoint) : Prop :=
  checkpoint.gate.switches.paused = true ∧ checkpoint.gate.ledger = ledger

namespace Moment

variable {moment : Moment}

theorem paused_after (paused : moment.world.gate.switches.paused = true)
    (unbroken : moment.accepted = true → moment.call.command.breaksPause = false) :
    moment.after.gate.switches.paused = true :=
  switched_after (·.paused = true) paused fun accepted =>
    Request.paused_turned paused (unbroken accepted)

theorem standstill_of_called (paused : moment.world.gate.switches.paused = true)
    (unbroken : moment.accepted = true → moment.call.command.breaksPause = false)
    {command : Gate.Command} (called : moment.call.command = .execute (.gate command)) :
    Standstill command moment.world moment.outcome := by
  rcases moment with ⟨checkpoint, now, request⟩
  cases called
  exact standstill_perform paused now fun answer => unbroken (accepted_iff.mpr answer)

theorem ledger_after (paused : moment.world.gate.switches.paused = true)
    (unbroken : moment.accepted = true → moment.call.command.breaksPause = false) :
    moment.after.gate.ledger = moment.world.gate.ledger := by
  rcases moment with ⟨checkpoint, now, request⟩
  cases request with
  | regrant => exact (ledger_regrant ..).1
  | execute command =>
      cases command with
      | whitelist | limiter => rfl
      | gate command => exact (standstill_of_called paused unbroken rfl).ledger

end Moment

/-- While a gate is paused, and nothing is recovered from it or strays to it, whatever moves
or charges something is refused for the pause, a mint is refused at any rate, and previews say
so. The book stays as it is, and so does the limiter, unless it is exchanged or addressed
itself. Nothing else ends the pause. -/
theorem paused_stands_still {start : Checkpoint} (paused : start.gate.switches.paused = true)
    {calls : List (Timed Request)}
    (unbroken : ∀ moment ∈ start.past calls, moment.accepted = true →
      moment.call.command.breaksPause = false) :
    (∀ moment ∈ start.past calls, moment.world.Shut ∧
        ∀ command, moment.call.command = .execute (.gate command) →
          Standstill command moment.world moment.outcome) ∧
      (Run.final handleAt start calls).Shut ∧
      (Run.final handleAt start calls).gate.ledger = start.gate.ledger := by
  have step (moment : Moment) (member : moment ∈ start.past calls)
      (still : moment.world.StoppedWith start.gate.ledger) :
      moment.after.StoppedWith start.gate.ledger :=
    ⟨Moment.paused_after still.1 (unbroken moment member),
      (Moment.ledger_after still.1 (unbroken moment member)).trans still.2⟩
  have still := Run.met_of_step (StoppedWith start.gate.ledger) ⟨paused, rfl⟩ step
  refine ⟨fun moment member => ?_, shut_of_paused still.2.1, still.2.2⟩
  have stopped := (still.1 moment member).1
  exact ⟨shut_of_paused stopped, fun _ =>
    Moment.standstill_of_called stopped (unbroken moment member)⟩

end Checkpoint

namespace Sample

/-- The open gate, closed. -/
def pausedCheckpoint : Checkpoint :=
  (checkpoint.setPaused admin true).world

/-- The checks are switched off, but that does not open the gate. -/
def pausedCalls : List (Timed Checkpoint.Request) :=
  [⟨1000, .execute (.gate transfer.command)⟩,
    ⟨1000, .execute (.gate (.setChecks admin false false))⟩,
    ⟨1001, .execute (.gate transfer.command)⟩]

private theorem unbroken : ∀ moment ∈ pausedCheckpoint.past pausedCalls, moment.accepted = true →
    moment.call.command.breaksPause = false := by
  have keeps : ∀ call ∈ pausedCalls, call.command.breaksPause = false := by decide
  exact fun moment member _ => keeps moment.call (Run.call_mem_of_mem_past member)

end Sample

theorem Checkpoint.paused_stands_still_sample :
    Sample.pausedCheckpoint.gate.switches.paused = true ∧
      (Run.final handleAt Sample.pausedCheckpoint Sample.pausedCalls).gate.ledger =
        Sample.pausedCheckpoint.gate.ledger :=
  ⟨rfl, (paused_stands_still rfl Sample.unbroken).2.2⟩

end Turnstile
