import Turnstile.Proofs.Checkpoint.Tally

namespace Turnstile

/-! The history of a gate: what is asked of it and of its collaborators, and what every
request has done to the switches. -/

/-- What an accepted command makes of the switches. -/
def Gate.Command.turned (switches : Switches) : Gate.Command → Switches
  | .setChecks _ limitChecks whitelistChecks => switches.setChecks limitChecks whitelistChecks
  | .setPaused _ paused => switches.setPaused paused
  | _ => switches

namespace Checkpoint

/-! ## Moments -/

/-- A request, with the gate and its collaborators as the request met them. -/
abbrev Moment := Run.Moment Checkpoint (Timed Request)

/-- The requests of a run and what they met, the latest first. -/
def past (start : Checkpoint) (calls : List (Timed Request)) : List Moment :=
  Run.past handleAt start calls

namespace Moment

variable (moment : Moment)

def outcome : Outcome Checkpoint := moment.world.handleAt moment.call

def after : Checkpoint := moment.outcome.world

def accepted : Bool := moment.outcome.answer.isOk

variable {moment}

theorem accepted_iff : moment.accepted = true ↔ moment.outcome.answer = .ok () := by
  rw [accepted]
  cases moment.outcome.answer with
  | ok => exact ⟨fun _ => rfl, fun _ => rfl⟩
  | error refusal => exact ⟨nofun, nofun⟩

end Moment

/-! ## Switches -/

def Request.turned (switches : Switches) : Request → Switches
  | .execute (.gate command) => command.turned switches
  | _ => switches

def SwitchedAs (switches : Switches) (checkpoint : Checkpoint) : Prop :=
  checkpoint.gate.switches = switches

private theorem switches_asAdmin (checkpoint changed : Checkpoint) (caller : Address)
    (events : List Event) :
    let outcome := checkpoint.asAdmin caller (.accepted changed events [])
    outcome.world.gate.switches =
      if outcome.answer.isOk then changed.gate.switches else checkpoint.gate.switches := by
  rw [asAdmin]
  cases checkpoint.gate.authority.require .admin caller <;> rfl

theorem switches_perform (checkpoint : Checkpoint) (now : Seconds) (command : Gate.Command) :
    let outcome := checkpoint.perform now command
    outcome.world.gate.switches =
      if outcome.answer.isOk then command.turned checkpoint.gate.switches
      else checkpoint.gate.switches := by
  intro outcome
  have unturned (turned : command.turned checkpoint.gate.switches = checkpoint.gate.switches)
      (keeps : outcome.Keeps (SwitchedAs checkpoint.gate.switches)) :
      outcome.world.gate.switches =
        if outcome.answer.isOk then command.turned checkpoint.gate.switches
        else checkpoint.gate.switches := by
    rw [turned, ite_self]
    exact keeps.kept
  cases governs : command.governs with
  | false =>
      have governed : checkpoint.GovernedAs checkpoint.gate := ⟨_, rfl⟩
      rcases (governed_perform governed now governs).kept with ⟨ledger, kept⟩
      apply unturned
      · cases command with
        | setChecks | setPaused => cases governs
        | _ => rfl
      · refine ⟨?_⟩
        rw [SwitchedAs, kept]
  | true =>
      cases command with
      | setChecks | setPaused => exact switches_asAdmin ..
      | assignMinter =>
          have same : checkpoint.SwitchedAs checkpoint.gate.switches := rfl
          apply unturned rfl
          refine Authority.keeps_reassign same _ (fun changed => ?_) ..
          exact same
      | _ => cases governs

theorem switches_handle (checkpoint : Checkpoint) (now : Seconds) (request : Request) :
    let outcome := checkpoint.handle now request
    outcome.world.gate.switches =
      if outcome.answer.isOk then request.turned checkpoint.gate.switches
      else checkpoint.gate.switches := by
  intro outcome
  cases request with
  | regrant component caller role account held =>
      have kept : outcome.world.gate.switches = checkpoint.gate.switches := by
        change (checkpoint.regrant component caller role account held).world.gate.switches = _
        rw [regrant]
        split
        · rfl
        · cases component <;> rfl
      rw [kept]
      exact (ite_self _).symm
  | execute command =>
      cases command with
      | whitelist | limiter => exact (ite_self _).symm
      | gate command => exact checkpoint.switches_perform now command

/-- What an accepted request does not take away, a refused one does not either. -/
theorem Moment.switched_after {moment : Moment} (Kept : Switches → Prop)
    (kept : Kept moment.world.gate.switches)
    (turned : moment.accepted = true →
      Kept (moment.call.command.turned moment.world.gate.switches)) :
    Kept moment.after.gate.switches := by
  have switches : moment.after.gate.switches =
      if moment.accepted then moment.call.command.turned moment.world.gate.switches
      else moment.world.gate.switches := switches_handle ..
  rw [switches]
  split
  next accepted => exact turned accepted
  next => exact kept

end Checkpoint

end Turnstile
