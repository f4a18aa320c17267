import Turnstile.Proofs.Checkpoint.Supply

namespace Turnstile

/-! All or nothing. Wherever a run since the origin of a gate has led, a refused command
changes nothing, an accepted movement is both posted and charged, and a run goes on in the
same way whether or not the refused calls in it are made. -/

namespace Checkpoint

/-- Some run since the origin of the gate leads here. -/
def Reachable (checkpoint : Checkpoint) : Prop :=
  ∃ start : Checkpoint, start.gate.Origin ∧
    ∃ calls : List (Timed Command), Run.final executeAt start calls = checkpoint

theorem Reachable.balanced {checkpoint : Checkpoint} (reachable : checkpoint.Reachable) :
    checkpoint.gate.ledger.Balanced := by
  rcases reachable with ⟨start, origin, calls, rfl⟩
  exact balanced_final origin calls

theorem forgetful_executeAt :
    Run.Forgetful executeAt (fun checkpoint => checkpoint.gate.ledger.Balanced) Alike where
  good _ call balanced := balanced_execute balanced call.now call.command
  atomic _ call balanced := atomic_execute balanced call.now call.command
  related _ _ call alike := related_execute alike call.now call.command
  symm _ _ := Alike.symm
  trans _ _ _ := Alike.trans

/-- Under limits, an accepted movement of a position that is not exempt is in the book and in
the window. -/
private theorem charged_of_settled {checkpoint after : Checkpoint} {now : Seconds}
    {position : Position} {posting : Posting}
    (settled : Settled now position posting checkpoint after)
    (checks : checkpoint.gate.switches.limitChecks = true)
    (counted : checkpoint.limiter.isExempt position = false) :
    ∃ standing, after.limiter.standing? position = some standing ∧
      (checkpoint.limiter.standing position).Charged
        (checkpoint.limiter.enforcedLimits position) posting.amount now standing := by
  have limited := settled.limiter
  rw [Limited, if_pos checks] at limited
  exact limited.charged counted

/-- Refused commands change nothing and publish nothing; accepted movements happen in full,
since the ledger takes whatever has been decided; and the refused calls of a run, or any of
them, may as well not have been made. -/
theorem all_or_nothing {checkpoint : Checkpoint} (reachable : checkpoint.Reachable) :
    (∀ now (command : Gate.Command) refusal,
        (checkpoint.perform now command).answer = .error refusal →
          checkpoint.Alike (checkpoint.perform now command).world ∧
            (checkpoint.perform now command).events = []) ∧
      (∀ now (movement : Movement),
        (checkpoint.perform now movement.command).answer = .ok () →
          checkpoint.gate.switches.limitChecks = true →
          checkpoint.limiter.isExempt movement.charged = false →
          let after := (checkpoint.perform now movement.command).world
          Ledger.Posted movement.posting checkpoint.gate.ledger after.gate.ledger ∧
            ∃ standing, after.limiter.standing? movement.charged = some standing ∧
              (checkpoint.limiter.standing movement.charged).Charged
                (checkpoint.limiter.enforcedLimits movement.charged) movement.amount now
                standing) ∧
      (∀ now (movement : Movement), (checkpoint.judge now movement).answer = .ok () →
        ∃ ledger,
          movement.write (checkpoint.judge now movement).world.gate.ledger = .ok ledger) ∧
      (∀ (calls : List (Timed Command)) (stays : Step Checkpoint (Timed Command) → Bool),
        let steps := Run.kept stays (Run.trace executeAt checkpoint calls)
        (Run.trace executeAt checkpoint (steps.map Step.call)).map Step.seen =
            steps.map Step.seen ∧
          (Run.final executeAt checkpoint calls).Alike
            (Run.final executeAt checkpoint (steps.map Step.call))) := by
  have balanced := reachable.balanced
  refine ⟨?refused, ?accepted, ?written, ?left_out⟩
  case refused =>
    intro now command refusal answer
    have atomic := atomic_perform balanced now command
    exact ⟨atomic.spared refusal answer, atomic.silent refusal answer⟩
  case accepted =>
    intro now movement answer checks counted after
    have settled := ((meets_movement balanced now movement).done answer).1
    exact ⟨settled.ledger, charged_of_settled settled checks counted⟩
  case written =>
    intro now movement answer
    rcases written_of_judge balanced answer with ⟨ledger, written, _⟩
    exact ⟨ledger, written⟩
  case left_out =>
    intro calls stays
    exact Run.seen_kept forgetful_executeAt stays calls balanced (.refl checkpoint)

end Checkpoint

namespace Sample

theorem reachable : checkpoint.Reachable :=
  ⟨checkpoint, origin, [], rfl⟩

end Sample

/-- The run of the sample without its refused call. -/
theorem Checkpoint.all_or_nothing_sample :
    (Run.final executeAt Sample.checkpoint Sample.calls).Alike
      (Run.final executeAt Sample.checkpoint (Sample.calls.eraseIdx 1)) :=
  ((all_or_nothing Sample.reachable).2.2.2 Sample.calls fun _ => false).2

end Turnstile
