import Turnstile.Proofs.Checkpoint.Restoration
import Turnstile.Proofs.Checkpoint.Supply
import Turnstile.Proofs.Limiter.Impact

namespace Turnstile

/-! What the gate makes known. Beside the records of its limiter, a movement and a sweep
announce themselves, once and only if they are accepted; and only the commands that govern
the gate change more of it than its book. -/

/-! ## Records of the limiter -/

/-- A limiter has counted a transfer. -/
def Event.isRecord : Event → Bool
  | .transferRecorded .. => true
  | _ => false

theorem Authority.publishes_reassign {World : Type} {Kind : Event → Prop} (world : World)
    (authority : Authority) (install : Authority → World) {caller account : Address}
    {role : Role} (kind : ∀ held, Kind (assignmentEvent caller role account held))
    (held : Bool) :
    (authority.reassign world install caller role account held).Publishes Kind := by
  rw [reassign]
  split
  · exact Outcome.publishes_refused ..
  · exact Outcome.publishes_accepted _ (List.forall_mem_nil _) _
  · exact Outcome.publishes_accepted _ (List.forall_mem_singleton.mpr (kind held)) _

namespace Limiter

private theorem publishes_commit {Kind : Event → Prop} (limiter : Limiter) (position : Position)
    (defaults : Limits) (judge : Standing → Limits → Except Refusal Standing)
    {report : Limiter → Standing → Outcome Limiter}
    (reported : ∀ changed standing, (report changed standing).Publishes Kind) :
    (limiter.commit position defaults judge report).Publishes Kind := by
  simp only [commit]
  split
  · exact Outcome.publishes_accepted _ (List.forall_mem_nil _) _
  · split
    · exact Outcome.publishes_refused ..
    · exact reported ..

private theorem recorded_reportConsumption (position : Position) (amount : Amount)
    (limiter : Limiter) (standing : Standing) :
    (reportConsumption position amount limiter standing).Publishes (·.isRecord) := by
  refine Outcome.publishes_accepted _ ?_ _
  exact List.forall_mem_singleton.mpr rfl

theorem recorded_enforcement (limiter : Limiter) (now : Seconds) (caller : Address)
    (enforcement : Enforcement) (position : Position) :
    (limiter.perform now caller (enforcement.command position)).Publishes (·.isRecord) := by
  cases enforcement with
  | pace =>
      refine (limiter.publishes_commit _ _ _ fun _ _ => ?_).guarded ..
      exact Outcome.publishes_accepted _ (List.forall_mem_nil _) _
  | consume | charge =>
      exact (limiter.publishes_commit _ _ _ (recorded_reportConsumption _ _)).guarded ..

end Limiter

namespace Checkpoint

private theorem recorded_limited (checkpoint : Checkpoint) (now : Seconds) (caller : Address)
    (enforcement : Enforcement) (position : Position) :
    (checkpoint.limited fun limiter =>
      limiter.perform now caller (enforcement.command position)).Publishes (·.isRecord) := by
  rw [limited]
  split
  · exact (Limiter.recorded_enforcement ..).within _
  · exact Outcome.publishes_accepted _ (List.forall_mem_nil _) _

theorem recorded_decision (checkpoint : Checkpoint) (now : Seconds) (operation : Operation)
    (charged : Position) (accounts : List Address) (amount : Amount)
    (check : Except Refusal Unit) :
    (checkpoint.decision now operation charged accounts amount check).Publishes
      (·.isRecord) := by
  rw [decision, observed]
  have charge := checkpoint.recorded_limited now checkpoint.gate.identity (.charge amount)
    charged
  exact ((charge.guarded ..).guarded ..).record _

theorem recorded_recordConsumption (checkpoint : Checkpoint) (now : Seconds)
    (position : Position) (amount : Amount) :
    (checkpoint.recordConsumption now position amount).Publishes (·.isRecord) := by
  rw [recordConsumption, observed]
  apply Outcome.Publishes.record
  split
  · exact Outcome.publishes_refused ..
  · exact checkpoint.recorded_limited now checkpoint.gate.identity (.consume amount) position

theorem publishes_settle {Kind : Event → Prop} (checkpoint : Checkpoint)
    (written : Except Refusal Ledger) {events : List Event}
    (kind : ∀ event ∈ events, Kind event) :
    (checkpoint.settle written events).Publishes Kind := by
  cases written with
  | error refusal => exact Outcome.publishes_refused ..
  | ok ledger => exact Outcome.publishes_accepted _ kind _

theorem publishes_asAdmin {Kind : Event → Prop} (checkpoint changed : Checkpoint)
    (caller : Address) {event : Event} (kind : Kind event) :
    (checkpoint.asAdmin caller (.accepted changed [event] [])).Publishes Kind :=
  (Outcome.publishes_accepted _ (List.forall_mem_singleton.mpr kind) _).guarded ..

/-! ## Announcements of the gate -/

private theorem recorded_of_mem_limitEvents {before after : Checkpoint} {charged : Position}
    {amount : Amount} {event : Event}
    (member : event ∈ limitEvents before after charged amount) : event.isRecord := by
  rw [limitEvents] at member
  split at member
  · rw [Limiter.chargeEvents] at member
    split at member
    · cases member
    · rw [List.mem_singleton.mp member]
      rfl
  · cases member

theorem events_movement {checkpoint : Checkpoint} (balanced : checkpoint.gate.ledger.Balanced)
    {now : Seconds} {movement : Movement}
    (accepted : (checkpoint.perform now movement.command).answer = .ok ()) :
    ∃ records : List Event, (∀ event ∈ records, event.isRecord) ∧
      (checkpoint.perform now movement.command).events = records ++ [movement.event] := by
  have events := ((meets_movement balanced now movement).done accepted).2
  exact ⟨_, fun _ => recorded_of_mem_limitEvents, events⟩

theorem events_recover {checkpoint : Checkpoint} {caller asset destination : Address}
    {amount : Amount}
    (accepted : (checkpoint.recover caller asset destination amount).answer = .ok ()) :
    destination ≠ .zero ∧
      (checkpoint.recover caller asset destination amount).events =
        [.tokensRecovered asset destination amount] := by
  rw [recover, asAdmin] at accepted ⊢
  have granted := Outcome.guarded_of_ok accepted
  rw [granted] at accepted ⊢
  split at accepted
  next => cases accepted
  next named =>
    refine ⟨named, ?_⟩
    split at accepted
    next => cases accepted
    next other =>
      rw [if_neg named, if_neg other]
      cases written : checkpoint.gate.ledger.move asset checkpoint.gate.identity destination
          amount with
      | error refusal =>
          rw [written] at accepted
          cases accepted
      | ok ledger => rfl

/-! ## What is left of the gate -/

/-- The gate is the given one, but for its book. -/
def GovernedAs (gate : Gate) (checkpoint : Checkpoint) : Prop :=
  ∃ ledger, checkpoint.gate = { gate with ledger }

end Checkpoint

/-- The command changes the grants or the switches of the gate, if it is accepted. -/
def Gate.Command.governs : Gate.Command → Bool
  | .assignMinter .. | .setChecks .. | .setPaused .. => true
  | _ => false

namespace Checkpoint

section Governed

variable {gate : Gate} {checkpoint : Checkpoint}

theorem GovernedAs.withLedger (governed : checkpoint.GovernedAs gate) (ledger : Ledger) :
    (checkpoint.withLedger ledger).GovernedAs gate := by
  rcases governed with ⟨_, same⟩
  refine ⟨ledger, ?_⟩
  rw [Checkpoint.withLedger, same]

theorem governed_perform (governed : checkpoint.GovernedAs gate) (now : Seconds)
    {command : Gate.Command} (ungoverned : command.governs = false) :
    (checkpoint.perform now command).Keeps (GovernedAs gate) := by
  cases command using Gate.Command.byMovement with
  | movement movement =>
      exact keeps_movement governed ⟨governed⟩ fun _ kept ledger _ => kept.withLedger ledger
  | admitTransfer => exact keeps_decision governed ⟨governed⟩ ..
  | recordConsumption => exact keeps_recordConsumption governed ⟨governed⟩
  | recover => exact keeps_recover governed (fun ledger _ => governed.withLedger ledger) _
  | deposit => exact keeps_settle governed (fun ledger _ => governed.withLedger ledger) _
  | replaceWhitelist | replaceLimiter => exact Outcome.Keeps.guarded ⟨governed⟩ governed _
  | assignMinter | setChecks | setPaused => cases ungoverned

end Governed

/-- Nothing gives a gate another identity. -/
def ActsAs (identity : Address) (checkpoint : Checkpoint) : Prop :=
  checkpoint.gate.identity = identity

section ActsAs

variable {checkpoint : Checkpoint} {identity : Address}

theorem ActsAs.keeps_perform (same : checkpoint.ActsAs identity) (now : Seconds)
    (command : Gate.Command) : (checkpoint.perform now command).Keeps (ActsAs identity) := by
  apply keeps_perform_of_parts same
  case limits => exact fun _ => ⟨same⟩
  case wrote => exact fun _ kept _ _ _ => kept
  case switched | granted | registered => exact fun _ => same
  case relimited =>
    rintro caller limiter rfl
    exact Outcome.Keeps.guarded ⟨same⟩ same _

theorem ActsAs.keeps_handle (same : checkpoint.ActsAs identity) (now : Seconds)
    (request : Request) : (checkpoint.handle now request).Keeps (ActsAs identity) := by
  apply keeps_handle_of_parts same
  case limits => exact fun _ _ => ⟨same⟩
  case registered => exact fun _ => same
  case granted => exact fun _ component => by cases component <;> exact same
  case performed => exact fun command _ => same.keeps_perform now command

end ActsAs

end Checkpoint

end Turnstile
