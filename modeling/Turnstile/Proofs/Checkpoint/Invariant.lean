import Turnstile.Proofs.Checkpoint.Request

namespace Turnstile.Checkpoint

/-! What stays true of a gate through the parts of its commands. A decision writes to the
limiter alone and what settles it to the book alone, so it is enough to look at these two. -/

section Keeps

variable {Good : Checkpoint → Prop} {checkpoint : Checkpoint}

private theorem keeps_limited (good : Good checkpoint) {act : Limiter → Outcome Limiter}
    (acted : (act checkpoint.limiter).Keeps fun limiter => Good { checkpoint with limiter }) :
    (checkpoint.limited act).Keeps Good := by
  rw [limited]
  split
  · exact acted.within fun _ kept => kept
  · exact Outcome.keeps_accepted good [] []

theorem keeps_decision (good : Good checkpoint) {now : Seconds} {charged : Position}
    {amount : Amount}
    (charges : (checkpoint.limiter.charge now checkpoint.gate.identity charged amount).Keeps
      fun limiter => Good { checkpoint with limiter })
    (operation : Operation) (accounts : List Address) (check : Except Refusal Unit) :
    (checkpoint.decision now operation charged accounts amount check).Keeps Good := by
  rw [decision, observed]
  exact (((keeps_limited good charges).guarded good _).guarded good _).record _

theorem gate_decision (checkpoint : Checkpoint) (now : Seconds) (operation : Operation)
    (charged : Position) (accounts : List Address) (amount : Amount)
    (check : Except Refusal Unit) :
    (checkpoint.decision now operation charged accounts amount check).world.gate =
      checkpoint.gate := by
  let Good (decided : Checkpoint) : Prop := decided.gate = checkpoint.gate
  have good : Good checkpoint := rfl
  exact (keeps_decision good ⟨rfl⟩ operation accounts check).kept

theorem keeps_recordConsumption (good : Good checkpoint) {now : Seconds} {position : Position}
    {amount : Amount}
    (records : (checkpoint.limiter.recordTransfer now checkpoint.gate.identity position
      amount).Keeps fun limiter => Good { checkpoint with limiter }) :
    (checkpoint.recordConsumption now position amount).Keeps Good := by
  rw [recordConsumption, observed]
  apply Outcome.Keeps.record
  split
  · exact Outcome.keeps_refused good _
  · exact keeps_limited good records

theorem keeps_settle (good : Good checkpoint) {written : Except Refusal Ledger}
    (wrote : ∀ ledger, written = .ok ledger → Good (checkpoint.withLedger ledger))
    (events : List Event) : (checkpoint.settle written events).Keeps Good := by
  cases written with
  | error refusal => exact Outcome.keeps_refused good refusal
  | ok ledger => exact Outcome.keeps_accepted (wrote ledger rfl) events []

theorem keeps_recover (good : Good checkpoint) {asset destination : Address} {amount : Amount}
    (wrote : ∀ ledger,
      checkpoint.gate.ledger.move asset checkpoint.gate.identity destination amount =
        .ok ledger → Good (checkpoint.withLedger ledger)) (caller : Address) :
    (checkpoint.recover caller asset destination amount).Keeps Good := by
  refine Outcome.Keeps.guarded ?_ good _
  split
  · exact Outcome.keeps_refused good _
  · split
    · exact Outcome.keeps_refused good _
    · exact keeps_settle good wrote _

theorem keeps_movement (good : Good checkpoint) {now : Seconds} {movement : Movement}
    (charges : (checkpoint.limiter.charge now checkpoint.gate.identity movement.charged
      movement.amount).Keeps fun limiter => Good { checkpoint with limiter })
    (wrote : ∀ decided, Good decided → ∀ ledger,
      movement.write decided.gate.ledger = .ok ledger → Good (decided.withLedger ledger)) :
    (checkpoint.perform now movement.command).Keeps Good := by
  rw [perform_movement]
  refine Outcome.Keeps.guarded ?_ good _
  apply (keeps_decision good charges ..).andThen
  exact fun decided kept => keeps_settle kept (wrote decided kept) _

/-- What is kept when the limiter is asked for something, when a movement is written into the
book and when a setting changes, a command keeps. It is left to look at commands that change a
grant or put another collaborator in place. -/
theorem keeps_perform_of_pieces (good : Good checkpoint) (now : Seconds)
    (command : Gate.Command)
    (limits : ∀ command,
      (checkpoint.limiter.perform now checkpoint.gate.identity command).Keeps
        fun limiter => Good { checkpoint with limiter })
    (wrote : ∀ decided, Good decided → ∀ (movement : Movement) ledger,
      movement.write decided.gate.ledger = .ok ledger → Good (decided.withLedger ledger))
    (switched : ∀ switches, Good { checkpoint with gate.switches := switches })
    (granted : ∀ caller account held, (checkpoint.assignMinter caller account held).Keeps Good)
    (registered : ∀ caller whitelist, command = .replaceWhitelist caller whitelist →
      (checkpoint.perform now command).Keeps Good)
    (relimited : ∀ caller limiter, command = .replaceLimiter caller limiter →
      (checkpoint.perform now command).Keeps Good) :
    (checkpoint.perform now command).Keeps Good := by
  cases command using Gate.Command.byMovement with
  | movement movement =>
      exact keeps_movement good (limits (.charge ..)) fun decided kept =>
        wrote decided kept movement
  | admitTransfer => exact keeps_decision good (limits (.charge ..)) ..
  | recordConsumption => exact keeps_recordConsumption good (limits (.recordTransfer ..))
  | assignMinter caller account held => exact granted caller account held
  | setChecks | setPaused => exact Outcome.Keeps.guarded ⟨switched _⟩ good _
  | replaceWhitelist caller whitelist => exact registered caller whitelist rfl
  | replaceLimiter caller limiter => exact relimited caller limiter rfl
  | recover caller asset destination amount =>
      exact keeps_recover good
        (wrote checkpoint good (.transfer asset checkpoint.gate.identity destination amount)) _
  | deposit asset amount =>
      exact keeps_settle good
        (wrote checkpoint good (.mint .zero asset checkpoint.gate.identity amount)) _

/-- Where it does not matter who holds which role at the gate, nor which registry it asks, only
commands that put another limiter in place are left to look at. -/
theorem keeps_perform_of_parts (good : Good checkpoint) (now : Seconds)
    (command : Gate.Command)
    (limits : ∀ command,
      (checkpoint.limiter.perform now checkpoint.gate.identity command).Keeps
        fun limiter => Good { checkpoint with limiter })
    (wrote : ∀ decided, Good decided → ∀ (movement : Movement) ledger,
      movement.write decided.gate.ledger = .ok ledger → Good (decided.withLedger ledger))
    (switched : ∀ switches, Good { checkpoint with gate.switches := switches })
    (granted : ∀ authority, Good { checkpoint with gate.authority := authority })
    (registered : ∀ whitelist, Good { checkpoint with whitelist })
    (relimited : ∀ caller limiter, command = .replaceLimiter caller limiter →
      (checkpoint.perform now command).Keeps Good) :
    (checkpoint.perform now command).Keeps Good := by
  refine keeps_perform_of_pieces good now command limits wrote switched ?_ ?_ relimited
  · exact fun _ _ _ => Authority.keeps_reassign good _ granted ..
  · rintro _ whitelist rfl
    exact Outcome.Keeps.guarded ⟨registered whitelist⟩ good _

theorem keeps_handle_of_parts (good : Good checkpoint) (now : Seconds) (request : Request)
    (limits : ∀ caller command,
      (checkpoint.limiter.perform now caller command).Keeps
        fun limiter => Good { checkpoint with limiter })
    (registered : ∀ whitelist, Good { checkpoint with whitelist })
    (granted : ∀ authority component, Good (checkpoint.withAuthority authority component))
    (performed : ∀ command, request = .execute (.gate command) →
      (checkpoint.perform now command).Keeps Good) :
    (checkpoint.handle now request).Keeps Good := by
  cases request with
  | regrant component caller role account held =>
      rw [handle, regrant]
      split
      · exact Outcome.keeps_refused good _
      · exact Outcome.keeps_accepted (granted _ component) [] []
  | execute command =>
      cases command with
      | whitelist => exact ⟨registered _⟩
      | limiter caller command => exact (limits caller command).within fun _ kept => kept
      | gate command => exact performed command rfl

end Keeps

end Turnstile.Checkpoint
