import Turnstile.Proofs.Checkpoint.Congruence

namespace Turnstile

/-! In front of a balanced book, a refused command leaves no trace, whatever it asked for
and however late it was refused; and no command can tell the trace that is left in the
limiter from none. -/

namespace Whitelist

theorem atomic_perform (whitelist : Whitelist) (caller : Address) (command : Command) :
    (whitelist.perform caller command).Atomic (whitelist = ·) := by
  cases command with
  | setMembership accounts whitelisted => exact (Outcome.atomic_accepted ..).guarded rfl _
  | setEnabled enabled => exact (Outcome.atomic_accepted ..).guarded rfl _
  | assignWhitelister account held => exact Authority.atomic_reassign rfl ..
  | assignCaller account held => exact Authority.atomic_reassign rfl ..

end Whitelist

namespace Checkpoint

/-! ## All or nothing -/

private theorem atomic_limited (checkpoint : Checkpoint) {act : Limiter → Outcome Limiter}
    (acted : (act checkpoint.limiter).Atomic checkpoint.limiter.Alike) :
    (checkpoint.limited act).Atomic checkpoint.Alike := by
  rw [limited]
  split
  · exact acted.within fun _ alike => .withLimiter checkpoint alike
  · exact Outcome.atomic_accepted ..

section Same

variable {checkpoint : Checkpoint} {Same : Checkpoint → Prop}

theorem atomic_settle (same : Same checkpoint) (written : Except Refusal Ledger)
    (events : List Event) : (checkpoint.settle written events).Atomic Same := by
  cases written with
  | error refusal => exact Outcome.atomic_refused same refusal
  | ok ledger => exact Outcome.atomic_accepted ..

theorem atomic_asAdmin {outcome : Outcome Checkpoint} (atomic : outcome.Atomic Same)
    (same : Same checkpoint) (caller : Address) :
    (checkpoint.asAdmin caller outcome).Atomic Same :=
  atomic.guarded same _

theorem atomic_recover (same : Same checkpoint) (caller asset destination : Address)
    (amount : Amount) : (checkpoint.recover caller asset destination amount).Atomic Same := by
  refine atomic_asAdmin ?_ same caller
  split
  · exact Outcome.atomic_refused same _
  · split
    · exact Outcome.atomic_refused same _
    · exact atomic_settle same ..

theorem atomic_execute_whitelist (same : Same checkpoint) (now : Seconds) (caller : Address)
    (command : Whitelist.Command) :
    (checkpoint.execute now (.whitelist caller command)).Atomic Same := by
  rw [execute]
  refine (checkpoint.whitelist.atomic_perform caller command).within fun whitelist kept => ?_
  rw [← kept]
  exact same

theorem atomic_execute_limiter (same : Same checkpoint) (now : Seconds) (caller : Address)
    {command : Limiter.Command} (managed : command.role ≠ .caller) :
    (checkpoint.execute now (.limiter caller command)).Atomic Same := by
  let Placed (limiter : Limiter) : Prop := Same { checkpoint with limiter }
  have placed : Placed checkpoint.limiter := same
  exact (Limiter.atomic_perform_of_role placed now caller managed).within fun _ kept => kept

end Same

private theorem atomic_recordConsumption (checkpoint : Checkpoint) (now : Seconds)
    (position : Position) (amount : Amount) :
    (checkpoint.recordConsumption now position amount).Atomic checkpoint.Alike := by
  rw [recordConsumption, observed]
  apply Outcome.Atomic.record
  split
  · exact Outcome.atomic_refused (.refl checkpoint) _
  · exact checkpoint.atomic_limited (checkpoint.limiter.atomic_perform now
      checkpoint.gate.identity (.recordTransfer position amount))

theorem atomic_perform {checkpoint : Checkpoint}
    (balanced : checkpoint.gate.ledger.Balanced) (now : Seconds) (command : Gate.Command) :
    (checkpoint.perform now command).Atomic checkpoint.Alike := by
  have same := Alike.refl checkpoint
  cases command using Gate.Command.byMovement with
  | movement movement => exact (meets_movement balanced now movement).atomic
  | admitTransfer asset source destination amount =>
      exact (meets_decision checkpoint now .admission ⟨asset, source⟩ [source, destination]
        amount []).atomic
  | recordConsumption position amount => exact atomic_recordConsumption ..
  | assignMinter caller account held => exact Authority.atomic_reassign same ..
  | setChecks caller | setPaused caller | replaceWhitelist caller | replaceLimiter caller =>
      exact atomic_asAdmin (Outcome.atomic_accepted ..) same caller
  | recover caller asset destination amount => exact atomic_recover same ..
  | deposit asset amount => exact atomic_settle same ..

theorem atomic_execute {checkpoint : Checkpoint}
    (balanced : checkpoint.gate.ledger.Balanced) (now : Seconds) (command : Command) :
    (checkpoint.execute now command).Atomic checkpoint.Alike := by
  cases command with
  | whitelist caller command => exact atomic_execute_whitelist (.refl checkpoint) now caller command
  | limiter caller command =>
      exact (checkpoint.limiter.atomic_perform now caller command).within
        fun _ alike => .withLimiter checkpoint alike
  | gate command => exact atomic_perform balanced now command

/-! ## No command tells the difference -/

theorem Alike.matching {left right : Checkpoint} (alike : left.Alike right) :
    Matching Eq Limiter.Alike left right where
  identity := congrArg Gate.identity alike.gate
  switches := congrArg Gate.switches alike.gate
  authority := congrArg Gate.authority alike.gate
  ledger := congrArg Gate.ledger alike.gate
  whitelist := alike.whitelist
  limiter := alike.limiter

theorem Matching.alike {left right : Checkpoint} (same : Matching Eq Limiter.Alike left right) :
    left.Alike right := by
  refine ⟨?_, same.whitelist, same.limiter⟩
  rcases left with ⟨⟨_, _, _, _⟩, _, _⟩
  rcases right with ⟨⟨_, _, _, _⟩, _, _⟩
  cases same.identity
  cases same.switches
  cases same.authority
  cases same.ledger
  rfl

theorem congruence_alike : Congruence (fun _ => True) Eq Limiter.Alike where
  books := Ledger.congruence_eq _
  limiters := Limiter.congruence_alike
  refl := Limiter.Alike.refl

theorem related_execute {left right : Checkpoint} (alike : left.Alike right) (now : Seconds)
    (command : Command) :
    Outcome.Related Alike (left.execute now command) (right.execute now command) :=
  (congruence_alike.related_execute alike.matching now fun _ _ => trivial).mono
    fun _ _ same => same.alike

end Checkpoint

end Turnstile
