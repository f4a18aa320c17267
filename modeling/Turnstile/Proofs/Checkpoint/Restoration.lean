import Turnstile.Proofs.Checkpoint.Invariant
import Turnstile.Proofs.Checkpoint.Request
import Turnstile.Proofs.Ledger.Records
import Turnstile.Proofs.Table
import Turnstile.Snapshot

namespace Turnstile

/-! Snapshots from which everything comes back. A gate is restored with its collaborators as
they were, if it is given its identity and the limiter its fallback limits, which are not in
the snapshot, and if the book is canonical. All of that stays so as long as nothing is put in
the place of a collaborator. -/

/-! ## Restoring -/

@[simp] theorem Authority.ofGrants_toList (authority : Authority) :
    ofGrants authority.toList = authority := by
  rw [ofGrants, toList, KeySet.ofKeys_keys]

@[simp] theorem Whitelist.ofSnapshot_snapshot (whitelist : Whitelist) :
    ofSnapshot whitelist.snapshot = whitelist := by
  simp only [ofSnapshot, snapshot, KeySet.ofKeys_keys, Authority.ofGrants_toList]

@[simp] theorem Limiter.ofSnapshot_snapshot (limiter : Limiter) :
    ofSnapshot limiter.fallback limiter.snapshot = limiter := by
  simp only [ofSnapshot, snapshot, Table.ofList_entries, Authority.ofGrants_toList]

theorem Gate.ofSnapshot_snapshot {gate : Gate} (canonical : gate.ledger.Canonical) :
    ofSnapshot gate.identity gate.snapshot = .ok gate := by
  rw [ofSnapshot, snapshot, Ledger.ofRecords_records canonical]
  simp only [Authority.ofGrants_toList]
  rfl

theorem Gate.eq_of_founded {identity admin : Address} {gate : Gate}
    (founded : Gate.founded identity admin = .ok gate) :
    ∃ authority, gate = { identity, switches := .initial, ledger := .empty, authority } := by
  rw [Gate.founded] at founded
  split at founded
  next => cases founded
  next =>
      rcases exists_of_bind_eq_ok founded with ⟨authority, _, done⟩
      cases done
      exact ⟨authority, rfl⟩

theorem Gate.fields_of_founded {identity admin : Address} {gate : Gate}
    (founded : Gate.founded identity admin = .ok gate) :
    gate.identity = identity ∧ gate.ledger = .empty := by
  rcases Gate.eq_of_founded founded with ⟨authority, rfl⟩
  exact ⟨rfl, rfl⟩

/-! ## Fallback limits -/

namespace Limiter

/-- Nothing that is asked of a limiter changes these. -/
def FallsBackTo (fallback : Limits) (limiter : Limiter) : Prop :=
  limiter.fallback = fallback

variable {limiter : Limiter} {fallback : Limits}

theorem fallsBackTo_of_founded {admin : Address}
    (founded : Limiter.founded admin fallback = .ok limiter) :
    limiter.FallsBackTo fallback := by
  rcases exists_of_bind_eq_ok founded with ⟨_, _, rest⟩
  rcases exists_of_bind_eq_ok rest with ⟨_, _, done⟩
  cases done
  rfl

theorem keeps_perform (same : limiter.FallsBackTo fallback) (now : Seconds)
    (caller : Address) (command : Command) :
    (limiter.perform now caller command).Keeps (FallsBackTo fallback) :=
  ⟨(limiter.confined_perform now caller command).kept.fallback.trans same⟩

end Limiter

/-! ## Books -/

theorem Movement.canonical_write {movement : Movement} {ledger after : Ledger}
    (canonical : ledger.Canonical) (written : movement.write ledger = .ok after) :
    after.Canonical := by
  cases movement with
  | transfer | transferFrom => exact canonical.move written
  | mint => exact canonical.credit written
  | burn => exact canonical.debit written

namespace Checkpoint

/-- The book of a gate is canonical. -/
def KeepsBook (checkpoint : Checkpoint) : Prop :=
  checkpoint.gate.ledger.Canonical

theorem KeepsBook.perform {checkpoint : Checkpoint} (canonical : checkpoint.KeepsBook)
    (now : Seconds) (command : Gate.Command) :
    (checkpoint.perform now command).Keeps KeepsBook := by
  apply keeps_perform_of_parts canonical
  case limits => exact fun _ => ⟨canonical⟩
  case wrote =>
    exact fun decided kept movement ledger written => movement.canonical_write kept written
  case switched | granted | registered => exact fun _ => canonical
  case relimited =>
    rintro caller limiter rfl
    exact Outcome.Keeps.guarded ⟨canonical⟩ canonical _

theorem KeepsBook.handle {checkpoint : Checkpoint} (canonical : checkpoint.KeepsBook)
    (now : Seconds) (request : Request) :
    (checkpoint.handle now request).Keeps KeepsBook := by
  apply keeps_handle_of_parts canonical
  case limits => exact fun _ _ => ⟨canonical⟩
  case registered => exact fun _ => canonical
  case granted => exact fun _ component => by cases component <;> exact canonical
  case performed => exact fun command _ => canonical.perform now command

/-! ## Requests -/

/-- The request puts something else in the place of a collaborator, if it is accepted. -/
def Request.replaces : Request → Bool
  | .execute (.gate (.replaceWhitelist ..)) => true
  | .execute (.gate (.replaceLimiter ..)) => true
  | _ => false

/-- What is not in a snapshot, or can only be taken from one in part, is as it would be
given anew. -/
structure Restorable (identity : Address) (fallback : Limits) (checkpoint : Checkpoint) :
    Prop where
  identity : checkpoint.gate.identity = identity
  fallback : checkpoint.limiter.FallsBackTo fallback
  canonical : checkpoint.gate.ledger.Canonical

section Restorable

variable {checkpoint : Checkpoint} {identity : Address} {fallback : Limits}

theorem Restorable.ofSnapshot_snapshot (restorable : checkpoint.Restorable identity fallback)
    (now : Seconds) : ofSnapshot identity fallback (checkpoint.snapshot now) = .ok checkpoint := by
  have gate := Gate.ofSnapshot_snapshot restorable.canonical
  have limiter := checkpoint.limiter.ofSnapshot_snapshot
  rw [restorable.identity] at gate
  rw [restorable.fallback] at limiter
  rw [ofSnapshot, snapshot, gate]
  simp only [limiter, Whitelist.ofSnapshot_snapshot]
  rfl

theorem restorable_ofSnapshot {snapshot : Snapshot}
    (restored : ofSnapshot identity fallback snapshot = .ok checkpoint) :
    checkpoint.Restorable identity fallback := by
  rcases exists_of_bind_eq_ok restored with ⟨gate, rebuilt, done⟩
  rcases exists_of_bind_eq_ok rebuilt with ⟨ledger, recorded, gateDone⟩
  cases gateDone
  cases done
  exact ⟨rfl, rfl, Ledger.canonical_ofRecords recorded⟩

theorem Restorable.limits (restorable : checkpoint.Restorable identity fallback) (now : Seconds)
    (caller : Address) (command : Limiter.Command) :
    (checkpoint.limiter.perform now caller command).Keeps fun limiter =>
      Restorable identity fallback { checkpoint with limiter } :=
  ⟨restorable.identity, (Limiter.keeps_perform restorable.fallback now caller command).kept,
    restorable.canonical⟩

theorem Restorable.withLedger (restorable : checkpoint.Restorable identity fallback)
    {ledger : Ledger} (canonical : ledger.Canonical) :
    (checkpoint.withLedger ledger).Restorable identity fallback :=
  ⟨restorable.identity, restorable.fallback, canonical⟩

/-- Only another limiter could bring other fallback limits. -/
theorem keeps_perform (restorable : checkpoint.Restorable identity fallback) (now : Seconds)
    {command : Gate.Command}
    (unreplaced : (Request.execute (.gate command)).replaces = true →
      (checkpoint.perform now command).answer ≠ .ok ()) :
    (checkpoint.perform now command).Keeps (Restorable identity fallback) := by
  apply keeps_perform_of_parts restorable
  case limits => exact fun command => restorable.limits now checkpoint.gate.identity command
  case wrote =>
    exact fun decided kept movement ledger written =>
      kept.withLedger (movement.canonical_write kept.canonical written)
  case switched | granted | registered =>
    exact fun _ => ⟨restorable.identity, restorable.fallback, restorable.canonical⟩
  case relimited =>
    rintro caller limiter rfl
    have refused := unreplaced rfl
    simp only [perform, replaceLimiter, asAdmin] at refused ⊢
    cases required : checkpoint.gate.authority.require .admin caller with
    | error refusal => exact ⟨restorable⟩
    | ok =>
        rw [required] at refused
        exact absurd rfl refused

theorem keeps_handle (restorable : checkpoint.Restorable identity fallback) (now : Seconds)
    {request : Request}
    (unreplaced : request.replaces = true → (checkpoint.handle now request).answer ≠ .ok ()) :
    (checkpoint.handle now request).Keeps (Restorable identity fallback) := by
  apply keeps_handle_of_parts restorable
  case limits => exact restorable.limits now
  case registered =>
    exact fun _ => ⟨restorable.identity, restorable.fallback, restorable.canonical⟩
  case granted =>
    intro authority component
    cases component <;> exact ⟨restorable.identity, restorable.fallback, restorable.canonical⟩
  case performed =>
    rintro command rfl
    exact keeps_perform restorable now unreplaced

end Restorable

end Checkpoint

end Turnstile
