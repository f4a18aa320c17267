import Turnstile.Proofs.Checkpoint.Alike
import Turnstile.Proofs.Limiter.Charge

namespace Turnstile.Checkpoint

/-! A decision of the gate as a list of conditions: access first, then what the ledger
asks, then the limits of the charged position. A decision that is accepted has charged the
limiter, if limits are checked, and has changed nothing else. -/

/-! ## Conditions -/

/-- The gate is not paused and, if it asks the whitelist, every account may pass. -/
def accessConditions (checkpoint : Checkpoint) (accounts : List Address) : List Condition :=
  ⟨!checkpoint.gate.switches.paused, .paused⟩ ::
    if checkpoint.gate.switches.whitelistChecks then
      accounts.map fun account =>
        ⟨checkpoint.whitelist.isWhitelisted account, .notWhitelisted account⟩
    else []

def limitConditions (checkpoint : Checkpoint) (now : Seconds) (charged : Position)
    (amount : Amount) : List Condition :=
  if checkpoint.gate.switches.limitChecks then
    checkpoint.limiter.chargeConditions now checkpoint.gate.identity charged amount
  else []

private theorem find?_eq_verdict (accounts : List Address) (passes : Address → Bool) :
    (match accounts.find? fun account => !passes account with
      | some denied => Except.error (Refusal.notWhitelisted denied)
      | none => Except.ok ()) =
      verdict (accounts.map fun account => ⟨passes account, .notWhitelisted account⟩) := by
  induction accounts with
  | nil => rfl
  | cons account rest induction =>
      rw [List.map_cons, verdict_cons]
      cases pass : passes account with
      | true => simpa [pass] using induction
      | false => simp [pass]

theorem checkAccess_eq_verdict (checkpoint : Checkpoint) (accounts : List Address) :
    checkpoint.checkAccess accounts = verdict (checkpoint.accessConditions accounts) := by
  rw [checkAccess, accessConditions]
  rw [verdict_cons]
  cases checkpoint.gate.switches.paused with
  | true => rfl
  | false =>
      cases checkpoint.gate.switches.whitelistChecks with
      | true => exact find?_eq_verdict accounts checkpoint.whitelist.isWhitelisted
      | false => rfl

theorem checkAccess_eq_ok_iff {checkpoint : Checkpoint} {accounts : List Address} :
    checkpoint.checkAccess accounts = .ok () ↔
      checkpoint.gate.switches.paused = false ∧
        (checkpoint.gate.switches.whitelistChecks = true →
          ∀ account ∈ accounts, checkpoint.whitelist.isWhitelisted account = true) := by
  rw [checkAccess_eq_verdict, accessConditions, verdict_cons_eq_ok_iff]
  cases checkpoint.gate.switches.whitelistChecks <;> simp [verdict_eq_ok_iff]

/-! ## Effects -/

/-- The limiter after an amount was charged, or as it was if limits are not checked. -/
def Limited (now : Seconds) (charged : Position) (amount : Amount)
    (before after : Checkpoint) : Prop :=
  if before.gate.switches.limitChecks then
    Limiter.Charged now charged amount before.limiter after.limiter
  else after.limiter = before.limiter

def limitEvents (before after : Checkpoint) (charged : Position) (amount : Amount) :
    List Event :=
  if before.gate.switches.limitChecks then
    Limiter.chargeEvents before.limiter after.limiter charged amount
  else []

structure Decided (now : Seconds) (charged : Position) (amount : Amount)
    (before after : Checkpoint) (events : List Event) : Prop where
  gate : after.gate = before.gate
  whitelist : after.whitelist = before.whitelist
  limiter : Limited now charged amount before after
  events : events = limitEvents before after charged amount

theorem meets_limited (checkpoint : Checkpoint) (now : Seconds) (charged : Position)
    (amount : Amount) :
    (checkpoint.limited fun limiter =>
        limiter.charge now checkpoint.gate.identity charged amount).Meets
      (checkpoint.limitConditions now charged amount) checkpoint.Alike
      (Decided now charged amount checkpoint) := by
  rw [limited, limitConditions]
  cases checks : checkpoint.gate.switches.limitChecks with
  | false =>
      refine Outcome.meets_accepted ⟨rfl, rfl, ?_, ?_⟩
      · simp [Limited, checks]
      · simp [limitEvents, checks]
  | true =>
      refine (Limiter.meets_charge ..).within
        (fun _ alike => .withLimiter checkpoint alike) fun limiter events charging => ?_
      exact ⟨rfl, rfl, by simpa [Limited, checks] using charging.1,
        by simpa [limitEvents, checks] using charging.2⟩

theorem meets_decision (checkpoint : Checkpoint) (now : Seconds) (operation : Operation)
    (charged : Position) (accounts : List Address) (amount : Amount)
    (checks : List Condition) :
    (checkpoint.decision now operation charged accounts amount (verdict checks)).Meets
      (checkpoint.accessConditions accounts ++
        (checks ++ checkpoint.limitConditions now charged amount))
      checkpoint.Alike (Decided now charged amount checkpoint) := by
  have same := Alike.refl checkpoint
  rw [decision, observed]
  rw [checkAccess_eq_verdict]
  exact (((meets_limited checkpoint now charged amount).guarded same).guarded same).record _

theorem decision_answer_eq_ok_iff {checkpoint : Checkpoint} {now : Seconds}
    {operation : Operation} {charged : Position} {accounts : List Address} {amount : Amount}
    {check : Except Refusal Unit} :
    (checkpoint.decision now operation charged accounts amount check).answer = .ok () ↔
      checkpoint.checkAccess accounts = .ok () ∧ check = .ok () ∧
        verdict (checkpoint.limitConditions now charged amount) = .ok () := by
  rw [← (meets_limited checkpoint now charged amount).answer, ← Outcome.guarded_answer_eq_ok_iff,
    ← Outcome.guarded_answer_eq_ok_iff]
  rfl

end Turnstile.Checkpoint
