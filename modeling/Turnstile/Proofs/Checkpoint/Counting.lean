import Mathlib.Algebra.BigOperators.Group.Finset.Basic
import Turnstile.Proofs.Checkpoint.Tally
import Turnstile.Proofs.Meter

namespace Turnstile

/-! What metrics count of the operations of a gate. Each operation that is decided on is
counted once, as the caller sees it answered, and a refused one once more under its reason.
The count is taken after the decision and before the book is written; it is right since a
balanced book takes what was decided. -/

instance : Fintype Operation where
  elems := {.transfer, .transferFrom, .mint, .burn, .admission, .consumption}
  complete operation := by cases operation <;> decide

namespace Refusal

/-- All labels of refusals. -/
def reasons : Finset String :=
  {"unauthorized", "invalid_argument", "not_whitelisted", "limit_exceeded",
    "cooldown_not_elapsed", "exceeds_period_limit", "paused", "insufficient_balance",
    "supply_overflow"}

private theorem reason_mem_reasons (refusal : Refusal) : refusal.reason ∈ reasons := by
  cases refusal <;> simp [reason, reasons]

/-- What a mint can be refused for before it is decided on: its caller is no minter, or the
receiver is the null account. -/
def precedesDecision : Refusal → Bool
  | .unauthorized .minter _ | .invalidArgument .zeroAddress => true
  | _ => false

end Refusal

/-! ## Operations -/

/-- The operation that is counted when this is asked for. -/
def Gate.Command.operation? : Gate.Command → Option Operation
  | .transfer .. => some .transfer
  | .transferFrom .. => some .transferFrom
  | .mint .. => some .mint
  | .burn .. => some .burn
  | .admitTransfer .. => some .admission
  | .recordConsumption .. => some .consumption
  | _ => none

def Checkpoint.Request.operation? : Checkpoint.Request → Option Operation
  | .execute (.gate command) => command.operation?
  | _ => none

theorem Movement.operation?_command (movement : Movement) :
    movement.command.operation? = some movement.operation := by
  cases movement <;> rfl

/-! ## Parts that decide nothing -/

theorem Authority.counts_reassign {World : Type} (world : World) (authority : Authority)
    (install : Authority → World) (caller : Address) (role : Role) (account : Address)
    (held : Bool) : (authority.reassign world install caller role account held).Counts [] := by
  rw [reassign]
  split
  · exact Outcome.counts_refused ..
  · exact Outcome.counts_accepted _ _ rfl
  · exact Outcome.counts_accepted _ _ rfl

theorem Whitelist.counts_perform (whitelist : Whitelist) (caller : Address)
    (command : Command) : (whitelist.perform caller command).Counts [] := by
  cases command with
  | setMembership | setEnabled => exact (Outcome.counts_accepted _ _ rfl).guarded ..
  | assignWhitelister | assignCaller => exact Authority.counts_reassign ..

namespace Limiter

private theorem counts_commit (limiter : Limiter) (position : Position) (defaults : Limits)
    (judge : Standing → Limits → Except Refusal Standing)
    {report : Limiter → Standing → Outcome Limiter}
    (reported : ∀ changed standing, (report changed standing).Counts []) :
    (limiter.commit position defaults judge report).Counts [] := by
  simp only [commit]
  split
  · exact Outcome.counts_accepted _ _ rfl
  · split
    · exact Outcome.counts_refused ..
    · exact reported ..

theorem counts_perform (limiter : Limiter) (now : Seconds) (caller : Address)
    (command : Command) : (limiter.perform now caller command).Counts [] := by
  have written (changed : Limiter) (events : List Event) :
      (Outcome.accepted changed events []).Counts [] := Outcome.counts_accepted _ _ rfl
  have tracked (changed : Limiter) (events : List Event) :
      (Outcome.accepted changed events changed.tracking).Counts [] :=
    Outcome.counts_accepted _ _ rfl
  cases command with
  | assignManager | assignCaller => exact Authority.counts_reassign ..
  | setDefaultCap | setDefaultPeriod | setDefaultLimits =>
      exact ((written ..).guarded ..).guarded ..
  | setDefaultCooldown => exact (written ..).guarded ..
  | setUserCap | setUserPeriod | setUserLimits => exact ((tracked ..).guarded ..).guarded ..
  | setUserCooldown => exact (tracked ..).guarded ..
  | resetUserLimits | resetUserPeriod => exact (written ..).guarded ..
  | setExemptions => exact ((tracked ..).guarded ..).guarded ..
  | enforceCooldown => exact (counts_commit _ _ _ _ fun _ _ => written ..).guarded ..
  | recordTransfer | charge => exact (counts_commit _ _ _ _ fun _ _ => tracked ..).guarded ..

end Limiter

namespace Checkpoint

variable {checkpoint : Checkpoint}

private theorem counts_settle (checkpoint : Checkpoint) (written : Except Refusal Ledger)
    (events : List Event) : (checkpoint.settle written events).Counts [] := by
  cases written with
  | error refusal => exact Outcome.counts_refused checkpoint refusal
  | ok ledger => exact Outcome.counts_accepted _ events rfl

private theorem counts_limited (checkpoint : Checkpoint) {act : Limiter → Outcome Limiter}
    (acted : ∀ limiter, (act limiter).Counts []) : (checkpoint.limited act).Counts [] := by
  rw [limited]
  split
  · exact (acted _).within _
  · exact Outcome.counts_accepted _ _ rfl

private theorem counts_recover (checkpoint : Checkpoint) (caller asset destination : Address)
    (amount : Amount) : (checkpoint.recover caller asset destination amount).Counts [] := by
  refine Outcome.Counts.guarded ?_ ..
  split
  · exact Outcome.counts_refused ..
  · split
    · exact Outcome.counts_refused ..
    · exact counts_settle ..

private theorem counts_regrant (checkpoint : Checkpoint) (component : Component) (caller : Address)
    (role : Role) (account : Address) (held : Bool) :
    (checkpoint.regrant component caller role account held).Counts [] := by
  rw [regrant]
  split
  · exact Outcome.counts_refused ..
  · exact Outcome.counts_accepted _ _ rfl

/-! ## Decided operations -/

private theorem isDecision_of_mem_decisionReadings {operation : Operation}
    {answer : Except Refusal Unit} {reading : Reading}
    (member : reading ∈ decisionReadings operation answer) : reading.isDecision = true := by
  cases answer with
  | ok =>
      rw [List.mem_singleton.mp member]
      rfl
  | error refusal =>
      rcases List.mem_cons.mp member with decision | rejection
      · rw [decision]
        rfl
      · rw [List.mem_singleton.mp rejection]
        rfl

private theorem counts_observed {outcome : Outcome Checkpoint} (counts : outcome.Counts [])
    (operation : Operation) :
    (observed operation outcome).Counts
      (decisionReadings operation (observed operation outcome).answer) :=
  counts.record fun _ => isDecision_of_mem_decisionReadings

private theorem counts_decision (checkpoint : Checkpoint) (now : Seconds) (operation : Operation)
    (charged : Position) (accounts : List Address) (amount : Amount)
    (check : Except Refusal Unit) :
    let outcome := checkpoint.decision now operation charged accounts amount check
    outcome.Counts (decisionReadings operation outcome.answer) := by
  have charge := checkpoint.counts_limited fun limiter =>
    limiter.counts_perform now checkpoint.gate.identity (.charge charged amount)
  exact counts_observed ((charge.guarded ..).guarded ..) operation

private theorem counts_recordConsumption (checkpoint : Checkpoint) (now : Seconds)
    (position : Position) (amount : Amount) :
    let outcome := checkpoint.recordConsumption now position amount
    outcome.Counts (decisionReadings .consumption outcome.answer) := by
  refine counts_observed ?_ .consumption
  split
  · exact Outcome.counts_refused ..
  · exact checkpoint.counts_limited fun limiter =>
      limiter.counts_perform now checkpoint.gate.identity (.recordTransfer position amount)

/-- The readings of a decision, or none if the answer was given before there was one. -/
def decisionsOf (operation : Operation) : Except Refusal Unit → List Reading
  | .ok () => decisionReadings operation (.ok ())
  | .error refusal =>
      if operation = .mint ∧ refusal.precedesDecision then []
      else decisionReadings operation (.error refusal)

/-- Only mints have callers to be turned away. -/
private theorem decisionsOf_of_caller {authority : Authority} {movement : Movement}
    {refusal : Refusal}
    (refused : verdict (movement.callerConditions authority) = .error refusal) :
    decisionsOf movement.operation (.error refusal) = [] := by
  cases movement with
  | transfer | transferFrom | burn => cases refused
  | mint =>
      have member := mem_of_verdict_eq_error refused
      rcases List.mem_cons.mp member with unauthorized | null
      · subst unauthorized
        rfl
      · rw [List.mem_singleton.mp null]
        rfl

private theorem precedesDecision_of_access {accounts : List Address} {condition : Condition}
    (member : condition ∈ checkpoint.accessConditions accounts) :
    condition.refusal.precedesDecision = false := by
  rw [accessConditions] at member
  rcases List.mem_cons.mp member with paused | denied
  · rw [paused]
    rfl
  · split at denied
    · rcases List.mem_map.mp denied with ⟨account, _, rfl⟩
      rfl
    · cases denied

private theorem precedesDecision_of_limit {now : Seconds} {charged : Position} {amount : Amount}
    {condition : Condition}
    (member : condition ∈ checkpoint.limitConditions now charged amount) :
    condition.refusal.precedesDecision = false := by
  rw [limitConditions, Limiter.chargeConditions, Standing.conditions] at member
  split at member
  · rcases List.mem_cons.mp member with unauthorized | limited
    · rw [unauthorized]
      rfl
    · split at limited
      · cases limited
      · simp only [List.mem_cons, List.not_mem_nil, or_false] at limited
        rcases limited with cap | cooldown | quota
        · exact cap ▸ rfl
        · exact cooldown ▸ rfl
        · exact quota ▸ rfl
  · cases member

/-- What a decision is refused for is none of the reasons to turn a caller away. -/
private theorem decisionsOf_of_judge (balanced : checkpoint.gate.ledger.Balanced) (now : Seconds)
    (movement : Movement) :
    let answer := (checkpoint.judge now movement).answer
    decisionsOf movement.operation answer = decisionReadings movement.operation answer := by
  intro answer
  have decided : answer = _ := (meets_judge balanced now movement).answer
  cases judged : answer with
  | ok => rfl
  | error refusal =>
      rw [judged] at decided
      rcases List.mem_map.mp (mem_of_verdict_eq_error decided.symm) with
        ⟨condition, member, rfl⟩
      have late : condition.refusal.precedesDecision = false := by
        rcases List.mem_append.mp member with access | further
        · exact precedesDecision_of_access access
        · rcases List.mem_append.mp further with ledger | limit
          · rw [List.mem_singleton.mp ledger]
            cases movement <;> rfl
          · exact precedesDecision_of_limit limit
      simp [decisionsOf, late]

/-- The book takes what was decided, so the decision is the answer. -/
private theorem answer_settled (balanced : checkpoint.gate.ledger.Balanced) (now : Seconds)
    (movement : Movement) :
    ((checkpoint.judge now movement).andThen fun charged =>
      charged.settle (movement.write charged.gate.ledger) [movement.event]).answer =
        (checkpoint.judge now movement).answer := by
  cases judged : (checkpoint.judge now movement).answer with
  | error refusal => rw [Outcome.andThen, judged]; exact judged
  | ok =>
      rcases written_of_judge balanced judged with ⟨ledger, written, _⟩
      rw [Outcome.andThen, judged]
      simp only [written]
      rfl

private theorem counts_movement (balanced : checkpoint.gate.ledger.Balanced) (now : Seconds)
    (movement : Movement) :
    let outcome := checkpoint.perform now movement.command
    outcome.Counts (decisionsOf movement.operation outcome.answer) := by
  intro outcome
  have performed : outcome = _ := checkpoint.perform_movement now movement
  rw [performed]
  cases turnedAway : verdict (movement.callerConditions checkpoint.gate.authority) with
  | error refusal =>
      rw [Outcome.guarded_error]
      exact (decisionsOf_of_caller turnedAway).symm ▸ Outcome.counts_refused ..
  | ok =>
      rw [Outcome.guarded_ok, answer_settled balanced, decisionsOf_of_judge balanced]
      exact (counts_decision ..).andThen fun charged => counts_settle charged ..

/-- What is counted when an operation, or none, was answered like this. -/
def decisionsOf? (operation : Option Operation) (answer : Except Refusal Unit) :
    List Reading :=
  operation.elim [] fun operation => decisionsOf operation answer

private theorem decisionsOf_of_ne_mint {operation : Operation} (other : operation ≠ .mint)
    (answer : Except Refusal Unit) :
    decisionsOf operation answer = decisionReadings operation answer := by
  cases answer with
  | ok => rfl
  | error refusal => exact if_neg fun turnedAway => other turnedAway.1

theorem counts_perform (balanced : checkpoint.gate.ledger.Balanced) (now : Seconds)
    (command : Gate.Command) :
    let outcome := checkpoint.perform now command
    outcome.Counts (decisionsOf? command.operation? outcome.answer) := by
  cases command using Gate.Command.byMovement with
  | movement movement =>
      rw [movement.operation?_command]
      exact counts_movement balanced now movement
  | admitTransfer asset source destination amount =>
      intro outcome
      change outcome.Counts (decisionsOf .admission outcome.answer)
      rw [decisionsOf_of_ne_mint (by decide)]
      exact counts_decision ..
  | recordConsumption position amount =>
      intro outcome
      change outcome.Counts (decisionsOf .consumption outcome.answer)
      rw [decisionsOf_of_ne_mint (by decide)]
      exact counts_recordConsumption ..
  | assignMinter caller account held => exact Authority.counts_reassign ..
  | setChecks | setPaused | replaceWhitelist | replaceLimiter =>
      exact (Outcome.counts_accepted _ _ rfl).guarded ..
  | recover caller asset destination amount => exact counts_recover ..
  | deposit asset amount => exact counts_settle ..

theorem counts_handle (balanced : checkpoint.gate.ledger.Balanced) (now : Seconds)
    (request : Request) :
    let outcome := checkpoint.handle now request
    outcome.Counts (decisionsOf? request.operation? outcome.answer) := by
  cases request with
  | regrant => exact counts_regrant ..
  | execute command =>
      cases command with
      | whitelist caller command =>
          exact (checkpoint.whitelist.counts_perform caller command).within
            fun whitelist => { checkpoint with whitelist }
      | limiter caller command =>
          exact (checkpoint.limiter.counts_perform now caller command).within _
      | gate command => exact counts_perform balanced now command

theorem balanced_handleAt (balanced : checkpoint.gate.ledger.Balanced)
    (call : Timed Request) : (checkpoint.handleAt call).world.gate.ledger.Balanced :=
  (entered_handle balanced (show checkpoint.ActsAs checkpoint.gate.identity from rfl)
    call.now call.command).balanced balanced

end Checkpoint

/-! ## Steps -/

namespace Step

variable (step : Step Checkpoint (Timed Checkpoint.Request))

def asks (operation : Operation) : Bool :=
  step.call.command.operation? = some operation

/-- The refusal that the caller got is of this kind. -/
def isRefused (kind : Refusal → Bool) : Bool :=
  match step.outcome.answer with
  | .ok () => false
  | .error refusal => kind refusal

/-- A mint was refused since its caller is no minter or the receiver is the null account. -/
def turnedAway : Bool :=
  step.asks .mint && step.isRefused Refusal.precedesDecision

/-- An operation was asked for and decided on. -/
def isDecided : Bool :=
  step.call.command.operation?.isSome && !step.turnedAway

def decisions : List Reading :=
  Checkpoint.decisionsOf? step.call.command.operation? step.outcome.answer

private theorem decisions_of_undecided (undecided : step.isDecided = false) :
    step.decisions = [] := by
  rw [isDecided, turnedAway, asks, isRefused] at undecided
  rw [decisions]
  cases asked : step.call.command.operation? with
  | none => rfl
  | some operation =>
      cases answered : step.outcome.answer with
      | ok => simp [asked, answered] at undecided
      | error refusal =>
          have early : operation = .mint ∧ refusal.precedesDecision = true := by
            simpa [asked, answered] using undecided
          exact if_pos early

private theorem decisions_of_decided (decided : step.isDecided = true) {operation : Operation}
    (asked : step.call.command.operation? = some operation) :
    step.decisions = Checkpoint.decisionReadings operation step.outcome.answer := by
  rw [isDecided, turnedAway, asks, isRefused] at decided
  rw [decisions, asked]
  cases answered : step.outcome.answer with
  | ok => rfl
  | error refusal =>
      have late : ¬(operation = .mint ∧ refusal.precedesDecision = true) := by
        simpa [asked, answered, imp_iff_not_or] using decided
      exact if_neg late

private theorem accepted_eq_false_of_turnedAway (turnedAway : step.turnedAway = true) :
    step.accepted = false := by
  rw [Step.turnedAway, isRefused, Bool.and_eq_true] at turnedAway
  rw [accepted]
  cases answered : step.outcome.answer with
  | ok => simp [answered] at turnedAway
  | error refusal => rfl

private theorem isDecided_of_asks {operation : Operation} (asked : step.asks operation = true) :
    step.isDecided = !step.turnedAway := by
  rw [isDecided, of_decide_eq_true asked]
  rfl

/-- What is counted is what the decision says, if there was one. -/
private theorem count_decisions {reading : Reading} {counted : Bool}
    (decided : ∀ operation, step.call.command.operation? = some operation →
      step.isDecided = true →
      (Checkpoint.decisionReadings operation step.outcome.answer).count reading = counted.toNat)
    (undecided : step.isDecided = false → counted = false) :
    step.decisions.count reading = counted.toNat := by
  cases status : step.isDecided with
  | false =>
      rw [decisions_of_undecided step status, undecided status]
      rfl
  | true =>
      have some : step.call.command.operation?.isSome = true := by
        rw [isDecided, Bool.and_eq_true] at status
        exact status.1
      rcases Option.isSome_iff_exists.mp some with ⟨operation, asked⟩
      rw [decisions_of_decided step status asked]
      exact decided operation asked status

theorem count_admitted (operation : Operation) :
    step.decisions.count (.decision operation true) =
      (step.asks operation && step.accepted).toNat := by
  refine count_decisions step (fun other asked _ => ?_) fun undecided => ?_
  · rw [asks, asked, accepted]
    cases step.outcome.answer <;>
      simp [Checkpoint.decisionReadings, Except.isOk, Except.toBool, Bool.toNat, List.count_cons]
  · cases asked : step.asks operation with
    | false => rfl
    | true =>
        have turnedAway : step.turnedAway = true := by
          simpa [isDecided_of_asks step asked] using undecided
        exact accepted_eq_false_of_turnedAway step turnedAway

theorem count_rejected (operation : Operation) :
    step.decisions.count (.decision operation false) =
      (step.asks operation && !step.accepted && step.isDecided).toNat := by
  refine count_decisions step (fun other asked decided => ?_) fun undecided => ?_
  · rw [decided, asks, asked, accepted]
    cases step.outcome.answer <;>
      simp [Checkpoint.decisionReadings, Except.isOk, Except.toBool, Bool.toNat, List.count_cons]
  · rw [undecided, Bool.and_false]

theorem count_rejection (reason : String) :
    step.decisions.count (.rejection reason) =
      (step.isDecided && step.isRefused (·.reason = reason)).toNat := by
  refine count_decisions step (fun other _ decided => ?_) fun undecided => ?_
  · rw [decided, isRefused]
    cases step.outcome.answer <;>
      simp [Checkpoint.decisionReadings, Bool.toNat, List.count_cons]
  · rw [undecided, Bool.false_and]

/-- Of an operation other than a mint every refusal is decided on. -/
private theorem rejected_of_ne_mint {operation : Operation} (other : operation ≠ .mint) :
    (step.asks operation && !step.accepted && step.isDecided) =
      (step.asks operation && !step.accepted) := by
  cases asked : step.asks operation with
  | false => rfl
  | true =>
      have noMint : step.asks .mint = false := by
        rw [asks, of_decide_eq_true asked]
        simp [other]
      rw [isDecided_of_asks step asked, turnedAway, noMint, Bool.false_and, Bool.not_false,
        Bool.and_true]

private theorem rejected_mint :
    (step.asks .mint && !step.accepted && step.isDecided) =
      (step.asks .mint && !step.accepted && !step.turnedAway) := by
  cases asked : step.asks .mint with
  | false => rfl
  | true => rw [isDecided_of_asks step asked]

/-! ### One refusal, one label and one operation -/

private theorem sum_rejections :
    ∑ reason ∈ Refusal.reasons,
        (step.isDecided && step.isRefused (·.reason = reason)).toNat =
      (step.isDecided && !step.accepted).toNat := by
  cases step.isDecided with
  | false => exact Finset.sum_const_zero
  | true =>
      rw [accepted]
      simp only [Bool.true_and, isRefused]
      cases step.outcome.answer with
      | ok => exact Finset.sum_const_zero
      | error refusal =>
          rw [Finset.sum_eq_single_of_mem refusal.reason refusal.reason_mem_reasons]
          · simp [Except.isOk, Except.toBool]
          · intro reason _ other
            simp [Ne.symm other]

private theorem sum_rejected :
    ∑ operation, (step.asks operation && !step.accepted && step.isDecided).toNat =
      (step.isDecided && !step.accepted).toNat := by
  cases decided : step.isDecided with
  | false => simp
  | true =>
      rw [isDecided, Bool.and_eq_true] at decided
      rcases Option.isSome_iff_exists.mp decided.1 with ⟨asked, found⟩
      rw [Finset.sum_eq_single_of_mem asked (Finset.mem_univ asked)]
      · simp [asks, found]
      · intro operation _ other
        simp [asks, found, Ne.symm other]

end Step

/-- Where every item is counted under one label or under none, the labels together count the
items. -/
private theorem sum_countP {Item Label : Type} (labels : Finset Label) {under : Label → Item → Bool}
    {counted : Item → Bool}
    (once : ∀ item, ∑ label ∈ labels, (under label item).toNat = (counted item).toNat)
    (items : List Item) :
    ∑ label ∈ labels, items.countP (under label) = items.countP counted := by
  have step (holds : Item → Bool) (item : Item) (rest : List Item) :
      (item :: rest).countP holds = rest.countP holds + (holds item).toNat := by
    rw [List.countP_cons]
    cases holds item <;> rfl
  induction items with
  | nil => exact Finset.sum_const_zero
  | cons item rest induction =>
      simp only [step, Finset.sum_add_distrib, induction, once]

namespace Checkpoint

theorem total_handleAt {checkpoint : Checkpoint}
    (balanced : checkpoint.gate.ledger.Balanced) (call : Timed Request) {reading : Reading}
    (decision : reading.isDecision = true) :
    Meter.total (checkpoint.handleAt call).recorded reading =
      (Step.mk call (checkpoint.handleAt call)).decisions.count reading :=
  (counts_handle balanced call.now call.command).total_recorded decision

section Runs

variable {start : Checkpoint} (origin : start.gate.Origin) (calls : List (Timed Request))

include origin

theorem total_of_step {reading : Reading} (decision : reading.isDecision = true)
    {counted : Step Checkpoint (Timed Request) → Bool}
    (step : ∀ step : Step Checkpoint (Timed Request),
      step.decisions.count reading = (counted step).toNat) :
    Meter.total (Run.recorded handleAt start calls) reading =
      (Run.trace handleAt start calls).countP counted := by
  apply Run.total_recorded (fun checkpoint : Checkpoint => checkpoint.gate.ledger.Balanced)
    (fun _ call balanced => balanced_handleAt balanced call) _ origin.balanced
  intro checkpoint call balanced
  exact (total_handleAt balanced call decision).trans (step _)

/-- Since the origin of the gate, every operation is counted as admitted as often as it was
accepted and as rejected as often as it was refused, but for the mints that were turned away
before they were decided on. Every rejection is counted once more, under the label of the
refusal that the caller got. -/
theorem decisions_counted :
    let trace := Run.trace handleAt start calls
    let total := Meter.total (Run.recorded handleAt start calls)
    (∀ operation, total (.decision operation true) =
        trace.countP fun step => step.asks operation && step.accepted) ∧
      (∀ operation, operation ≠ .mint → total (.decision operation false) =
        trace.countP fun step => step.asks operation && !step.accepted) ∧
      (total (.decision .mint false) =
        trace.countP fun step => step.asks .mint && !step.accepted && !step.turnedAway) ∧
      (∀ reason, total (.rejection reason) =
        trace.countP fun step => step.isDecided && step.isRefused (·.reason = reason)) ∧
      ∑ reason ∈ Refusal.reasons, total (.rejection reason) =
        ∑ operation, total (.decision operation false) := by
  intro trace total
  have admitted (operation : Operation) : total (.decision operation true) = _ :=
    total_of_step origin calls rfl fun step => step.count_admitted operation
  have rejected (operation : Operation) : total (.decision operation false) = _ :=
    total_of_step origin calls rfl fun step => step.count_rejected operation
  have rejection (reason : String) : total (.rejection reason) = _ :=
    total_of_step origin calls rfl fun step => step.count_rejection reason
  refine ⟨admitted, ?others, ?mints, rejection, ?labels⟩
  case others =>
    intro operation other
    simp only [rejected, Step.rejected_of_ne_mint _ other, trace]
  case mints => simp only [rejected, Step.rejected_mint, trace]
  case labels =>
    simp only [rejection, rejected]
    rw [sum_countP _ Step.sum_rejections, sum_countP _ Step.sum_rejected]

end Runs

end Checkpoint

namespace Sample

/-- A transfer and one that comes too early; three mints, by someone else, to nobody and of
too much. -/
def countedCalls : List (Timed Checkpoint.Request) :=
  [⟨1000, .execute (.gate transfer.command)⟩,
    ⟨1001, .execute (.gate transfer.command)⟩,
    ⟨1002, .execute (.gate (.mint payer asset payee ⟨1, by decide⟩))⟩,
    ⟨1003, .execute (.gate (.mint admin asset .zero ⟨1, by decide⟩))⟩,
    ⟨1004, .execute (.gate (.mint admin asset payee ⟨51, by decide⟩))⟩]

def counted (reading : Reading) : Nat :=
  Meter.total (Run.recorded Checkpoint.handleAt checkpoint countedCalls) reading

end Sample

theorem Checkpoint.decisions_counted_sample :
    Sample.checkpoint.gate.Origin ∧
      Sample.counted (.decision .transfer true) = 1 ∧
      Sample.counted (.decision .transfer false) = 1 ∧
      Sample.counted (.decision .mint false) = 1 ∧
      Sample.counted (.rejection "cooldown_not_elapsed") = 1 ∧
      Sample.counted (.rejection "limit_exceeded") = 1 ∧
      ∑ reason ∈ Refusal.reasons, Sample.counted (.rejection reason) =
        ∑ operation, Sample.counted (.decision operation false) := by
  rcases decisions_counted Sample.origin Sample.countedCalls with
    ⟨admitted, rejected, mints, rejection, labels⟩
  exact ⟨Sample.origin, (admitted .transfer).trans (by decide),
    (rejected .transfer (by decide)).trans (by decide), mints.trans (by decide),
    (rejection _).trans (by decide), (rejection _).trans (by decide), labels⟩

end Turnstile
