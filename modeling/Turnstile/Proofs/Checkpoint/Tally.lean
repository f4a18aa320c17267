import Turnstile.Proofs.Checkpoint.Announcement
import Turnstile.Proofs.Run

namespace Turnstile

/-! Balances and supplies made out from the published events. A reader takes the null
identity at an end of a transfer for nobody, as it is meant where an amount is minted or
burned, and adds up. But a transfer can be made to the null identity as to any other account:
the amount is then held by it, and destroyed for the reader. All else the reader knows. -/

/-! ## Postings as they are published -/

namespace Address

/-- Who holds what is published to be at the account. -/
def holder? (account : Address) : Option Address :=
  if account = .zero then none else some account

@[simp] theorem holder?_eq_none_iff {account : Address} :
    account.holder? = none ↔ account = .zero := by
  simp [holder?]

@[simp] theorem holder?_eq_some_iff {account holder : Address} :
    account.holder? = some holder ↔ holder ≠ .zero ∧ account = holder := by
  rw [holder?]
  split
  next null => simp [null, eq_comm]
  next named =>
    constructor
    · intro same
      cases same
      exact ⟨named, rfl⟩
    · exact fun both => congrArg some both.2

end Address

def Event.posting? (identity : Address) : Event → Option Posting
  | .transfer asset source destination amount =>
      some ⟨asset, source.holder?, destination.holder?, amount⟩
  | .tokensRecovered asset destination amount => some ⟨asset, identity, destination, amount⟩
  | _ => none

namespace Posting

/-- The posting as its event tells it. -/
def published (posting : Posting) : Posting :=
  { posting with
    source := posting.source.bind Address.holder?
    destination := posting.destination.bind Address.holder? }

section

variable (posting : Posting)

private theorem debit_published {position : Position} (named : position.account ≠ .zero) :
    posting.published.debit position = posting.debit position := by
  simp [debit, published, Option.bind_eq_some_iff, named]

private theorem credit_published {position : Position} (named : position.account ≠ .zero) :
    posting.published.credit position = posting.credit position := by
  simp [credit, published, Option.bind_eq_some_iff, named]

@[simp] theorem debit_published_null (asset : Address) :
    posting.published.debit ⟨asset, .zero⟩ = 0 := by
  simp [debit, published, Option.bind_eq_some_iff]

@[simp] theorem credit_published_null (asset : Address) :
    posting.published.credit ⟨asset, .zero⟩ = 0 := by
  simp [credit, published, Option.bind_eq_some_iff]

/-! What the null identity gives seems created, and what it receives destroyed. -/

private theorem created_published (asset : Address) :
    posting.published.created asset =
      posting.created asset + posting.debit ⟨asset, .zero⟩ := by
  rcases posting with ⟨other, _ | source, destination, amount⟩ <;>
    by_cases same : other = asset <;> simp [created, debit, published, same]

private theorem destroyed_published (asset : Address) :
    posting.published.destroyed asset =
      posting.destroyed asset + posting.credit ⟨asset, .zero⟩ := by
  rcases posting with ⟨other, source, _ | destination, amount⟩ <;>
    by_cases same : other = asset <;> simp [destroyed, credit, published, same]

end

end Posting

theorem Movement.posting?_event (movement : Movement) (identity : Address) :
    movement.event.posting? identity = some movement.posting.published := by
  cases movement <;> simp [event, posting, Event.posting?, Posting.published, amount]

/-! ## Tallies -/

/-- Balances and supplies as a reader of postings counts them. -/
structure Tally where
  balance : Position → Int
  supply : Address → Int

namespace Tally

def empty : Tally where
  balance _ := 0
  supply _ := 0

def post (tally : Tally) (posting : Posting) : Tally where
  balance position :=
    tally.balance position + posting.credit position - posting.debit position
  supply asset := tally.supply asset + posting.created asset - posting.destroyed asset

def note (identity : Address) (tally : Tally) (event : Event) : Tally :=
  (event.posting? identity).elim tally tally.post

/-- The tally after the events of a call that has entered a posting, or none. -/
def enter (tally : Tally) (posting : Option Posting) : Tally :=
  posting.elim tally fun posting => tally.post posting.published

def ofEvents (identity : Address) (events : List Event) : Tally :=
  events.foldl (note identity) empty

private theorem foldl_note_of_none {identity : Address} {events : List Event} (tally : Tally)
    (silent : ∀ event ∈ events, event.posting? identity = none) :
    events.foldl (note identity) tally = tally := by
  induction events with
  | nil => rfl
  | cons event rest induction =>
      rw [List.foldl_cons, note, silent event List.mem_cons_self]
      exact induction fun other member => silent other (.tail event member)

/-- The tally says of the asset what the book says. -/
structure Reproduces (tally : Tally) (ledger : Ledger) (asset : Address) : Prop where
  balance : ∀ account,
    tally.balance ⟨asset, account⟩ = (ledger.balance ⟨asset, account⟩).toNat
  supply : tally.supply asset = (ledger.supply asset).toNat

/-- The tally differs from the book in what the null identity holds, and in nothing else. -/
structure Agrees (tally : Tally) (ledger : Ledger) : Prop where
  named : ∀ position, position.account ≠ .zero →
    tally.balance position = (ledger.balance position).toNat
  null : ∀ asset, tally.balance ⟨asset, .zero⟩ = 0
  supply : ∀ asset,
    tally.supply asset + (ledger.balance ⟨asset, .zero⟩).toNat = (ledger.supply asset).toNat

private theorem agrees_empty : empty.Agrees .empty where
  named _ _ := rfl
  null _ := rfl
  supply _ := rfl

section Agrees

variable {tally : Tally} {before after ledger : Ledger}

theorem Agrees.post {posting : Posting} (agrees : tally.Agrees before)
    (posted : Ledger.Posted posting before after) :
    (tally.post posting.published).Agrees after where
  named position named := by
    have balance := posted.balances position
    have counted := agrees.named position named
    simp only [Tally.post, posting.credit_published named, posting.debit_published named]
    omega
  null asset := by
    simp [Tally.post, agrees.null]
  supply asset := by
    -- What goes to or from the null identity leaves the supply of the book alone.
    have supply := posted.supplies asset
    have null := posted.balances ⟨asset, .zero⟩
    have counted := agrees.supply asset
    simp only [Tally.post, posting.created_published, posting.destroyed_published]
    omega

theorem Agrees.enter {posting : Option Posting} (agrees : tally.Agrees before)
    (entered : Ledger.Entered posting before after) : (tally.enter posting).Agrees after := by
  cases posting with
  | some posting => exact agrees.post entered
  | none =>
      rw [show after = before from entered]
      exact agrees

/-- Of one asset the tally says everything just where the null identity holds none of it. -/
theorem Agrees.reproduces_iff (agrees : tally.Agrees ledger) (asset : Address) :
    tally.Reproduces ledger asset ↔ ledger.balance ⟨asset, .zero⟩ = .zero := by
  constructor
  · intro reproduces
    have null := reproduces.balance .zero
    rw [agrees.null asset] at null
    exact Amount.ext_toNat (Int.ofNat_inj.mp null.symm)
  · intro nothing
    refine ⟨fun account => ?_, ?_⟩
    · by_cases null : account = .zero
      · rw [null, agrees.null, nothing]
        rfl
      · exact agrees.named ⟨asset, account⟩ null
    · have supply := agrees.supply asset
      rw [nothing] at supply
      simpa using supply

end Agrees

end Tally

theorem Ledger.Entered.balance {posting : Option Posting} {before after : Ledger}
    (entered : Entered posting before after) (position : Position) :
    (after.balance position).toNat + posting.elim 0 (·.debit position) =
      (before.balance position).toNat + posting.elim 0 (·.credit position) := by
  cases posting with
  | some posting => exact Posted.balances entered position
  | none =>
      rw [show after = before from entered]
      rfl

/-! ## Events without a posting -/

def Event.Unposted (event : Event) : Prop :=
  ∀ identity, event.posting? identity = none

private theorem Event.unposted_of_isRecord {event : Event} (record : event.isRecord) :
    event.Unposted := by
  cases event with
  | transferRecorded => exact fun _ => rfl
  | _ => cases record

private theorem Authority.unposted_reassign {World : Type} (world : World) (authority : Authority)
    (install : Authority → World) (caller : Address) (role : Role) (account : Address)
    (held : Bool) :
    (authority.reassign world install caller role account held).Publishes Event.Unposted := by
  refine publishes_reassign world authority install (fun held => ?_) held
  cases held <;> exact fun _ => rfl

private theorem Whitelist.unposted_perform (whitelist : Whitelist) (caller : Address)
    (command : Command) :
    (whitelist.perform caller command).Publishes Event.Unposted := by
  cases command with
  | setMembership accounts whitelisted =>
      refine (Outcome.publishes_accepted _ ?_ _).guarded ..
      exact List.forall_mem_map.mpr fun _ _ _ => rfl
  | setEnabled enabled =>
      refine (Outcome.publishes_accepted _ ?_ _).guarded ..
      exact List.forall_mem_singleton.mpr fun _ => rfl
  | assignWhitelister | assignCaller => exact Authority.unposted_reassign ..

namespace Limiter

private theorem unposted_updateDefaults (limiter : Limiter) (caller asset : Address)
    (change : Limits → Limits) :
    (limiter.updateDefaults caller asset change).Publishes Event.Unposted :=
  (Outcome.publishes_accepted _ (List.forall_mem_singleton.mpr fun _ => rfl) _).guarded ..

private theorem unposted_updateOverrides (limiter : Limiter) (caller : Address)
    (position : Position) (change : Overrides → Overrides) :
    (limiter.updateOverrides caller position change).Publishes Event.Unposted :=
  (Outcome.publishes_accepted _ (List.forall_mem_singleton.mpr fun _ => rfl) _).guarded ..

private theorem unposted_enforcement (limiter : Limiter) (now : Seconds) (caller : Address)
    (enforcement : Enforcement) (position : Position) :
    (limiter.perform now caller (enforcement.command position)).Publishes Event.Unposted :=
  (limiter.recorded_enforcement ..).mono fun _ => Event.unposted_of_isRecord

theorem unposted_perform (limiter : Limiter) (now : Seconds) (caller : Address)
    (command : Command) :
    (limiter.perform now caller command).Publishes Event.Unposted := by
  cases command with
  | assignManager | assignCaller => exact Authority.unposted_reassign ..
  | setDefaultCap | setDefaultPeriod | setDefaultLimits =>
      exact (unposted_updateDefaults ..).guarded ..
  | setDefaultCooldown asset cooldown =>
      exact limiter.unposted_updateDefaults caller asset fun limits => { limits with cooldown }
  | setUserCap | setUserPeriod | setUserLimits =>
      exact (unposted_updateOverrides ..).guarded ..
  | setUserCooldown position cooldown =>
      exact limiter.unposted_updateOverrides caller position (·.setCooldown cooldown)
  | resetUserLimits | resetUserPeriod =>
      refine (Outcome.publishes_accepted _ ?_ _).guarded ..
      exact List.forall_mem_singleton.mpr fun _ => rfl
  | setExemptions asset accounts exempt =>
      refine ((Outcome.publishes_accepted _ ?_ _).guarded ..).guarded ..
      exact List.forall_mem_map.mpr fun _ _ _ => rfl
  | enforceCooldown position => exact limiter.unposted_enforcement now caller .pace position
  | recordTransfer position amount =>
      exact limiter.unposted_enforcement now caller (.consume amount) position
  | charge position amount =>
      exact limiter.unposted_enforcement now caller (.charge amount) position

end Limiter

/-! ## Accepted commands -/

def Gate.Command.deposits : Gate.Command → Bool
  | .deposit .. => true
  | _ => false

namespace Checkpoint

private theorem foldl_note_of_unposted {outcome : Outcome Checkpoint}
    (unposted : outcome.Publishes Event.Unposted) (identity : Address) (tally : Tally) :
    outcome.events.foldl (Tally.note identity) tally = tally :=
  tally.foldl_note_of_none fun event member => unposted.kind event member identity

private theorem foldl_note_movement {checkpoint : Checkpoint}
    (balanced : checkpoint.gate.ledger.Balanced) {now : Seconds} (movement : Movement)
    (accepted : (checkpoint.perform now movement.command).answer = .ok ())
    (identity : Address) (tally : Tally) :
    (checkpoint.perform now movement.command).events.foldl (Tally.note identity) tally =
      tally.enter (some movement.posting) := by
  rcases events_movement balanced accepted with ⟨records, recorded, events⟩
  have silent : records.foldl (Tally.note identity) tally = tally :=
    tally.foldl_note_of_none fun event member =>
      Event.unposted_of_isRecord (recorded event member) identity
  rw [events, List.foldl_append, silent, List.foldl_cons, List.foldl_nil, Tally.note,
    movement.posting?_event]
  rfl

/-- The events of an accepted command tell its posting, unless it is a deposit, of which
nothing is told. -/
theorem foldl_note_perform {checkpoint : Checkpoint} {identity : Address}
    (balanced : checkpoint.gate.ledger.Balanced) (named : identity ≠ .zero) (now : Seconds)
    {command : Gate.Command}
    (undeposited : command.deposits = false)
    (accepted : (checkpoint.perform now command).answer = .ok ()) (tally : Tally) :
    (checkpoint.perform now command).events.foldl (Tally.note identity) tally =
      tally.enter (command.posting? identity) := by
  have silent (unposted : (checkpoint.perform now command).Publishes Event.Unposted) :=
    foldl_note_of_unposted unposted identity tally
  cases command using Gate.Command.byMovement with
  | movement movement =>
      rw [movement.posting?_command]
      exact foldl_note_movement balanced movement accepted identity tally
  | recover caller asset destination amount =>
      rcases events_recover accepted with ⟨other, events⟩
      rw [perform, events]
      simp [Tally.note, Tally.enter, Event.posting?, Gate.Command.posting?, Posting.published,
        Address.holder?, named, other]
  | deposit => cases undeposited
  | admitTransfer =>
      exact silent ((recorded_decision ..).mono fun _ => Event.unposted_of_isRecord)
  | recordConsumption =>
      exact silent ((recorded_recordConsumption ..).mono fun _ => Event.unposted_of_isRecord)
  | assignMinter => exact silent (Authority.unposted_reassign ..)
  | setPaused caller paused =>
      refine silent (publishes_asAdmin _ _ _ ?_)
      cases paused <;> exact fun _ => rfl
  | setChecks | replaceWhitelist | replaceLimiter =>
      exact silent (publishes_asAdmin _ _ _ fun _ => rfl)

/-! ## Requests -/

namespace Request

def posting? (identity : Address) : Request → Option Posting
  | .execute command => command.posting? identity
  | .regrant .. => none

def deposits : Request → Bool
  | .execute (.gate command) => command.deposits
  | _ => false

/-- What a position gives, if the request is accepted. -/
def debit (identity : Address) (position : Position) (request : Request) : Nat :=
  (request.posting? identity).elim 0 (·.debit position)

/-- What a position receives, if the request is accepted. -/
def credit (identity : Address) (position : Position) (request : Request) : Nat :=
  (request.posting? identity).elim 0 (·.credit position)

end Request

/-- The book of the gate that acts under an identity, and what a reader makes of it. -/
structure Told (identity : Address) (tally : Tally) (checkpoint : Checkpoint) : Prop where
  balanced : checkpoint.gate.ledger.Balanced
  same : checkpoint.ActsAs identity
  agrees : tally.Agrees checkpoint.gate.ledger

section Handle

variable {checkpoint : Checkpoint} {identity : Address}

theorem ledger_regrant (checkpoint : Checkpoint) (component : Component) (caller : Address)
    (role : Role) (account : Address) (held : Bool) :
    (checkpoint.regrant component caller role account held).world.gate.ledger =
        checkpoint.gate.ledger ∧
      (checkpoint.regrant component caller role account held).events = [] := by
  rw [regrant]
  split
  next => exact ⟨rfl, rfl⟩
  next => cases component <;> exact ⟨rfl, rfl⟩

/-- A request enters its posting if it is accepted, and else nothing. -/
theorem entered_handle (balanced : checkpoint.gate.ledger.Balanced)
    (same : checkpoint.ActsAs identity) (now : Seconds) (request : Request) :
    Ledger.Entered
      (if (checkpoint.handle now request).answer.isOk then request.posting? identity else none)
      checkpoint.gate.ledger (checkpoint.handle now request).world.gate.ledger := by
  cases request with
  | regrant component caller role account held =>
      have kept := (ledger_regrant checkpoint component caller role account held).1
      change Ledger.Entered (if _ then none else none) _ _
      rw [ite_self]
      exact kept
  | execute command =>
      rw [handle]
      cases answer : (checkpoint.execute now command).answer with
      | ok =>
          have entered := entered_execute balanced now command answer
          rw [show checkpoint.gate.identity = identity from same] at entered
          exact entered
      | error refusal => exact ledger_execute_of_error balanced answer

theorem foldl_note_handle (balanced : checkpoint.gate.ledger.Balanced)
    (named : identity ≠ .zero) (now : Seconds) {request : Request}
    (undeposited : request.deposits = false) (tally : Tally) :
    (checkpoint.handle now request).events.foldl (Tally.note identity) tally =
      tally.enter
        (if (checkpoint.handle now request).answer.isOk then request.posting? identity
          else none) := by
  cases request with
  | regrant component caller role account held =>
      have silent := (ledger_regrant checkpoint component caller role account held).2
      rw [handle, silent]
      simp [Request.posting?, Tally.enter]
  | execute command =>
      rw [handle]
      cases answer : (checkpoint.execute now command).answer with
      | error refusal =>
          rw [(atomic_execute balanced now command).silent refusal answer]
          rfl
      | ok =>
          cases command with
          | whitelist =>
              exact foldl_note_of_unposted ((Whitelist.unposted_perform ..).within _) identity
                tally
          | limiter =>
              exact foldl_note_of_unposted ((Limiter.unposted_perform ..).within _) identity
                tally
          | gate command => exact foldl_note_perform balanced named now undeposited answer tally

theorem Told.handle {tally : Tally} (told : Told identity tally checkpoint)
    (named : identity ≠ .zero) (now : Seconds) {request : Request}
    (undeposited : request.deposits = false) :
    Told identity ((checkpoint.handle now request).events.foldl (Tally.note identity) tally)
      (checkpoint.handle now request).world := by
  have entered := entered_handle told.balanced told.same now request
  refine ⟨entered.balanced told.balanced, (told.same.keeps_handle now request).kept, ?_⟩
  rw [foldl_note_handle told.balanced named now undeposited]
  exact told.agrees.enter entered

end Handle

/-! ## Runs -/

def handleAt (checkpoint : Checkpoint) (call : Timed Request) : Outcome Checkpoint :=
  checkpoint.handle call.now call.command

section Runs

variable {start : Checkpoint} {identity admin : Address}

theorem balanced_of_founded {gate : Gate} (founded : Gate.founded identity admin = .ok gate) :
    gate.ledger.Balanced :=
  Gate.Origin.balanced (.founded founded)

private theorem named_of_founded {gate : Gate} (founded : Gate.founded identity admin = .ok gate) :
    identity ≠ .zero := by
  rintro rfl
  cases founded

theorem told_of_founded (founded : Gate.founded identity admin = .ok start.gate) :
    Told identity .empty start where
  balanced := balanced_of_founded founded
  same := (Gate.fields_of_founded founded).1
  agrees := by
    rw [(Gate.fields_of_founded founded).2]
    exact Tally.agrees_empty

theorem told_final (founded : Gate.founded identity admin = .ok start.gate)
    {calls : List (Timed Request)}
    (undeposited : ∀ call ∈ calls, call.command.deposits = false) :
    Told identity (Tally.ofEvents identity (Run.published handleAt start calls))
      (Run.final handleAt start calls) := by
  have named := named_of_founded founded
  refine Run.informed (Told identity) ?_ (told_of_founded founded)
  intro call member tally checkpoint told
  exact told.handle named call.now (undeposited call member)

theorem balance_handleAt (balanced : start.gate.ledger.Balanced) (same : start.ActsAs identity)
    (call : Timed Request) (position : Position) :
    ((start.handleAt call).world.gate.ledger.balance position).toNat +
        (if (Step.mk call (start.handleAt call)).accepted then
          call.command.debit identity position else 0) =
      (start.gate.ledger.balance position).toNat +
        (if (Step.mk call (start.handleAt call)).accepted then
          call.command.credit identity position else 0) := by
  have entered := (entered_handle balanced same call.now call.command).balance position
  rw [Step.accepted, handleAt]
  by_cases accepted : (start.handle call.now call.command).answer.isOk = true
  · rw [if_pos accepted] at entered ⊢
    rw [if_pos accepted]
    exact entered
  · rw [if_neg accepted] at entered ⊢
    rw [if_neg accepted]
    exact entered

/-- What a position holds is what it has received, less what it has given. -/
theorem balance_final (balanced : start.gate.ledger.Balanced) (same : start.ActsAs identity)
    (calls : List (Timed Request)) (position : Position) :
    ((Run.final handleAt start calls).gate.ledger.balance position).toNat +
        Run.total (fun call => call.command.debit identity position)
          (Run.trace handleAt start calls) =
      (start.gate.ledger.balance position).toNat +
        Run.total (fun call => call.command.credit identity position)
          (Run.trace handleAt start calls) := by
  induction calls generalizing start with
  | nil => rfl
  | cons call rest induction =>
      have entered := entered_handle balanced same call.now call.command
      have here := balance_handleAt balanced same call position
      have later := @induction (start.handleAt call).world (entered.balanced balanced)
        (same.keeps_handle call.now call.command).kept
      simp only [Run.final, Run.trace, Run.total]
      omega

/-- A reader of all that is published since a gate is new, deposits apart, knows of every
asset what each account but the null identity holds. To the reader, that one holds nothing,
and what it holds has left the supply. So the reader knows everything of an asset just where
the null identity holds none of it, as when nothing was ever paid to it. -/
theorem tally_published (founded : Gate.founded identity admin = .ok start.gate)
    {calls : List (Timed Request)}
    (undeposited : ∀ call ∈ calls, call.command.deposits = false) (asset : Address) :
    let tally := Tally.ofEvents identity (Run.published handleAt start calls)
    let ledger := (Run.final handleAt start calls).gate.ledger
    let null : Position := ⟨asset, .zero⟩
    let trace := Run.trace handleAt start calls
    (∀ account, account ≠ .zero →
        tally.balance ⟨asset, account⟩ = (ledger.balance ⟨asset, account⟩).toNat) ∧
      tally.balance null = 0 ∧
      tally.supply asset + (ledger.balance null).toNat = (ledger.supply asset).toNat ∧
      (tally.Reproduces ledger asset ↔ ledger.balance null = .zero) ∧
      (ledger.balance null).toNat +
          Run.total (fun call => call.command.debit identity null) trace =
        Run.total (fun call => call.command.credit identity null) trace := by
  intro tally ledger null trace
  have told : Told identity tally (Run.final handleAt start calls) :=
    told_final founded undeposited
  have fields := Gate.fields_of_founded founded
  have holding := balance_final (balanced_of_founded founded) fields.1 calls null
  rw [fields.2] at holding
  refine ⟨?named, ?null, ?supply, ?exactly, ?holding⟩
  case named => exact fun account named => told.agrees.named ⟨asset, account⟩ named
  case null => exact told.agrees.null asset
  case supply => exact told.agrees.supply asset
  case exactly => exact told.agrees.reproduces_iff asset
  case holding => simpa using holding

end Runs

end Checkpoint

namespace Sample

/-- Ten are minted, and four of them are then sent to the null identity. -/
def strayCalls : List (Timed Checkpoint.Request) :=
  [⟨1000, .execute (.gate (.assignMinter admin admin true))⟩,
    ⟨1000, .execute (.gate (.setChecks admin true false))⟩,
    ⟨1000, .execute (.gate (.mint admin asset payer (.ofNat 10)))⟩,
    ⟨1060, .execute (.gate (.transfer asset payer .zero (.ofNat 4)))⟩]

private theorem undeposited : ∀ call ∈ strayCalls, call.command.deposits = false := by decide

end Sample

/-- Before the amount strays, the reader knows everything. -/
theorem Checkpoint.tally_published_sample :
    let calls := Sample.strayCalls.take 3
    (Tally.ofEvents Sample.identity
        (Run.published handleAt Sample.newCheckpoint calls)).Reproduces
      (Run.final handleAt Sample.newCheckpoint calls).gate.ledger Sample.asset := by
  have undeposited : ∀ call ∈ Sample.strayCalls.take 3, call.command.deposits = false := by
    decide
  have told := tally_published Sample.founded undeposited Sample.asset
  exact told.2.2.2.1.mpr rfl

/-- After that, six are left for the reader, where the book has ten. -/
theorem Checkpoint.tally_strayed_sample :
    Gate.founded Sample.identity Sample.admin = .ok Sample.newCheckpoint.gate ∧
      (∀ call ∈ Sample.strayCalls, call.command.deposits = false) ∧
      let tally := Tally.ofEvents Sample.identity
        (Run.published handleAt Sample.newCheckpoint Sample.strayCalls)
      let ledger := (Run.final handleAt Sample.newCheckpoint Sample.strayCalls).gate.ledger
      tally.supply Sample.asset = 6 ∧ (ledger.supply Sample.asset).toNat = 10 ∧
        tally.balance ⟨Sample.asset, .zero⟩ = 0 ∧
        (ledger.balance ⟨Sample.asset, .zero⟩).toNat = 4 ∧
        ¬tally.Reproduces ledger Sample.asset := by
  refine ⟨Sample.founded, Sample.undeposited, rfl, rfl, rfl, rfl, ?_⟩
  intro reproduces
  exact absurd reproduces.supply (by decide)

end Turnstile
