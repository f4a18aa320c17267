import Turnstile.Proofs.Audit.Collaborators
import Turnstile.Proofs.Checkpoint.Announcement
import Turnstile.Proofs.Limiter.History

namespace Turnstile

/-! The gate, told by its events, whatever is done at it and at its collaborators. With this
every component can be made out from what it publishes. -/

/-- The event tells of a change to the grants or the switches of a gate. -/
def Event.governs : Event → Bool
  | .roleGranted .. | .roleRevoked .. | .configUpdated .. | .paused _ | .unpaused _ => true
  | _ => false

namespace Gate

structure Told (audit : Audit) (gate : Gate) : Prop where
  paused : audit.paused = gate.switches.paused
  whitelistChecks : audit.whitelistChecks = gate.switches.whitelistChecks
  limitChecks : audit.limitChecks = gate.switches.limitChecks
  version : gate.switches.version = UInt64.ofNat audit.revisions
  grants : gate.authority.Told audit.flags

variable {gate : Gate} {audit : Audit}

theorem told_of_founded {identity admin : Address}
    (founded : Gate.founded identity admin = .ok gate) : gate.Told .new := by
  rw [Gate.founded] at founded
  split at founded
  next => cases founded
  next =>
    rcases exists_of_bind_eq_ok founded with ⟨authority, granted, done⟩
    cases done
    exact ⟨rfl, rfl, rfl, rfl, Authority.told_of_founded granted⟩

/-- Other events do not matter. -/
theorem Told.foldl (told : gate.Told audit) {events : List Event}
    (others : ∀ event ∈ events, event.governs = false) :
    gate.Told (events.foldl Audit.note audit) := by
  induction events generalizing audit with
  | nil => exact told
  | cons event rest induction =>
      refine induction ?_ fun other member => others other (.tail event member)
      have other := others event List.mem_cons_self
      cases event with
      | roleGranted | roleRevoked | configUpdated | paused | unpaused => cases other
      | _ => exact ⟨told.paused, told.whitelistChecks, told.limitChecks, told.version, told.grants⟩

end Gate

namespace Checkpoint

private theorem governs_of_isRecord {event : Event} (record : event.isRecord) :
    event.governs = false := by
  cases event with
  | transferRecorded => rfl
  | _ => cases record

private theorem ungoverned_perform (checkpoint : Checkpoint) (now : Seconds)
    {command : Gate.Command} (ungoverned : command.governs = false) :
    (checkpoint.perform now command).Publishes fun event => event.governs = false := by
  cases command using Gate.Command.byMovement with
  | movement movement =>
      rw [perform_movement]
      refine Outcome.Publishes.guarded (Outcome.Publishes.andThen ?_ fun charged => ?_) ..
      · exact (recorded_decision ..).mono fun _ => governs_of_isRecord
      · exact charged.publishes_settle _ (List.forall_mem_singleton.mpr rfl)
  | admitTransfer => exact (recorded_decision ..).mono fun _ => governs_of_isRecord
  | recordConsumption =>
      exact (recorded_recordConsumption ..).mono fun _ => governs_of_isRecord
  | recover =>
      apply Outcome.Publishes.guarded
      split
      · exact Outcome.publishes_refused ..
      · split
        · exact Outcome.publishes_refused ..
        · exact publishes_settle _ _ (List.forall_mem_singleton.mpr rfl)
  | deposit => exact publishes_settle _ _ (List.forall_mem_nil _)
  | replaceWhitelist caller whitelist =>
      exact checkpoint.publishes_asAdmin { checkpoint with whitelist } caller rfl
  | replaceLimiter caller limiter =>
      exact checkpoint.publishes_asAdmin { checkpoint with limiter } caller rfl
  | assignMinter | setChecks | setPaused => cases ungoverned

/-- What governs the gate is not left to its limiter. -/
private theorem unrecorded_perform (checkpoint : Checkpoint) (now : Seconds)
    {command : Gate.Command} (governs : command.governs = true) :
    (checkpoint.perform now command).Publishes fun event => event.isRecord = false := by
  cases command with
  | assignMinter caller account held =>
      refine Authority.publishes_reassign _ _ _ (fun held => ?_) held
      cases held <;> rfl
  | setChecks => exact publishes_asAdmin _ _ _ rfl
  | setPaused caller paused =>
      refine publishes_asAdmin _ _ _ ?_
      cases paused <;> rfl
  | _ => cases governs

/-! ## Calls -/

/-- The gate is told by the audit. -/
def GateTold (audit : Audit) (checkpoint : Checkpoint) : Prop :=
  checkpoint.gate.Told audit

/-- What is published on the gate's own bus: the events of its commands, without the records
of its limiter. -/
def gateBus (step : Step Checkpoint (Timed Command)) : List Event :=
  match step.call.command with
  | .gate _ => step.outcome.events.filter fun event => !event.isRecord
  | .whitelist .. | .limiter .. => []

section Informs

variable {checkpoint : Checkpoint} {audit : Audit}

private theorem informs_setSwitches (told : checkpoint.GateTold audit) (caller : Address)
    {switches : Switches} {event : Event}
    (revised : Gate.Told (audit.note event) { checkpoint.gate with switches }) :
    (checkpoint.asAdmin caller
      (.accepted (checkpoint.withSwitches switches) [event] [])).Informs GateTold audit :=
  Outcome.Informs.guarded ⟨revised⟩ told _

private theorem informs_governing (told : checkpoint.GateTold audit) (now : Seconds)
    {command : Gate.Command} (governs : command.governs = true) :
    (checkpoint.perform now command).Informs GateTold audit := by
  have version : checkpoint.gate.switches.version + 1 = UInt64.ofNat (audit.revisions + 1) := by
    rw [told.version, UInt64.ofNat_add]
    rfl
  cases command with
  | assignMinter =>
      refine Authority.informs_reassign told.grants told nofun fun flags changed grants => ?_
      exact ⟨told.paused, told.whitelistChecks, told.limitChecks, told.version, grants⟩
  | setChecks caller limitChecks whitelistChecks =>
      apply informs_setSwitches told
      exact ⟨told.paused, rfl, rfl, version, told.grants⟩
  | setPaused caller paused =>
      apply informs_setSwitches told
      cases paused <;>
        exact ⟨rfl, told.whitelistChecks, told.limitChecks, version, told.grants⟩
  | _ => cases governs

theorem told_gateBus (told : checkpoint.GateTold audit) (call : Timed Command) :
    GateTold ((gateBus ⟨call, checkpoint.executeAt call⟩).foldl Audit.note audit)
      (checkpoint.executeAt call).world := by
  rcases call with ⟨now, whitelist | limiter | command⟩
  case whitelist | limiter => exact told
  case gate =>
    change GateTold (((checkpoint.perform now command).events.filter fun event =>
      !event.isRecord).foldl Audit.note audit) (checkpoint.perform now command).world
    -- What governs the gate publishes no record, and all else publishes nothing of its state.
    cases governs : command.governs with
    | true =>
        have unrecorded := (checkpoint.unrecorded_perform now governs).kind
        rw [List.filter_eq_self.mpr fun event member => by simp [unrecorded event member]]
        exact (informs_governing told now governs).informed
    | false =>
        have others := (checkpoint.ungoverned_perform now governs).kind
        have governed : checkpoint.GovernedAs checkpoint.gate := ⟨_, rfl⟩
        rcases (governed_perform governed now governs).kept with ⟨ledger, kept⟩
        rw [GateTold, kept]
        have same : Gate.Told audit { checkpoint.gate with ledger } :=
          ⟨told.paused, told.whitelistChecks, told.limitChecks, told.version, told.grants⟩
        exact same.foldl fun event member => others event (List.mem_of_mem_filter member)

end Informs

end Checkpoint

/-! ## Runs -/

/-- For every role and account, grants and revocations alternate, and a grant comes first. -/
def Event.Alternate (events : List Event) : Prop :=
  ∀ role account, (false :: events.filterMap (Event.flag? ⟨role, account⟩)).IsChain (· ≠ ·)

theorem Authority.Told.alternate {authority : Authority} {events : List Event}
    (told : authority.Told (Audit.ofEvents events).flags) : Event.Alternate events := by
  intro role account
  have turns := told.turns ⟨role, account⟩
  have flags : (Audit.ofEvents events).flags ⟨role, account⟩ =
      (events.filterMap (Event.flag? ⟨role, account⟩)).reverse :=
    (Audit.flags_foldl ..).trans (List.append_nil _)
  rw [flags, ← List.reverse_cons, List.isChain_reverse] at turns
  exact turns.imp fun _ _ different => different.symm

theorem Whitelist.told_final {admin : Address} {start : Whitelist}
    (founded : Whitelist.founded admin = .ok start) (calls : List (Signed Command)) :
    (Run.final performSigned start calls).Told
      (Audit.ofEvents (Run.published performSigned start calls)) := by
  refine Run.informed Told ?_ (told_of_founded founded)
  intro call _ audit whitelist told
  exact (informs_perform told call.caller call.command).informed

theorem Limiter.told_final {admin : Address} {fallback : Limits} {start : Limiter}
    (founded : Limiter.founded admin fallback = .ok start)
    (calls : List (Timed (Signed Command))) :
    (Run.final performSigned start calls).Told
      (Audit.ofEvents (Run.published performSigned start calls)) := by
  refine Run.informed Told ?_ (told_of_founded founded)
  intro call _ audit limiter told
  exact (informs_perform told call.now call.command.caller call.command.command).informed

theorem Checkpoint.gateTold_final {identity admin : Address} {start : Checkpoint}
    (founded : Gate.founded identity admin = .ok start.gate) (calls : List (Timed Command)) :
    (Run.final executeAt start calls).GateTold
      (Audit.ofEvents (Run.heard executeAt gateBus start calls)) := by
  refine Run.informed GateTold ?_ (Gate.told_of_founded founded)
  intro call _ audit checkpoint told
  exact told_gateBus told call

/-- In any run of a new component, its events alone tell how it is set: the members of a
whitelist and whether it is enabled; the defaults, the exemptions and the totals of a limiter;
the switches of a gate; and of each of them the grants of every role but the administrator's.
Grants and revocations alternate, and the version of the switches counts the events that tell
of them. -/
theorem told_by_events :
    (∀ (admin : Address) (start : Whitelist), Whitelist.founded admin = .ok start →
        ∀ calls : List (Signed Whitelist.Command),
          let events := Run.published Whitelist.performSigned start calls
          (Run.final Whitelist.performSigned start calls).Told (Audit.ofEvents events) ∧
            Event.Alternate events) ∧
      (∀ (admin : Address) (fallback : Limits) (start : Limiter),
        Limiter.founded admin fallback = .ok start →
        ∀ calls : List (Timed (Signed Limiter.Command)),
          let events := Run.published Limiter.performSigned start calls
          (Run.final Limiter.performSigned start calls).Told (Audit.ofEvents events) ∧
            Event.Alternate events) ∧
      (∀ (identity admin : Address) (start : Checkpoint),
        Gate.founded identity admin = .ok start.gate →
        ∀ calls : List (Timed Checkpoint.Command),
          let events := Run.heard Checkpoint.executeAt Checkpoint.gateBus start calls
          let gate := (Run.final Checkpoint.executeAt start calls).gate
          gate.Told (Audit.ofEvents events) ∧ Event.Alternate events ∧
            (events.countP Event.revises < UInt64.size →
              gate.switches.version.toNat = events.countP Event.revises)) := by
  refine ⟨?whitelist, ?limiter, ?gate⟩
  case whitelist =>
    intro admin start founded calls events
    have told := Whitelist.told_final founded calls
    exact ⟨told, told.grants.alternate⟩
  case limiter =>
    intro admin fallback start founded calls events
    have told := Limiter.told_final founded calls
    exact ⟨told, told.grants.alternate⟩
  case gate =>
    intro identity admin start founded calls events gate
    have told : gate.Told (Audit.ofEvents events) :=
      Checkpoint.gateTold_final founded calls
    refine ⟨told, told.grants.alternate, fun bound => ?_⟩
    have counted : (Audit.ofEvents events).revisions = events.countP Event.revises :=
      (Audit.revisions_foldl ..).trans (Nat.zero_add _)
    rw [told.version, counted]
    exact UInt64.toNat_ofNat_of_lt bound

namespace Sample

def newWhitelist : Whitelist where
  enabled := true
  members := .empty
  authority := .ofGrants [⟨.admin, admin⟩]

/-- The second grant is no change, the third command is refused, and an account is named
twice. -/
def whitelistCalls : List (Signed Whitelist.Command) :=
  [⟨admin, .assignWhitelister admin true⟩,
    ⟨admin, .assignWhitelister admin true⟩,
    ⟨payer, .setEnabled false⟩,
    ⟨admin, .setMembership [payer, payee, payer] true⟩,
    ⟨admin, .setMembership [payee] false⟩]

/-- Nothing can be minted while the gate is paused. -/
def gateCalls : List (Timed Checkpoint.Command) :=
  [⟨1000, .gate (.assignMinter admin admin true)⟩,
    ⟨1000, .gate (.setPaused admin true)⟩,
    ⟨1010, .gate (.mint admin asset payer (.ofNat 10))⟩,
    ⟨1020, .gate (.setPaused admin false)⟩,
    ⟨1030, .gate (.mint admin asset payer (.ofNat 10))⟩,
    ⟨1040, .gate (.assignMinter admin admin false)⟩]

def whitelistEvents : List Event :=
  Run.published Whitelist.performSigned newWhitelist whitelistCalls

def gateEvents : List Event :=
  Run.heard Checkpoint.executeAt Checkpoint.gateBus newCheckpoint gateCalls

end Sample

namespace Limiter.Sample

/-- The second charge comes too early, and the third one is exempt. -/
def signedCalls : List (Timed (Signed Command)) :=
  [⟨1000, admin, .assignCaller service true⟩,
    ⟨1000, service, .charge position (.ofNat 30)⟩,
    ⟨1030, service, .charge position (.ofNat 10)⟩,
    ⟨1040, admin,
      .setExemptions position.asset [position.account, position.account] [false, true]⟩,
    ⟨1050, service, .charge position (.ofNat 10)⟩]

def events : List Event := Run.published performSigned start signedCalls

end Limiter.Sample

theorem told_by_events_sample :
    (Run.final Whitelist.performSigned Sample.newWhitelist Sample.whitelistCalls).isMember
        Sample.payer = (Audit.ofEvents Sample.whitelistEvents).member Sample.payer ∧
      (Audit.ofEvents Sample.whitelistEvents).member Sample.payer = true ∧
      (Run.final Limiter.performSigned Limiter.Sample.start Limiter.Sample.signedCalls).Told
        (Audit.ofEvents Limiter.Sample.events) ∧
      (Audit.ofEvents Limiter.Sample.events).total Limiter.Sample.position = .ofNat 30 ∧
      Event.Alternate Sample.gateEvents ∧
      (Run.final Checkpoint.executeAt Sample.newCheckpoint
        Sample.gateCalls).gate.switches.version.toNat = 2 := by
  have whitelist := told_by_events.1 Sample.admin Sample.newWhitelist rfl Sample.whitelistCalls
  have limiter := told_by_events.2.1 Limiter.Sample.admin Limiter.Sample.fallback
    Limiter.Sample.start Limiter.Sample.founded Limiter.Sample.signedCalls
  have gate := told_by_events.2.2 Sample.identity Sample.admin Sample.newCheckpoint
    Sample.founded Sample.gateCalls
  refine ⟨(whitelist.1.member _).symm, rfl, limiter.1, rfl, gate.2.1, ?_⟩
  exact gate.2.2 (by decide)

end Turnstile
