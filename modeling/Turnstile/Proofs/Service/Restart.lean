import Turnstile.Proofs.Checkpoint.Restoration
import Turnstile.Proofs.Run
import Turnstile.Proofs.Seeds
import Turnstile.Proofs.Wire.Snapshot
import Turnstile.Startup

namespace Turnstile

/-! Services that are stopped and started again. A service starts with one whitelist and one
limiter and works with nothing else unless a collaborator is replaced, so its snapshot holds
all there is to it apart from what is configured anew. Started from that, it goes on as it
would have gone on. -/

/-! ## Seeds -/

/-- No seed puts anything in the place of a collaborator. -/
private theorem Seeds.replaces_of_mem_commands {seeds : Seeds} {command : Checkpoint.Command}
    (member : command ∈ seeds.commands) :
    (Checkpoint.Request.execute command).replaces = false := by
  rw [commands, List.mem_append, List.mem_append, List.mem_map, List.mem_map,
    List.mem_map] at member
  rcases member with (⟨_, _, rfl⟩ | ⟨_, _, rfl⟩) | ⟨given, member, rfl⟩
  · rfl
  · rfl
  · rw [gateCommands, List.mem_append, List.mem_append, List.mem_map,
      List.mem_singleton] at member
    rcases member with (⟨_, _, rfl⟩ | rfl) | member
    · rfl
    · rfl
    · split at member
      · cases List.mem_singleton.mp member
        rfl
      · cases member

/-! ## Sites -/

namespace Site

variable {identity : Address} {fallback : Limits}

/-- Handle a request to what is in use. -/
def handle (site : Site) (request : Checkpoint.Request) : Outcome Site :=
  (site.checkpoint.handle site.now request).within site.withCheckpoint

theorem handle_execute (site : Site) (command : Checkpoint.Command) :
    site.handle (.execute command) = site.execute command := rfl

private theorem ofCheckpoint_withCheckpoint (now : Seconds) (before after : Checkpoint) :
    (ofCheckpoint now before).withCheckpoint after = ofCheckpoint now after := rfl

/-- There is nothing beside what is in use, and all of that can be restored. -/
inductive Restorable (identity : Address) (fallback : Limits) : Site → Prop
  | single (now : Seconds) {checkpoint : Checkpoint} :
      checkpoint.Restorable identity fallback →
      Restorable identity fallback (ofCheckpoint now checkpoint)

theorem Restorable.setTime {site : Site} (restorable : site.Restorable identity fallback)
    (now : Seconds) : (site.setTime now).Restorable identity fallback := by
  cases restorable with
  | single _ restorable => exact .single now restorable

theorem keeps_handle {site : Site} (restorable : site.Restorable identity fallback)
    {request : Checkpoint.Request}
    (unreplaced : request.replaces = true → (site.handle request).answer ≠ .ok ()) :
    (site.handle request).Keeps (Restorable identity fallback) := by
  cases restorable with
  | single now restorable =>
      refine (Checkpoint.keeps_handle restorable now unreplaced).within fun after kept => ?_
      rw [ofCheckpoint_withCheckpoint]
      exact .single now kept

theorem restorable_founded {site : Site} {now : Seconds} {admin : Address}
    (founded : Site.founded now identity admin fallback = .ok site) :
    site.Restorable identity fallback := by
  rcases exists_of_bind_eq_ok founded with ⟨whitelist, _, founded⟩
  rcases exists_of_bind_eq_ok founded with ⟨limiter, limiterFounded, founded⟩
  rcases exists_of_bind_eq_ok founded with ⟨gate, gateFounded, done⟩
  cases done
  rcases Gate.fields_of_founded gateFounded with ⟨sameIdentity, vacant⟩
  have canonical : gate.ledger.Canonical := by
    rw [vacant]
    exact Ledger.canonical_empty
  have same := Limiter.fallsBackTo_of_founded limiterFounded
  exact .single now ⟨sameIdentity, same, canonical⟩

private theorem keeps_seeds {site : Site} (restorable : site.Restorable identity fallback)
    (seeds : Seeds) :
    (Outcome.sequence execute site seeds.commands).Keeps (Restorable identity fallback) := by
  refine Outcome.keeps_sequence restorable fun command member site kept => ?_
  change (site.handle (.execute command)).Keeps _
  refine keeps_handle kept fun replaces => ?_
  cases (Seeds.replaces_of_mem_commands member).symm.trans replaces

end Site

/-! ## Services -/

namespace Service

variable {identity : Address} {fallback : Limits} {path : Option String}
  {service running : Service}

def atTime (service : Service) (now : Seconds) : Service :=
  service.withSite (service.site.setTime now)

/-- Handle a request when the clock shows the time of the call. -/
def handle (service : Service) (call : Timed Checkpoint.Request) : Outcome Service :=
  let timed := service.atTime call.now
  (timed.site.handle call.command).within timed.withSite

theorem handle_execute (service : Service) (now : Seconds) (command : Checkpoint.Command) :
    service.handle ⟨now, .execute command⟩ = (service.atTime now).execute command := rfl

structure Restorable (identity : Address) (fallback : Limits) (path : Option String)
    (service : Service) : Prop where
  site : service.site.Restorable identity fallback
  path : service.path = path

theorem Restorable.atTime (restorable : service.Restorable identity fallback path)
    (now : Seconds) : (service.atTime now).Restorable identity fallback path :=
  ⟨restorable.site.setTime now, restorable.path⟩

theorem keeps_handle (restorable : service.Restorable identity fallback path)
    {call : Timed Checkpoint.Request}
    (unreplaced : call.command.replaces = true → (service.handle call).answer ≠ .ok ()) :
    (service.handle call).Keeps (Restorable identity fallback path) :=
  (Site.keeps_handle (restorable.atTime call.now).site unreplaced).within
    fun _ site => ⟨site, restorable.path⟩

/-- The run puts nothing else in the place of a collaborator. -/
structure Unreplaced (service : Service) (calls : List (Timed Checkpoint.Request)) :
    Prop where
  refused : ∀ step ∈ Run.trace handle service calls, step.call.command.replaces = true →
    step.accepted = false

theorem restorable_final (restorable : service.Restorable identity fallback path)
    {calls : List (Timed Checkpoint.Request)} (unreplaced : service.Unreplaced calls) :
    (Run.final handle service calls).Restorable identity fallback path := by
  induction calls generalizing service with
  | nil => exact restorable
  | cons call rest induction =>
      have refused := unreplaced.refused _ List.mem_cons_self
      have kept := keeps_handle restorable fun replaces accepted => by
        have other := refused replaces
        rw [Step.accepted, accepted] at other
        cases other
      exact induction kept.kept ⟨fun step member => unreplaced.refused step (.tail _ member)⟩

/-! ## Starting -/

theorem restorable_ofSnapshot {seeds : Seeds} {now : Seconds} {snapshot : Snapshot}
    (started : (Startup.ofSnapshot seeds path now snapshot).answer = .ok service) :
    service.Restorable seeds.identity seeds.fallback path := by
  rw [Startup.ofSnapshot] at started
  split at started
  next => cases started
  next checkpoint restored =>
      cases started
      exact ⟨.single now (Checkpoint.restorable_ofSnapshot restored), rfl⟩

private theorem restorable_ofSeeds {seeds : Seeds} {now : Seconds}
    (started : (Startup.ofSeeds seeds path now).answer = .ok service) :
    service.Restorable seeds.identity seeds.fallback path := by
  rw [Startup.ofSeeds] at started
  split at started
  next => cases started
  next site founded =>
      have seeded := Site.keeps_seeds (Site.restorable_founded founded) seeds
      simp only at started
      split at started
      next => cases started
      next =>
          cases started
          exact ⟨seeded.kept, rfl⟩

theorem restorable_of_start {configuration : Configuration} {seeds : Seeds}
    {storage : Storage} {now : Seconds}
    (read : Seeds.ofConfiguration configuration = .ok seeds)
    (started : (start configuration storage now).answer = .ok service) :
    service.Restorable seeds.identity seeds.fallback configuration.persistence.path? := by
  rw [start, read] at started
  simp only at started
  split at started
  next => cases started
  next => exact restorable_ofSeeds started
  next => exact restorable_ofSnapshot started

theorem answer_ofSnapshot {seeds : Seeds} {snapshot : Snapshot} {checkpoint : Checkpoint}
    (restored : Checkpoint.ofSnapshot seeds.identity seeds.fallback snapshot = .ok checkpoint)
    (path : Option String) (now : Seconds) :
    (Startup.ofSnapshot seeds path now snapshot).answer =
      .ok ⟨.ofCheckpoint now checkpoint, path⟩ := by
  rw [Startup.ofSnapshot, restored]
  rfl

theorem start_of_load {configuration : Configuration} {seeds : Seeds} {storage : Storage}
    {place : String} {snapshot : Snapshot}
    (read : Seeds.ofConfiguration configuration = .ok seeds)
    (kept : configuration.persistence.path? = some place)
    (loaded : storage.load = .ok (some snapshot)) (now : Seconds) :
    start configuration storage now = .ofSnapshot seeds (some place) now snapshot := by
  rw [start, read]
  simp only [kept, Option.isSome_some, if_true, loaded]

/-- Only what is not in the snapshot is taken from the configuration. -/
theorem start_of_save {configuration : Configuration} {seeds : Seeds} {place : String}
    (read : Seeds.ofConfiguration configuration = .ok seeds)
    (kept : configuration.persistence.path? = some place)
    (restorable : running.Restorable seeds.identity seeds.fallback (some place))
    {present stored : Storage} (saved : running.save? present = some stored)
    (now : Seconds) :
    (start configuration stored now).answer = .ok (running.atTime now) := by
  rw [save?, restorable.path] at saved
  rw [start_of_load read kept (Storage.load_of_store? saved rfl)]
  rcases running with ⟨site, path⟩
  rcases restorable with ⟨single, rfl⟩
  cases single with
  | single earlier restorable =>
      exact answer_ofSnapshot (restorable.ofSnapshot_snapshot earlier) (some place) now

/-! ## Going on -/

/-- No one who makes calls or takes snapshots can tell the services apart. -/
structure Indistinguishable (left right : Service) : Prop where
  traces : ∀ calls, Run.trace handle left calls = Run.trace handle right calls
  captures : ∀ calls now,
    ((Run.final handle left calls).atTime now).snapshot =
      ((Run.final handle right calls).atTime now).snapshot

theorem trace_atTime (service : Service) (now : Seconds)
    (calls : List (Timed Checkpoint.Request)) :
    Run.trace handle (service.atTime now) calls = Run.trace handle service calls := by
  cases calls with
  | nil => rfl
  | cons call rest => rfl

theorem indistinguishable_atTime (service : Service) (now : Seconds) :
    (service.atTime now).Indistinguishable service := by
  refine ⟨trace_atTime service now, fun calls later => ?_⟩
  cases calls with
  | nil => rfl
  | cons call rest => rfl

/-- Two configurations agree on what snapshots leave out, whatever their seeds. -/
structure Compatible (first second : Configuration) : Prop where
  identity : readPrincipal "service.identity" second.service.identity =
    readPrincipal "service.identity" first.service.identity
  fallback : second.limits.fallback.resolve "limits.fallback" =
    first.limits.fallback.resolve "limits.fallback"
  path : second.persistence.path? = first.persistence.path?

theorem exists_seeds_of_start {configuration : Configuration} {storage : Storage}
    {now : Seconds} (started : (start configuration storage now).answer = .ok service) :
    ∃ seeds, Seeds.ofConfiguration configuration = .ok seeds := by
  rw [start] at started
  cases read : Seeds.ofConfiguration configuration with
  | ok seeds => exact ⟨seeds, rfl⟩
  | error flaws =>
      rw [read] at started
      cases started

private theorem Compatible.same_seeds {first second : Configuration}
    (compatible : Compatible first second) {seeds others : Seeds}
    (read : Seeds.ofConfiguration first = .ok seeds)
    (readOthers : Seeds.ofConfiguration second = .ok others) :
    others.identity = seeds.identity ∧ others.fallback = seeds.fallback := by
  have from_first := Seeds.readFrom_of_ofConfiguration read
  have from_second := Seeds.readFrom_of_ofConfiguration readOthers
  have identity := compatible.identity
  have fallback := compatible.fallback
  rw [from_first.identity, from_second.identity] at identity
  rw [from_first.fallback, from_second.fallback] at fallback
  exact ⟨Except.ok.inj identity, Except.ok.inj fallback⟩

/-- Whatever a service has been asked for since it was started, it can be saved, and the
service started from what was saved, under a configuration that agrees on what snapshots
leave out, is the one that was running, with another time on its clock. -/
theorem restart_indistinguishable {first second : Configuration} {storage : Storage}
    {began : Seconds} {started : Service} {calls : List (Timed Checkpoint.Request)}
    {place : String} (bootstrapped : (start first storage began).answer = .ok started)
    (unreplaced : started.Unreplaced calls) (persistent : first.persistence.path? = some place)
    (valid : second.validate = .ok ()) (compatible : Compatible first second)
    {present : Storage} (free : present ≠ .blocked) (restart : Seconds) :
    let running := Run.final handle started calls
    ∃ stored restored, running.save? present = some stored ∧
      (start second stored restart).answer = .ok restored ∧
      restored = running.atTime restart ∧ restored.Indistinguishable running := by
  intro running
  rcases exists_seeds_of_start bootstrapped with ⟨seeds, read⟩
  rcases Seeds.exists_ofConfiguration valid with ⟨others, readOthers⟩
  rcases compatible.same_seeds read readOthers with ⟨sameIdentity, sameFallback⟩
  have restorable : running.Restorable others.identity others.fallback (some place) := by
    rw [sameIdentity, sameFallback, ← persistent]
    exact restorable_final (restorable_of_start read bootstrapped) unreplaced
  have saved : running.save? present = some (.holding running.snapshot.toText) := by
    rw [save?, restorable.path]
    cases present with
    | vacant | holding => rfl
    | blocked => exact absurd rfl free
  have persistent := compatible.path.trans persistent
  exact ⟨.holding running.snapshot.toText, running.atTime restart, saved,
    start_of_save readOthers persistent restorable saved restart, rfl,
    indistinguishable_atTime running restart⟩

namespace Sample

def principal (digit : String) : String :=
  "0x000000000000000000000000000000000000000" ++ digit

def address (number : Nat) : Address :=
  (Address.ofNat? number).getD .zero

def first : Configuration where
  service := { identity := principal "1", admin := principal "2" }
  gate := { minters := [principal "2"], whitelistChecks := false }
  whitelist := { members := [principal "3"] }

/-- Another administrator has closed the gate. -/
def second : Configuration where
  service := { identity := principal "1", admin := principal "4" }
  gate := { paused := true }
  whitelist := { enabled := false }

/-- An amount is created and passed on. In between, someone who may not do so tries to
exchange the limiter. -/
def calls : List (Timed Checkpoint.Request) :=
  [⟨5, .execute (.gate (.mint (address 2) (address 5) (address 3) (.ofNat 10)))⟩,
    ⟨6, .execute (.gate (.replaceLimiter (address 3) default))⟩,
    ⟨7, .execute (.gate (.transfer (address 5) (address 3) (address 4) (.ofNat 10)))⟩]

def started : Service :=
  (start first .vacant 0).answer.toOption.get rfl

theorem bootstrapped : (start first .vacant 0).answer = .ok started := rfl

theorem unreplaced : started.Unreplaced calls := by
  refine ⟨?_⟩
  decide +kernel

theorem valid : second.validate = .ok () := rfl

theorem compatible : Compatible first second := ⟨rfl, rfl, rfl⟩

end Sample

/-- The amount is where it was passed on to. The second configuration would have closed the
gate and named another administrator, but of this nothing is seeded anew. -/
theorem restart_indistinguishable_sample :
    let running := Run.final handle Sample.started Sample.calls
    ∃ stored restored, running.save? .vacant = some stored ∧
      (start Sample.second stored 9).answer = .ok restored ∧
      restored = running.atTime 9 ∧ restored.Indistinguishable running ∧
      restored.site.checkpoint.gate.ledger.balance ⟨Sample.address 5, Sample.address 4⟩ =
        .ofNat 10 ∧
      restored.site.checkpoint.gate.switches.paused = false ∧
      restored.site.checkpoint.gate.authority.holds .admin (Sample.address 4) = false := by
  intro running
  rcases restart_indistinguishable Sample.bootstrapped Sample.unreplaced rfl Sample.valid
      Sample.compatible (nofun : Storage.vacant ≠ .blocked) 9 with
    ⟨stored, restored, saved, restarted, later, indistinguishable⟩
  refine ⟨stored, restored, saved, restarted, later, indistinguishable, ?balance, ?unpaused,
    ?unseeded⟩
  all_goals rw [later]
  case balance => decide +kernel
  case unpaused => decide +kernel
  case unseeded => decide +kernel

end Service

end Turnstile
