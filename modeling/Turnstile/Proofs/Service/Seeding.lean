import Turnstile.Proofs.Configuration.Declaration
import Turnstile.Proofs.Service.Restart

namespace Turnstile

/-! The first start of a service. Its administrator gives one command for each thing that is
configured. Each of them is accepted, since what was read can be admitted and the administrator
is one from the beginning, and together they lead to the state that the configuration
declares. -/

/-! ## The state that seeds grow into -/

namespace Limiter

/-- Records of an exemption at each of the positions. -/
def exempting (standings : Table Position Standing) (positions : List Position) :
    Table Position Standing :=
  positions.foldl
    (fun standings position => standings.insert position
      { (standings.get? position).getD .fresh with exempt := true })
    standings

private theorem get?_exempting (standings : Table Position Standing) (positions : List Position)
    (sought : Position) :
    (exempting standings positions).get? sought =
      if sought ∈ positions then some { (standings.get? sought).getD .fresh with exempt := true }
      else standings.get? sought := by
  induction positions generalizing standings with
  | nil => rfl
  | cons position rest induction =>
      rw [exempting, List.foldl_cons, ← exempting, induction]
      by_cases same : sought = position
      · -- A position may be listed again; its record stays as it is.
        subst same
        simp only [Table.get?_insert_self, Option.getD_some, ite_self, List.mem_cons, true_or,
          if_true]
      · simp only [Table.get?_insert_of_ne _ _ same, List.mem_cons, same, false_or]

end Limiter

namespace Seeds

/-- Who may write members in the end. -/
def writers (seeds : Seeds) : List Address :=
  seeds.whitelisters ++ if seeds.members.isEmpty then [] else [seeds.admin]

def whitelist (seeds : Seeds) : Whitelist where
  enabled := seeds.whitelistEnabled
  members := KeySet.withKeys .empty seeds.members
  authority := (Authority.sole seeds.admin).withGrants .whitelister seeds.writers

def limiter (seeds : Seeds) : Limiter where
  fallback := seeds.fallback
  defaults := .ofList seeds.defaults
  standings := Limiter.exempting .empty seeds.exemptions
  authority := ((Authority.sole seeds.admin).withGrants .caller [seeds.identity]).withGrants
    .limitManager seeds.managers

def switches (seeds : Seeds) : Switches :=
  let checked := Switches.initial.setChecks seeds.limitChecks seeds.whitelistChecks
  if seeds.paused then checked.setPaused true else checked

def gate (seeds : Seeds) : Gate where
  identity := seeds.identity
  switches := seeds.switches
  ledger := .empty
  authority := (Authority.sole seeds.admin).withGrants .minter seeds.minters

def checkpoint (seeds : Seeds) : Checkpoint where
  gate := seeds.gate
  whitelist := seeds.whitelist
  limiter := seeds.limiter

/-- Seeds that no component turns away. -/
structure Sound (seeds : Seeds) : Prop where
  identity : seeds.identity ≠ .zero
  admin : seeds.admin ≠ .zero
  fallback : seeds.fallback.Valid
  whitelisters : ∀ account ∈ seeds.whitelisters, account ≠ .zero
  managers : ∀ account ∈ seeds.managers, account ≠ .zero
  defaults : ∀ entry ∈ seeds.defaults, entry.2.Valid
  minters : ∀ account ∈ seeds.minters, account ≠ .zero

/-! ## Commands -/

section Commands

variable {seeds : Seeds}

private theorem arrives_whitelisters (whitelist : Whitelist) {caller : Address}
    (held : whitelist.authority.holds .admin caller = true) {accounts : List Address}
    (proper : ∀ account ∈ accounts, account ≠ .zero) :
    (Outcome.sequence (Whitelist.perform · caller) whitelist
      (accounts.map fun account => .assignWhitelister account true)).Arrives
      { whitelist with authority := whitelist.authority.withGrants .whitelister accounts } :=
  Authority.arrives_grants (fun authority => { whitelist with authority }) (fun _ _ => rfl) held
    proper

/-- To write members, the administrator first takes the right to do so, which stays. -/
private theorem arrives_members (sound : seeds.Sound) (enabled : Bool) {authority : Authority}
    (held : authority.holds .admin seeds.admin = true) :
    (Outcome.sequence (Whitelist.perform · seeds.admin) ⟨enabled, .empty, authority⟩
      (if seeds.members.isEmpty then []
        else [.assignWhitelister seeds.admin true, .setMembership seeds.members true])).Arrives
      ⟨enabled, .withKeys .empty seeds.members, authority.withGrants .whitelister
        (if seeds.members.isEmpty then [] else [seeds.admin])⟩ := by
  cases seeds.members with
  | nil => exact Outcome.arrives_accepted ..
  | cons first rest =>
      have proper : ∀ account ∈ [seeds.admin], account ≠ .zero := fun account member =>
        List.mem_singleton.mp member ▸ sound.admin
      have granted := arrives_whitelisters ⟨enabled, .empty, authority⟩ held proper
      have writer : (authority.withGrants .whitelister [seeds.admin]).holds .whitelister
          seeds.admin = true :=
        Authority.holds_withGrants.mpr (.inl ⟨rfl, List.mem_singleton_self seeds.admin⟩)
      refine Outcome.arrives_append granted (Outcome.arrives_singleton ?_)
      exact (Outcome.arrives_accepted ..).guarded (Authority.require_of_holds writer) _

private theorem arrives_whitelistCommands (sound : seeds.Sound) :
    (Outcome.sequence (Whitelist.perform · seeds.admin) ⟨true, .empty, .sole seeds.admin⟩
      seeds.whitelistCommands).Arrives seeds.whitelist := by
  have founder := Authority.holds_sole_admin seeds.admin
  have granted := arrives_whitelisters ⟨true, .empty, .sole seeds.admin⟩ founder
    sound.whitelisters
  have held := Authority.holds_admin_withGrants founder .whitelister seeds.whitelisters
  have written := arrives_members sound true held
  rw [whitelist, writers, Authority.withGrants_append]
  refine Outcome.arrives_append (Outcome.arrives_append granted written)
    (Outcome.arrives_singleton ?_)
  exact (Outcome.arrives_accepted ..).guarded
    (Authority.require_of_holds (Authority.holds_admin_withGrants held ..)) _

private theorem arrives_defaults (limiter : Limiter) (now : Seconds) {caller : Address}
    (held : limiter.authority.holds .admin caller = true) {entries : List (Address × Limits)}
    (valid : ∀ entry ∈ entries, entry.2.Valid) :
    (Outcome.sequence (Limiter.perform · now caller) limiter
      (entries.map fun entry => .setDefaultLimits entry.1 entry.2)).Arrives
      { limiter with
        defaults := entries.foldl (fun table entry => table.insert entry.1 entry.2)
          limiter.defaults } := by
  -- Whether the commands are accepted depends on the grants alone, and these stay.
  let place (defaults : Table Address Limits) : Limiter := { limiter with defaults }
  change (Outcome.sequence _ (place limiter.defaults) _).Arrives (place _)
  refine Outcome.arrives_map (fun _ => True) ?_ (fun _ _ _ => trivial) trivial
  intro entry member defaults _
  have described : entry.2.check = .ok () := Limits.check_eq_ok_iff.mpr (valid entry member)
  have updated := (Outcome.arrives_accepted (place (defaults.insert entry.1 entry.2))
    [.defaultLimitsUpdated entry.1 entry.2] []).guarded (Authority.require_of_holds held)
      (place defaults)
  exact updated.guarded described (place defaults)

private theorem arrives_exemptions (limiter : Limiter) (now : Seconds) {caller : Address}
    (held : limiter.authority.holds .admin caller = true) (positions : List Position) :
    (Outcome.sequence (Limiter.perform · now caller) limiter
      (positions.map fun position =>
        .setExemptions position.asset [position.account] [true])).Arrives
      { limiter with standings := Limiter.exempting limiter.standings positions } := by
  let place (standings : Table Position Standing) : Limiter := { limiter with standings }
  change (Outcome.sequence _ (place limiter.standings) _).Arrives (place _)
  refine Outcome.arrives_map (fun _ => True) ?_ (fun _ _ _ => trivial) trivial
  intro position _ standings _
  exact (Outcome.arrives_accepted ..).guarded (Authority.require_of_holds held) _

private theorem arrives_managers (limiter : Limiter) (now : Seconds) {caller : Address}
    (held : limiter.authority.holds .admin caller = true) {accounts : List Address}
    (proper : ∀ account ∈ accounts, account ≠ .zero) :
    (Outcome.sequence (Limiter.perform · now caller) limiter
      (accounts.map fun account => .assignManager account true)).Arrives
      { limiter with authority := limiter.authority.withGrants .limitManager accounts } :=
  Authority.arrives_grants (fun authority => { limiter with authority }) (fun _ _ => rfl) held
    proper

private theorem arrives_limiterCommands (sound : seeds.Sound) (now : Seconds) :
    (Outcome.sequence (Limiter.perform · now seeds.admin)
      ⟨seeds.fallback, .empty, .empty, .sole seeds.admin⟩ seeds.limiterCommands).Arrives
      seeds.limiter := by
  have founder := Authority.holds_sole_admin seeds.admin
  have held := Authority.holds_admin_withGrants founder .caller [seeds.identity]
  have heldOn := Authority.holds_admin_withGrants held .limitManager seeds.managers
  apply Outcome.arrives_append
  · apply Outcome.arrives_append
    · apply Outcome.arrives_append
      · exact Outcome.arrives_singleton
          (Authority.arrives_reassign founder sound.identity _ .caller)
      · exact arrives_managers _ now held sound.managers
    · exact arrives_defaults _ now heldOn sound.defaults
  · exact arrives_exemptions { seeds.limiter with standings := .empty } now heldOn _

private theorem arrives_minters (checkpoint : Checkpoint) (now : Seconds) {caller : Address}
    (held : checkpoint.gate.authority.holds .admin caller = true) {accounts : List Address}
    (proper : ∀ account ∈ accounts, account ≠ .zero) :
    (Outcome.sequence (Checkpoint.perform · now) checkpoint
      (accounts.map fun account => .assignMinter caller account true)).Arrives
      { checkpoint with
        gate.authority := checkpoint.gate.authority.withGrants .minter accounts } :=
  Authority.arrives_grants
    (fun authority => { checkpoint with gate.authority := authority }) (fun _ _ => rfl) held
    proper

private theorem arrives_gateCommands (sound : seeds.Sound) (now : Seconds) (whitelist : Whitelist)
    (limiter : Limiter) :
    (Outcome.sequence (Checkpoint.perform · now)
      ⟨⟨seeds.identity, .initial, .empty, .sole seeds.admin⟩, whitelist, limiter⟩
      seeds.gateCommands).Arrives ⟨seeds.gate, whitelist, limiter⟩ := by
  have founder := Authority.holds_sole_admin seeds.admin
  have permitted := Authority.require_of_holds
    (Authority.holds_admin_withGrants founder .minter seeds.minters)
  apply Outcome.arrives_append
  · apply Outcome.arrives_append
    · exact arrives_minters _ now founder sound.minters
    · apply Outcome.arrives_singleton
      exact (Outcome.arrives_accepted ..).guarded permitted _
  · rw [gate, switches]
    cases seeds.paused with
    | false => exact Outcome.arrives_accepted ..
    | true =>
        apply Outcome.arrives_singleton
        exact (Outcome.arrives_accepted ..).guarded permitted _

/-- A gate and its collaborators before the first command. -/
def founded (seeds : Seeds) : Checkpoint where
  gate := ⟨seeds.identity, .initial, .empty, .sole seeds.admin⟩
  whitelist := ⟨true, .empty, .sole seeds.admin⟩
  limiter := ⟨seeds.fallback, .empty, .empty, .sole seeds.admin⟩

private theorem founded_of_sound (sound : seeds.Sound) (now : Seconds) :
    Site.founded now seeds.identity seeds.admin seeds.fallback =
      .ok (.ofCheckpoint now seeds.founded) := by
  have whitelist : Whitelist.founded seeds.admin = .ok seeds.founded.whitelist := by
    rw [Whitelist.founded, Authority.founded_of_ne_zero sound.admin]
    rfl
  have limiter : Limiter.founded seeds.admin seeds.fallback = .ok seeds.founded.limiter := by
    rw [Limiter.founded, Limits.check_eq_ok_iff.mpr sound.fallback,
      Authority.founded_of_ne_zero sound.admin]
    rfl
  have gate : Gate.founded seeds.identity seeds.admin = .ok seeds.founded.gate := by
    rw [Gate.founded, if_neg sound.identity, Authority.founded_of_ne_zero sound.admin]
    rfl
  rw [Site.founded, whitelist, limiter, gate]
  rfl

/-- One component after the other is brought into its state. -/
theorem arrives_commands (sound : seeds.Sound) (now : Seconds) :
    (Outcome.sequence (Checkpoint.execute · now) seeds.founded seeds.commands).Arrives
      seeds.checkpoint := by
  let withWhitelist (whitelist : Whitelist) : Checkpoint := { seeds.founded with whitelist }
  let withLimiter (limiter : Limiter) : Checkpoint :=
    { withWhitelist seeds.whitelist with limiter }
  apply Outcome.arrives_append
  · apply Outcome.arrives_append
    · exact Outcome.arrives_within withWhitelist (fun _ _ => rfl)
        (arrives_whitelistCommands sound)
    · exact Outcome.arrives_within withLimiter (fun _ _ => rfl)
        (arrives_limiterCommands sound now)
  · exact Outcome.arrives_within id (fun _ _ => rfl)
      (arrives_gateCommands sound now seeds.whitelist seeds.limiter)

theorem answer_ofSeeds (sound : seeds.Sound) (path : Option String) (now : Seconds) :
    (Startup.ofSeeds seeds path now).answer =
      .ok ⟨.ofCheckpoint now seeds.checkpoint, path⟩ := by
  have seeded : (Outcome.sequence Site.execute (.ofCheckpoint now seeds.founded)
      (seeds.commands.map id)).Arrives (.ofCheckpoint now seeds.checkpoint) :=
    Outcome.arrives_within (Site.ofCheckpoint now) (fun _ _ => rfl) (arrives_commands sound now)
  rw [List.map_id] at seeded
  rw [Startup.ofSeeds, founded_of_sound sound]
  simp only [seeded.answer, seeded.world]
  rfl

end Commands

/-! ## Seeds of a configuration -/

section Declared

variable {configuration : Configuration} {seeds : Seeds}

theorem ReadFrom.sound (read : seeds.ReadFrom configuration) : seeds.Sound where
  identity := Address.ne_zero_of_principal? (principal?_of_readPrincipal read.identity)
  admin := Address.ne_zero_of_principal? (principal?_of_readPrincipal read.admin)
  fallback := LimitSettings.valid_of_limits? (LimitSettings.limits?_of_resolve read.fallback)
  whitelisters := ne_zero_of_mem_readPrincipals read.whitelisters
  managers := ne_zero_of_mem_readPrincipals read.managers
  defaults := valid_of_mem_readDefaults read.defaults
  minters := ne_zero_of_mem_readPrincipals read.minters

private theorem ReadFrom.mem_writers (read : seeds.ReadFrom configuration) {account : Address} :
    account ∈ seeds.writers ↔
      account.Named configuration.whitelist.whitelisters ∨
        configuration.whitelist.members ≠ [] ∧ account = seeds.admin := by
  rw [writers, List.mem_append, mem_readPrincipals read.whitelisters, ne_eq,
    ← readPrincipals_eq_nil_iff read.members]
  cases seeds.members <;> simp

theorem ReadFrom.grants (read : seeds.ReadFrom configuration) (component : Component)
    (role : Role) (account : Address) :
    (seeds.checkpoint.authority component).holds role account = true ↔
      configuration.Grants component role account := by
  have admin := principal?_of_readPrincipal read.admin
  have identity := principal?_of_readPrincipal read.identity
  cases component with
  | whitelist =>
      rw [Checkpoint.authority, checkpoint, whitelist]
      simp only [Authority.holds_withGrants, Authority.holds_sole, read.mem_writers]
      cases role <;> simp [Configuration.Grants, admin, eq_comm]
  | limiter =>
      rw [Checkpoint.authority, checkpoint, limiter]
      simp only [Authority.holds_withGrants, Authority.holds_sole,
        mem_readPrincipals read.managers]
      cases role <;> simp [Configuration.Grants, admin, identity, eq_comm]
  | gate =>
      rw [Checkpoint.authority, checkpoint, gate]
      simp only [Authority.holds_withGrants, Authority.holds_sole,
        mem_readPrincipals read.minters]
      cases role <;> simp [Configuration.Grants, admin, eq_comm]

private theorem ReadFrom.isMember_iff (read : seeds.ReadFrom configuration) (account : Address) :
    seeds.checkpoint.whitelist.isMember account = true ↔
      account.Named configuration.whitelist.members := by
  have nobody : ¬Table.contains (.empty : KeySet Address) account = true := nofun
  rw [← mem_readPrincipals read.members]
  exact KeySet.contains_withKeys.trans (or_iff_left nobody)

private theorem ReadFrom.standing?_eq (read : seeds.ReadFrom configuration) (position : Position) :
    seeds.checkpoint.limiter.standing? position =
      if configuration.limits.Exempts position then some .exempted else none := by
  have found := Limiter.get?_exempting .empty seeds.exemptions position
  simp only [mem_readExemptions read.exemptions, Table.get?_empty] at found
  exact found

private theorem ReadFrom.switches_eq (read : seeds.ReadFrom configuration) :
    seeds.switches = configuration.gate.switches := by
  rw [switches, read.limitChecks, read.whitelistChecks, read.paused, GateSection.switches]
  cases configuration.gate.paused <;> rfl

theorem declares_checkpoint (read : seeds.ReadFrom configuration) :
    configuration.Declares seeds.checkpoint where
  identity := principal?_of_readPrincipal read.identity
  grants := read.grants
  members := read.isMember_iff
  enabled := read.whitelistEnabled
  fallback := LimitSettings.limits?_of_resolve read.fallback
  defaults := get?_readDefaults read.defaults
  standings := read.standing?_eq
  switches := read.switches_eq
  ledger := rfl

end Declared

end Seeds

/-! ## Services -/

namespace Service

theorem start_of_absent {configuration : Configuration} {seeds : Seeds} {storage : Storage}
    (read : Seeds.ofConfiguration configuration = .ok seeds)
    (absent : configuration.persistence.enabled = true → storage = .vacant) (now : Seconds) :
    start configuration storage now = .ofSeeds seeds configuration.persistence.path? now := by
  have nothing : (if configuration.persistence.path?.isSome then storage.load else .ok none) =
      .ok none := by
    rw [PersistenceSection.path?]
    cases enabled : configuration.persistence.enabled with
    | false => rfl
    | true =>
        rw [absent enabled]
        rfl
  rw [start, read]
  simp only [nothing]

/-- Under a valid configuration a service that finds no snapshot, or that is not to look for
one, starts at any time, and it starts in the state that the configuration declares. -/
theorem start_seeded {configuration : Configuration} {storage : Storage}
    (valid : configuration.validate = .ok ())
    (absent : configuration.persistence.enabled = true → storage = .vacant) (now : Seconds) :
    ∃ checkpoint, (start configuration storage now).answer =
        .ok ⟨.ofCheckpoint now checkpoint, configuration.persistence.path?⟩ ∧
      ∀ other, configuration.Declares other ↔ other = checkpoint := by
  rcases Seeds.exists_ofConfiguration valid with ⟨seeds, seedsRead⟩
  have read := Seeds.readFrom_of_ofConfiguration seedsRead
  have declared := Seeds.declares_checkpoint read
  refine ⟨seeds.checkpoint, ?answer, fun other => ?declared⟩
  case answer =>
    rw [start_of_absent seedsRead absent]
    exact Seeds.answer_ofSeeds read.sound _ now
  case declared =>
    constructor
    · exact fun declares => declares.unique declared
    · rintro rfl
      exact declared

namespace Sample

/-- Accounts and an asset are repeated, one text has white space around it, and the members
are written by an administrator who is not among the whitelisters. -/
def seeded : Configuration where
  service := { identity := principal "1", admin := principal "2" ++ "\n" }
  gate := { paused := true, limitChecks := false, minters := [principal "3", principal "2"] }
  whitelist := {
    enabled := false
    members := [principal "3", principal "4", " " ++ principal "3"]
    whitelisters := [principal "4", principal "4"] }
  limits := {
    fallback := { quota := "1000" }
    assets := [
      { asset := principal "5", limits := { cap := "10" } },
      { asset := principal "6", limits := { cooldown := 60 } },
      { asset := principal "5", limits := { cap := "0x20", period := 3600 } }]
    managers := [principal "2"]
    exemptions := [
      { asset := principal "5", account := principal "1" },
      { asset := principal "5", account := principal "1" }] }

theorem valid_seeded : seeded.validate = .ok () := by decide +kernel

end Sample

theorem start_seeded_sample :
    Sample.seeded.validate = .ok () ∧
      Sample.seeded.Grants .whitelist .whitelister (Sample.address 2) ∧
      Sample.seeded.limits.defaultsOf? (Sample.address 5) =
        some { Limits.unlimited with cap := .ofNat 32, period := 3600 } ∧
      ∃ checkpoint, (start Sample.seeded .vacant 7).answer =
          .ok ⟨.ofCheckpoint 7 checkpoint, some "ledger-gate-state.json"⟩ ∧
        ∀ other, Sample.seeded.Declares other ↔ other = checkpoint := by
  refine ⟨Sample.valid_seeded, .inr ⟨nofun, ?_⟩, ?_, ?_⟩
  · decide +kernel
  · decide +kernel
  · exact start_seeded Sample.valid_seeded (fun _ => rfl) 7

end Service

end Turnstile
