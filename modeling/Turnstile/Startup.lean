import Turnstile.Meter
import Turnstile.Seeds
import Turnstile.Service

namespace Turnstile

/-! How a service comes to run: from its snapshot if there is one, otherwise from the
seeds in its configuration. A snapshot makes the seeds void, apart from the gate's identity
and the fallback limits. -/

/-- Why a service does not start. -/
inductive StartupFailure where
  | flawed (flaws : List Flaw)
  | unreadable (failure : Snapshot.LoadFailure)
  | refused (refusal : Refusal)
deriving DecidableEq

def StartupFailure.message : StartupFailure → String
  | .flawed flaws => "invalid configuration: " ++ Flaw.joinMessages "; " flaws
  | .unreadable failure => failure.message
  | .refused refusal => "failed to seed state: " ++ refusal.message

/-- A start with what it has recorded, whether it succeeds or not. -/
structure Startup where
  answer : Except StartupFailure Service
  readings : List Reading

namespace Startup

def failed (failure : StartupFailure) (readings : List Reading) : Startup where
  answer := .error failure
  readings := readings

def succeeded (site : Site) (path : Option String) (readings : List Reading) : Startup where
  answer := .ok { site, path }
  readings := readings

def ofSnapshot (seeds : Seeds) (path : Option String) (now : Seconds) (snapshot : Snapshot) :
    Startup :=
  let readings := snapshot.restoredReadings seeds.fallback
  match Checkpoint.ofSnapshot seeds.identity seeds.fallback snapshot with
  | .error refusal => failed (.refused refusal) readings
  | .ok checkpoint => succeeded (Site.ofCheckpoint now checkpoint) path readings

def ofSeeds (seeds : Seeds) (path : Option String) (now : Seconds) : Startup :=
  match Site.founded now seeds.identity seeds.admin seeds.fallback with
  | .error refusal => failed (.refused refusal) []
  | .ok site =>
      let outcome := Outcome.sequence Site.execute site seeds.commands
      match outcome.answer with
      | .error refusal => failed (.refused refusal) outcome.recorded
      | .ok () => succeeded outcome.world path outcome.recorded

end Startup

/-- The path of the snapshots, if they are to be kept. -/
def PersistenceSection.path? (settings : PersistenceSection) : Option String :=
  if settings.enabled then some settings.path else none

/-- Start a service. Its storage is looked at only if snapshots are kept. -/
def Service.start (configuration : Configuration) (storage : Storage) (now : Seconds) :
    Startup :=
  match Seeds.ofConfiguration configuration with
  | .error flaws => .failed (.flawed flaws) []
  | .ok seeds =>
      let path := configuration.persistence.path?
      match if path.isSome then storage.load else .ok none with
      | .error failure => .failed (.unreadable failure) []
      | .ok none => .ofSeeds seeds path now
      | .ok (some snapshot) => .ofSnapshot seeds path now snapshot

end Turnstile
