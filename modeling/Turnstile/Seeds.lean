import Turnstile.Checkpoint
import Turnstile.Configuration.Flaw

namespace Turnstile

/-! What a configuration says about the state of a service on its first start. -/

structure Seeds where
  identity : Address
  admin : Address
  fallback : Limits
  whitelistEnabled : Bool
  members : List Address
  whitelisters : List Address
  managers : List Address
  defaults : List (Address × Limits)
  exemptions : List Position
  minters : List Address
  limitChecks : Bool
  whitelistChecks : Bool
  paused : Bool
deriving DecidableEq, Inhabited

namespace Seeds

/-! ## Reading a configuration -/

/-- A flaw of one field as all the flaws there are. -/
def alone {Item : Type} : Except Flaw Item → Except (List Flaw) Item :=
  Except.mapError fun flaw => [flaw]

def readPrincipals (field : String) (values : List String) :
    Except (List Flaw) (List Address) :=
  values.zipIdx.mapM fun item => alone (readPrincipal (indexed field item.2) item.1)

def readDefault (entry : AssetSettings × Nat) : Except (List Flaw) (Address × Limits) := do
  let field := indexed "limits.assets" entry.2
  let asset ← alone (readPrincipal (field ++ ".asset") entry.1.asset)
  return (asset, ← entry.1.limits.resolve field)

def readExemption (entry : ExemptionSettings × Nat) : Except (List Flaw) Position := do
  let field := indexed "limits.exemptions" entry.2
  let asset ← alone (readPrincipal (field ++ ".asset") entry.1.asset)
  return ⟨asset, ← alone (readPrincipal (field ++ ".account") entry.1.account)⟩

/-- The seeds of a configuration, or all its flaws. -/
def ofConfiguration (configuration : Configuration) : Except (List Flaw) Seeds := do
  configuration.validate
  let { service, gate, whitelist, limits, .. } := configuration
  return {
    identity := ← alone (readPrincipal "service.identity" service.identity)
    admin := ← alone (readPrincipal "service.admin" service.admin)
    fallback := ← limits.fallback.resolve "limits.fallback"
    whitelistEnabled := whitelist.enabled
    members := ← readPrincipals "whitelist.members" whitelist.members
    whitelisters := ← readPrincipals "whitelist.whitelisters" whitelist.whitelisters
    managers := ← readPrincipals "limits.managers" limits.managers
    defaults := ← limits.assets.zipIdx.mapM readDefault
    exemptions := ← limits.exemptions.zipIdx.mapM readExemption
    minters := ← readPrincipals "gate.minters" gate.minters
    limitChecks := gate.limitChecks
    whitelistChecks := gate.whitelistChecks
    paused := gate.paused }

/-! ## Bringing the state about

The administrator gives the commands. Members are written under a grant of its own. -/

def whitelistCommands (seeds : Seeds) : List Whitelist.Command :=
  seeds.whitelisters.map (fun account => .assignWhitelister account true) ++
  (if seeds.members.isEmpty then []
    else [.assignWhitelister seeds.admin true, .setMembership seeds.members true]) ++
  [.setEnabled seeds.whitelistEnabled]

def limiterCommands (seeds : Seeds) : List Limiter.Command :=
  [.assignCaller seeds.identity true] ++
  seeds.managers.map (fun account => .assignManager account true) ++
  seeds.defaults.map (fun entry => .setDefaultLimits entry.1 entry.2) ++
  seeds.exemptions.map (fun position =>
    .setExemptions position.asset [position.account] [true])

def gateCommands (seeds : Seeds) : List Gate.Command :=
  seeds.minters.map (fun account => .assignMinter seeds.admin account true) ++
  [.setChecks seeds.admin seeds.limitChecks seeds.whitelistChecks] ++
  (if seeds.paused then [.setPaused seeds.admin true] else [])

def commands (seeds : Seeds) : List Checkpoint.Command :=
  seeds.whitelistCommands.map (.whitelist seeds.admin) ++
  seeds.limiterCommands.map (.limiter seeds.admin) ++
  seeds.gateCommands.map .gate

end Seeds

end Turnstile
