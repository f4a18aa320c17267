import Turnstile.Limits

namespace Turnstile

/-! What is configured: identities, the state a service is seeded with on its first
start, and how it is run. Addresses and amounts are still texts here; every section has
defaults for what is left out. -/

structure LimitSettings where
  cap : String := "max"
  cooldown : Seconds := 0
  quota : String := "max"
  period : Seconds := Limits.defaultPeriod
deriving DecidableEq, Inhabited

structure AssetSettings where
  asset : String
  limits : LimitSettings
deriving DecidableEq, Inhabited

structure ExemptionSettings where
  asset : String
  account : String
deriving DecidableEq, Inhabited

/-- The gate's own account and the first administrator of every component. -/
structure IdentitySection where
  identity : String := ""
  admin : String := ""
deriving DecidableEq, Inhabited

structure GateSection where
  paused : Bool := false
  whitelistChecks : Bool := true
  limitChecks : Bool := true
  minters : List String := []
deriving DecidableEq, Inhabited

structure WhitelistSection where
  enabled : Bool := true
  members : List String := []
  whitelisters : List String := []
deriving DecidableEq, Inhabited

structure LimitsSection where
  fallback : LimitSettings := {}
  assets : List AssetSettings := []
  managers : List String := []
  exemptions : List ExemptionSettings := []
deriving DecidableEq, Inhabited

structure PersistenceSection where
  enabled : Bool := true
  path : String := "ledger-gate-state.json"
  /-- Time between snapshots; zero saves only at the end. -/
  interval : Seconds := 300
deriving DecidableEq, Inhabited

structure AdminSection where
  enabled : Bool := false
  apiKey : String := "CHANGE_ME_IN_PRODUCTION"
  bindAddress : String := "127.0.0.1:8081"
  /-- The account that holders of the key act as. -/
  operator : String := ""
  requestTimeout : Seconds := 10
deriving DecidableEq, Inhabited

structure ObservabilitySection where
  logLevel : String := "info"
  metricsEnabled : Bool := false
  metricsAddress : String := "0.0.0.0:9090"
deriving DecidableEq, Inhabited

structure Configuration where
  service : IdentitySection := {}
  gate : GateSection := {}
  whitelist : WhitelistSection := {}
  limits : LimitsSection := {}
  persistence : PersistenceSection := {}
  admin : AdminSection := {}
  observability : ObservabilitySection := {}
deriving DecidableEq, Inhabited

end Turnstile
