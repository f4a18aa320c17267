import Turnstile.Authority
import Turnstile.Ledger

namespace Turnstile

/-! The gate's own state: its identity, its switches, the ledger behind it and its
grants. -/

/-- The global switches. Every change counts up the version. -/
structure Switches where
  paused : Bool
  whitelistChecks : Bool
  limitChecks : Bool
  version : UInt64
deriving DecidableEq

namespace Switches

def initial : Switches where
  paused := false
  whitelistChecks := true
  limitChecks := true
  version := 0

instance : Inhabited Switches := ⟨initial⟩

def setPaused (switches : Switches) (paused : Bool) : Switches :=
  { switches with paused, version := switches.version + 1 }

def setChecks (switches : Switches) (limitChecks whitelistChecks : Bool) : Switches :=
  { switches with limitChecks, whitelistChecks, version := switches.version + 1 }

end Switches

structure Gate where
  /-- The account under which the gate acts toward its limiter. -/
  identity : Address
  switches : Switches
  ledger : Ledger
  authority : Authority
deriving DecidableEq, Inhabited

namespace Gate

def founded (identity admin : Address) : Except Refusal Gate :=
  if identity = .zero then .error (.invalidArgument .zeroAddress)
  else do
    let authority ← Authority.founded admin
    return { identity, switches := .initial, ledger := .empty, authority }

/-- What of a gate survives a restart. Its identity is not part of it. -/
structure Snapshot where
  switches : Switches
  roles : List Grant
  balances : List (Position × Amount)
deriving DecidableEq, Inhabited

def snapshot (gate : Gate) : Snapshot where
  switches := gate.switches
  roles := gate.authority.toList
  balances := gate.ledger.records

def ofSnapshot (identity : Address) (snapshot : Snapshot) : Except Refusal Gate := do
  let ledger ← Ledger.ofRecords snapshot.balances
  return {
    identity
    switches := snapshot.switches
    ledger
    authority := Authority.ofGrants snapshot.roles }

def truth : Bool → String
  | true => "true"
  | false => "false"

/-- A gate in one line, for people who look for faults. -/
def describe (gate : Gate) : String :=
  "LedgerGate \x7b identity: " ++ gate.identity.toHex ++
    ", settings: GateSettings \x7b paused: " ++ truth gate.switches.paused ++
    ", whitelist_checks_enabled: " ++ truth gate.switches.whitelistChecks ++
    ", limit_checks_enabled: " ++ truth gate.switches.limitChecks ++
    ", version: " ++ Text.decimal gate.switches.version.toNat ++ " \x7d \x7d"

end Gate

end Turnstile
