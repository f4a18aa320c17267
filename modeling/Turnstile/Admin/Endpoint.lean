import Turnstile.Admin.Action
import Turnstile.Admin.Body
import Turnstile.Text.Percent

namespace Turnstile.Admin

/-! From a request to the action it asks for: the path and the method select an endpoint,
and the endpoint reads addresses from the path and everything else from the body. -/

/-- One thing that can be asked for, with the open parts of its path as they are written
there. -/
inductive Endpoint where
  | showStatus
  | showPosition (asset account : String)
  | setMembership
  | setWhitelistEnabled
  | setExemptions
  | setDefaultLimits (asset : String)
  | setUserLimits (asset account : String)
  | resetUserLimits (asset account : String)
  | resetUserPeriod (asset account : String)
  | setChecks
  | setPaused (paused : Bool)
  | save
deriving DecidableEq

namespace Endpoint

/-- The methods that a path answers to. -/
def atPath : List String → List (Method × Endpoint)
  | ["", "admin", "status"] => [(.get, showStatus)]
  | ["", "admin", "principals", asset, account] => [(.get, showPosition asset account)]
  | ["", "admin", "whitelist"] => [(.post, setMembership)]
  | ["", "admin", "whitelist", "toggle"] => [(.post, setWhitelistEnabled)]
  | ["", "admin", "exemptions"] => [(.post, setExemptions)]
  | ["", "admin", "limits", "default", asset] => [(.put, setDefaultLimits asset)]
  | ["", "admin", "limits", "user", asset, account] =>
      [(.put, setUserLimits asset account), (.delete, resetUserLimits asset account)]
  | ["", "admin", "period", "reset", asset, account] =>
      [(.post, resetUserPeriod asset account)]
  | ["", "admin", "config"] => [(.put, setChecks)]
  | ["", "admin", "pause"] => [(.post, setPaused true)]
  | ["", "admin", "unpause"] => [(.post, setPaused false)]
  | ["", "admin", "snapshot"] => [(.post, save)]
  | _ => []

/-- A path has no empty parts, apart from what is in front of its first slash. -/
def isProper (path : List String) : Bool :=
  path.tail.all fun part => !part.isEmpty

/-- The method that an endpoint sees. -/
def effective : Method → Method
  | .head => .get
  | method => method

def ofRequest (request : Request) : Except Rejection Endpoint :=
  let methods := if isProper request.path then atPath request.path else []
  if methods.isEmpty then .error .unknownPath
  else
    match methods.lookup (effective request.method) with
    | some endpoint => .ok endpoint
    | none => .error .unknownMethod

/-! ## Reading addresses -/

def readPart (part : String) : Except Rejection String :=
  match Text.ofEscaped? part with
  | some text => .ok text
  | none => .error .unreadablePath

def readNamed (field value : String) : Except Rejection Address :=
  (readAddress field value).mapError fun flaw => .flawed [flaw]

def readPosition (asset account : String) : Except Rejection Position := do
  let asset ← readNamed "asset" asset
  return ⟨asset, ← readNamed "address" account⟩

/-- All the addresses, or all the flaws in them. -/
def readAccounts (values : List String) : Except Rejection (List Address) :=
  let accounts := values.zipIdx.map fun item => readAddress (indexed "accounts" item.2) item.1
  match accounts.flatMap flawOf with
  | [] => .ok (accounts.filterMap Except.toOption)
  | flaws => .error (.flawed flaws)

def resolveLimits (settings : LimitSettings) : Except Rejection Limits :=
  (settings.resolve "limits").mapError .flawed

/-! ## Actions -/

/-- The action of an endpoint. The path is unescaped first, then the body is read, and
then addresses and amounts are. -/
def action (endpoint : Endpoint) (request : Request) : Except Rejection Action :=
  match endpoint with
  | showStatus => return .showStatus
  | showPosition asset account => do
      let asset ← readPart asset
      let account ← readPart account
      return .showPosition (← readPosition asset account)
  | setMembership => do
      let body ← readMembership request
      return .setMembership (← readAccounts body.accounts) body.whitelisted
  | setWhitelistEnabled => do
      return .setWhitelistEnabled (← readEnabled request)
  | setExemptions => do
      let body ← readExemptions request
      let asset ← readNamed "asset" body.asset
      return .setExemptions asset (← readAccounts body.accounts) body.exempt
  | setDefaultLimits asset => do
      let asset ← readPart asset
      let settings ← readLimits request
      let asset ← readNamed "asset" asset
      return .setDefaultLimits asset (← resolveLimits settings)
  | setUserLimits asset account => do
      let asset ← readPart asset
      let account ← readPart account
      let settings ← readLimits request
      let position ← readPosition asset account
      return .setUserLimits position (← resolveLimits settings)
  | resetUserLimits asset account => do
      let asset ← readPart asset
      let account ← readPart account
      return .resetUserLimits (← readPosition asset account)
  | resetUserPeriod asset account => do
      let asset ← readPart asset
      let account ← readPart account
      return .resetUserPeriod (← readPosition asset account)
  | setChecks => do
      let body ← readChecks request
      return .setChecks body.limitChecks body.whitelistChecks
  | setPaused paused => return .setPaused paused
  | save => return .save

end Endpoint

/-- The action that a request asks for. -/
def Request.action (request : Request) : Except Rejection Action := do
  (← Endpoint.ofRequest request).action request

end Turnstile.Admin
