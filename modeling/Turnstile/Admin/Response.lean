import Turnstile.Admin.Authorization
import Turnstile.Admin.Endpoint
import Turnstile.Meter
import Turnstile.Service

namespace Turnstile.Admin

/-! How requests are answered. The key stands for one operator, who is the caller of every
command; holding the key replaces no role. -/

/-- Who may administer, and as whom. -/
structure Access where
  key : String
  operator : Address
deriving DecidableEq, Inhabited

/-! ## Answers -/

structure StatusReport where
  identity : Address
  operator : Address
  switches : Switches
  whitelistEnabled : Bool
  whitelistMembers : Nat
  trackedPositions : Nat
deriving DecidableEq

structure PositionReport where
  view : Limiter.View
  balance : Amount
  whitelisted : Bool
  /-- The account may send now. -/
  allowedSender : Bool
deriving DecidableEq

inductive Answer where
  | status (report : StatusReport)
  | position (report : PositionReport)
  | limits (limits : Limits)
  | switches (switches : Switches)
  /-- Where a snapshot was stored, if snapshots are kept. -/
  | saved (path : Option String)
  | done
deriving DecidableEq

def reportStatus (operator : Address) (checkpoint : Checkpoint) : StatusReport where
  identity := checkpoint.gate.identity
  operator := operator
  switches := checkpoint.gate.switches
  whitelistEnabled := checkpoint.whitelist.enabled
  whitelistMembers := checkpoint.whitelist.memberCount
  trackedPositions := checkpoint.limiter.trackedPositions

def reportPosition (checkpoint : Checkpoint) (now : Seconds) (position : Position) :
    PositionReport where
  view := checkpoint.limiter.view position now
  balance := checkpoint.gate.ledger.balance position
  whitelisted := checkpoint.whitelist.isWhitelisted position.account
  allowedSender := checkpoint.isAllowedSender now position

/-- What an action that has succeeded shows of the state it has left. -/
def Action.answer (operator : Address) (service : Service) (action : Action) : Answer :=
  let checkpoint := service.site.checkpoint
  match action with
  | .showStatus => .status (reportStatus operator checkpoint)
  | .showPosition position => .position (reportPosition checkpoint service.site.now position)
  | .setMembership .. => .done
  | .setWhitelistEnabled _ => .done
  | .setExemptions .. => .done
  | .setDefaultLimits asset _ => .limits (checkpoint.limiter.defaultLimits asset)
  | .setUserLimits position _ => .limits (checkpoint.limiter.effectiveLimits position)
  | .resetUserLimits position => .limits (checkpoint.limiter.effectiveLimits position)
  | .resetUserPeriod _ => .done
  | .setChecks .. => .switches checkpoint.gate.switches
  | .setPaused _ => .switches checkpoint.gate.switches
  | .save => .saved service.path

/-! ## Responses -/

/-- What a request brings about. -/
structure Response where
  service : Service
  storage : Storage
  reply : Except Rejection Answer
  /-- The reply is sent without its body. -/
  bodiless : Bool
  events : List Event
  readings : List Reading

namespace Response

/-- A reply that changes nothing. -/
def unchanged (service : Service) (storage : Storage) (reply : Except Rejection Answer) :
    Response where
  service := service
  storage := storage
  reply := reply
  bodiless := false
  events := []
  readings := []

def ofOutcome (storage : Storage) (operator : Address) (action : Action)
    (outcome : Outcome Service) : Response where
  service := outcome.world
  storage := storage
  reply :=
    match outcome.answer with
    | .ok () => .ok (action.answer operator outcome.world)
    | .error refusal => .error (.refused refusal)
  bodiless := false
  events := outcome.events
  readings := outcome.recorded

/-- Save the state, or say that this is impossible. -/
def ofSaving (service : Service) (storage : Storage) : Response :=
  match service.save? storage with
  | some stored => unchanged service stored (.ok (.saved service.path))
  | none => unchanged service storage (.error .unsaved)

def ofAction (service : Service) (storage : Storage) (operator : Address) (action : Action) :
    Response :=
  match action.command? operator with
  | some command => ofOutcome storage operator action (service.execute command)
  | none =>
      match action with
      | .save => ofSaving service storage
      | action => unchanged service storage (.ok (action.answer operator service))

def withoutBody (response : Response) : Response :=
  { response with bodiless := true }

def status (response : Response) : Nat :=
  match response.reply with
  | .ok _ => 200
  | .error rejection => rejection.status

end Response

/-- Answer a request. The key is asked for before anything else is looked at. -/
def respond (access : Access) (service : Service) (storage : Storage) (request : Request) :
    Response :=
  if !isAuthorized access.key request.authorization then
    .unchanged service storage (.error .missingKey)
  else
    let response :=
      match request.action with
      | .error rejection => .unchanged service storage (.error rejection)
      | .ok action => .ofAction service storage access.operator action
    if request.method = .head then response.withoutBody else response

end Turnstile.Admin
