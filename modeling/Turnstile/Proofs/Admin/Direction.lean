import Turnstile.Proofs.Admin.Authorization
import Turnstile.Proofs.Admin.Reading
import Turnstile.Proofs.Checkpoint.Refused

namespace Turnstile

/-! What comes of a request with the key. Its method and its path, with what its body and the
parts of its path stand for, determine one command to the gate or to a collaborator, given by
the operator; what comes of the request is what comes of that command and nothing else. A
request that does not succeed, for whatever reason, changes nothing. Neither does one that
only asks, or that has a snapshot stored. -/

/-! ## The gate of a service -/

theorem Site.withCheckpoint_checkpoint (site : Site) :
    site.withCheckpoint site.checkpoint = site := by
  rw [withCheckpoint, checkpoint, Pool.putInUse_inUse, Pool.putInUse_inUse]

namespace Service

/-- The gate that commands are given to, with the collaborators in use. -/
def checkpoint (service : Service) : Checkpoint :=
  service.site.checkpoint

/-- The service with another gate in the place of its own. -/
def withCheckpoint (service : Service) (checkpoint : Checkpoint) : Service :=
  service.withSite (service.site.withCheckpoint checkpoint)

theorem checkpoint_withCheckpoint (service : Service) (checkpoint : Checkpoint) :
    (service.withCheckpoint checkpoint).checkpoint = checkpoint :=
  service.site.checkpoint_withCheckpoint checkpoint

theorem withCheckpoint_checkpoint (service : Service) :
    service.withCheckpoint service.checkpoint = service := by
  rw [withCheckpoint, checkpoint, Site.withCheckpoint_checkpoint]
  rfl

end Service

namespace Admin

/-! ## What requests say -/

structure Request.Sent (request : Request) (method : Method) (path : List String) : Prop where
  method : request.method = method
  path : request.path = path

/-- The request directs that a command be carried out: it goes to the place for such commands,
and all that it names can be read. -/
inductive Request.Directs (operator : Address) (request : Request) : Checkpoint.Command → Prop
  | setMembership {body accounts}
      (sent : request.Sent .post ["", "admin", "whitelist"])
      (read : readMembership request = .ok body)
      (named : body.accounts.map Address.written? = accounts.map some) :
      Directs operator request (.whitelist operator (.setMembership accounts body.whitelisted))
  | setWhitelistEnabled {enabled}
      (sent : request.Sent .post ["", "admin", "whitelist", "toggle"])
      (read : readEnabled request = .ok enabled) :
      Directs operator request (.whitelist operator (.setEnabled enabled))
  | setExemptions {body asset accounts}
      (sent : request.Sent .post ["", "admin", "exemptions"])
      (read : readExemptions request = .ok body)
      (named : Address.written? body.asset = some asset)
      (exempted : body.accounts.map Address.written? = accounts.map some) :
      Directs operator request (.limiter operator (.setExemptions asset accounts body.exempt))
  | setDefaultLimits {part asset settings limits}
      (sent : request.Sent .put ["", "admin", "limits", "default", part])
      (named : Address.ofPart? part = some asset)
      (read : readLimits request = .ok settings)
      (described : settings.limits? = some limits) :
      Directs operator request (.limiter operator (.setDefaultLimits asset limits))
  | setUserLimits {asset account position settings limits}
      (sent : request.Sent .put ["", "admin", "limits", "user", asset, account])
      (named : Position.ofParts? asset account = some position)
      (read : readLimits request = .ok settings)
      (described : settings.limits? = some limits) :
      Directs operator request (.limiter operator (.setUserLimits position limits))
  | resetUserLimits {asset account position}
      (sent : request.Sent .delete ["", "admin", "limits", "user", asset, account])
      (named : Position.ofParts? asset account = some position) :
      Directs operator request (.limiter operator (.resetUserLimits position))
  | resetUserPeriod {asset account position}
      (sent : request.Sent .post ["", "admin", "period", "reset", asset, account])
      (named : Position.ofParts? asset account = some position) :
      Directs operator request (.limiter operator (.resetUserPeriod position))
  | setChecks {body}
      (sent : request.Sent .put ["", "admin", "config"])
      (read : readChecks request = .ok body) :
      Directs operator request
        (.gate (.setChecks operator body.limitChecks body.whitelistChecks))
  | pause (sent : request.Sent .post ["", "admin", "pause"]) :
      Directs operator request (.gate (.setPaused operator true))
  | unpause (sent : request.Sent .post ["", "admin", "unpause"]) :
      Directs operator request (.gate (.setPaused operator false))

/-- The request only asks, or it is about a snapshot. -/
def Request.Observes (request : Request) : Prop :=
  request.method = .get ∨ request.method = .head ∨ request.path = ["", "admin", "snapshot"]

section Directs

variable {operator : Address} {request : Request} {action : Action}
  {command : Checkpoint.Command}

namespace Request.Directs

private theorem not_observes (directs : request.Directs operator command) : ¬request.Observes := by
  have elsewhere {method : Method} {path : List String} (sent : request.Sent method path)
      (asked : method ≠ .get ∧ method ≠ .head) (other : path ≠ ["", "admin", "snapshot"]) :
      ¬request.Observes := by
    rintro (get | head | snapshot)
    · exact asked.1 (sent.method.symm.trans get)
    · exact asked.2 (sent.method.symm.trans head)
    · exact other (sent.path.symm.trans snapshot)
  cases directs with
  | setMembership sent | setWhitelistEnabled sent | setExemptions sent | setDefaultLimits sent
  | setUserLimits sent | resetUserLimits sent | resetUserPeriod sent | setChecks sent
  | pause sent | unpause sent => exact elsewhere sent (by decide) (by simp)

/-- Refused, a directed command leaves everything as it was. -/
theorem atomic_execute (directs : request.Directs operator command) (checkpoint : Checkpoint)
    (now : Seconds) : (checkpoint.execute now command).Atomic (checkpoint = ·) := by
  cases directs with
  | setMembership | setWhitelistEnabled =>
      exact Checkpoint.atomic_execute_whitelist rfl now operator _
  | setExemptions | setDefaultLimits | setUserLimits | resetUserLimits | resetUserPeriod =>
      exact Checkpoint.atomic_execute_limiter rfl now operator (by nofun)
  | setChecks | pause | unpause =>
      exact Checkpoint.atomic_asAdmin (Outcome.atomic_accepted ..) rfl operator

end Request.Directs

/-! ## From requests to commands -/

namespace Endpoint

private theorem sent_of_ofRequest {endpoint : Endpoint} {method : Method}
    (found : ofRequest request = .ok endpoint) (answers : endpoint.method = method)
    (writing : method ≠ .get) : request.Sent method endpoint.path := by
  rcases ofRequest_eq_ok_iff.mp found with ⟨_, seen, path⟩
  rw [answers] at seen
  refine ⟨?_, path.symm⟩
  cases asked : request.method with
  | head =>
      rw [asked] at seen
      exact absurd seen writing
  | _ =>
      rw [asked] at seen
      exact seen.symm

private theorem observes_of_ofRequest {endpoint : Endpoint}
    (found : ofRequest request = .ok endpoint) (asking : endpoint.method = .get) :
    request.Observes := by
  rcases ofRequest_eq_ok_iff.mp found with ⟨_, method, _⟩
  rw [asking] at method
  cases seen : request.method with
  | get => exact .inl seen
  | head => exact .inr (.inl seen)
  | _ =>
      rw [seen] at method
      cases method

theorem action_of_sent (endpoint : Endpoint)
    (sent : request.Sent endpoint.method endpoint.path) (proper : isProper endpoint.path = true)
    (asked : endpoint.action request = .ok action) : request.action = .ok action := by
  have seen : effective endpoint.method = endpoint.method := by cases endpoint <;> rfl
  refine bind_eq_ok_iff.mpr ⟨endpoint, ofRequest_eq_ok_iff.mpr ?_, asked⟩
  rw [sent.method, sent.path, seen]
  exact ⟨proper, rfl, rfl⟩

end Endpoint

/-- What is asked for is what the request directs, and nothing if it only observes. -/
theorem observes_or_directs (operator : Address) (asked : request.action = .ok action) :
    (request.Observes ∧ action.command? operator = none) ∨
      ∃ command, action.command? operator = some command ∧ request.Directs operator command := by
  rcases bind_eq_ok_iff.mp asked with ⟨endpoint, found, asked⟩
  have observes := Endpoint.observes_of_ofRequest found
  have sent {method : Method} := @Endpoint.sent_of_ofRequest request endpoint method found
  cases endpoint with
  | showStatus =>
      cases asked
      exact .inl ⟨observes rfl, rfl⟩
  | showPosition asset account =>
      rcases (Endpoint.located_eq_ok_iff .showPosition).mp asked with ⟨_, _, rfl⟩
      exact .inl ⟨observes rfl, rfl⟩
  | save =>
      cases asked
      have stored : request.Sent .post ["", "admin", "snapshot"] := sent rfl (by decide)
      exact .inl ⟨.inr (.inr stored.path), rfl⟩
  | setMembership =>
      simp only [Endpoint.action, bind_eq_ok_iff, Endpoint.readAccounts_eq_ok_iff] at asked
      rcases asked with ⟨body, read, accounts, named, done⟩
      cases done
      exact .inr ⟨_, rfl, .setMembership (sent rfl (by decide)) read named⟩
  | setWhitelistEnabled =>
      simp only [Endpoint.action, bind_eq_ok_iff] at asked
      rcases asked with ⟨enabled, read, done⟩
      cases done
      exact .inr ⟨_, rfl, .setWhitelistEnabled (sent rfl (by decide)) read⟩
  | setExemptions =>
      simp only [Endpoint.action, bind_eq_ok_iff, Endpoint.readNamed_eq_ok_iff,
        Endpoint.readAccounts_eq_ok_iff] at asked
      rcases asked with ⟨body, read, asset, named, accounts, exempted, done⟩
      cases done
      exact .inr ⟨_, rfl, .setExemptions (sent rfl (by decide)) read named exempted⟩
  | setDefaultLimits part =>
      rcases Endpoint.action_setDefaultLimits_iff.mp asked with
        ⟨asset, settings, limits, named, read, described, rfl⟩
      exact .inr ⟨_, rfl, .setDefaultLimits (sent rfl (by decide)) named read described⟩
  | setUserLimits asset account =>
      rcases Endpoint.action_setUserLimits_iff.mp asked with
        ⟨position, settings, limits, named, read, described, rfl⟩
      exact .inr ⟨_, rfl, .setUserLimits (sent rfl (by decide)) named read described⟩
  | resetUserLimits asset account =>
      rcases (Endpoint.located_eq_ok_iff .resetUserLimits).mp asked with ⟨position, named, rfl⟩
      exact .inr ⟨_, rfl, .resetUserLimits (sent rfl (by decide)) named⟩
  | resetUserPeriod asset account =>
      rcases (Endpoint.located_eq_ok_iff .resetUserPeriod).mp asked with ⟨position, named, rfl⟩
      exact .inr ⟨_, rfl, .resetUserPeriod (sent rfl (by decide)) named⟩
  | setChecks =>
      simp only [Endpoint.action, bind_eq_ok_iff] at asked
      rcases asked with ⟨body, read, done⟩
      cases done
      exact .inr ⟨_, rfl, .setChecks (sent rfl (by decide)) read⟩
  | setPaused paused =>
      cases asked
      cases paused with
      | true => exact .inr ⟨_, rfl, .pause (sent rfl (by decide))⟩
      | false => exact .inr ⟨_, rfl, .unpause (sent rfl (by decide))⟩

/-- What a request directs is what it asks for. -/
theorem Request.Directs.exists_action (directs : request.Directs operator command) :
    ∃ action, request.action = .ok action ∧ action.command? operator = some command := by
  cases directs with
  | @setMembership body accounts sent read named =>
      refine ⟨.setMembership accounts body.whitelisted,
        Endpoint.action_of_sent .setMembership sent rfl ?_, rfl⟩
      simp only [Endpoint.action, bind_eq_ok_iff, Endpoint.readAccounts_eq_ok_iff]
      exact ⟨body, read, accounts, named, rfl⟩
  | @setWhitelistEnabled enabled sent read =>
      refine ⟨.setWhitelistEnabled enabled,
        Endpoint.action_of_sent .setWhitelistEnabled sent rfl ?_, rfl⟩
      exact bind_eq_ok_iff.mpr ⟨enabled, read, rfl⟩
  | @setExemptions body asset accounts sent read named exempted =>
      refine ⟨.setExemptions asset accounts body.exempt,
        Endpoint.action_of_sent .setExemptions sent rfl ?_, rfl⟩
      simp only [Endpoint.action, bind_eq_ok_iff, Endpoint.readNamed_eq_ok_iff,
        Endpoint.readAccounts_eq_ok_iff]
      exact ⟨body, read, asset, named, accounts, exempted, rfl⟩
  | @setDefaultLimits part asset settings limits sent named read described =>
      have present := Address.isEmpty_of_ofPart? named
      refine ⟨.setDefaultLimits asset limits,
        Endpoint.action_of_sent (.setDefaultLimits part) sent ?_ ?_, rfl⟩
      · simp [Endpoint.path, Endpoint.isProper, present]
      · exact Endpoint.action_setDefaultLimits_iff.mpr
          ⟨asset, settings, limits, named, read, described, rfl⟩
  | @setUserLimits asset account position settings limits sent named read described =>
      have present := Position.isEmpty_of_ofParts? named
      refine ⟨.setUserLimits position limits,
        Endpoint.action_of_sent (.setUserLimits asset account) sent ?_ ?_, rfl⟩
      · simp [Endpoint.path, Endpoint.isProper, present]
      · exact Endpoint.action_setUserLimits_iff.mpr
          ⟨position, settings, limits, named, read, described, rfl⟩
  | @resetUserLimits asset account position sent named =>
      have present := Position.isEmpty_of_ofParts? named
      refine ⟨.resetUserLimits position,
        Endpoint.action_of_sent (.resetUserLimits asset account) sent ?_ ?_, rfl⟩
      · simp [Endpoint.path, Endpoint.isProper, present]
      · exact (Endpoint.located_eq_ok_iff .resetUserLimits).mpr ⟨position, named, rfl⟩
  | @resetUserPeriod asset account position sent named =>
      have present := Position.isEmpty_of_ofParts? named
      refine ⟨.resetUserPeriod position,
        Endpoint.action_of_sent (.resetUserPeriod asset account) sent ?_ ?_, rfl⟩
      · simp [Endpoint.path, Endpoint.isProper, present]
      · exact (Endpoint.located_eq_ok_iff .resetUserPeriod).mpr ⟨position, named, rfl⟩
  | @setChecks body sent read =>
      refine ⟨.setChecks body.limitChecks body.whitelistChecks,
        Endpoint.action_of_sent .setChecks sent rfl ?_, rfl⟩
      exact bind_eq_ok_iff.mpr ⟨body, read, rfl⟩
  | pause sent =>
      exact ⟨.setPaused true, Endpoint.action_of_sent (.setPaused true) sent rfl rfl, rfl⟩
  | unpause sent =>
      exact ⟨.setPaused false, Endpoint.action_of_sent (.setPaused false) sent rfl rfl, rfl⟩

/-- No request directs two commands. -/
theorem Request.Directs.unique {other : Checkpoint.Command}
    (directs : request.Directs operator command) (also : request.Directs operator other) :
    other = command := by
  rcases directs.exists_action with ⟨action, asked, issued⟩
  rcases also.exists_action with ⟨_, again, alsoIssued⟩
  cases asked.symm.trans again
  exact Option.some.inj (alsoIssued.symm.trans issued)

end Directs

/-! ## What comes of requests -/

namespace Response

def Succeeds (response : Response) : Prop :=
  200 ≤ response.status ∧ response.status < 300

/-- The service is as it was, and nothing was published. -/
structure Leaves (response : Response) (service : Service) : Prop where
  service : response.service = service
  events : response.events = []

/-- What came of the request is what comes of an operation that is called directly at the gate
of the service. Of the rest of the service nothing changes. -/
structure Carries (response : Response) (before : Service) (called : Outcome Checkpoint) :
    Prop where
  service : response.service = before.withCheckpoint called.world
  events : response.events = called.events
  succeeds : response.Succeeds ↔ called.answer = .ok ()
  status : ∀ refusal, called.answer = .error refusal → response.status = statusOfRefusal refusal

theorem Carries.checkpoint {response : Response} {before : Service} {called : Outcome Checkpoint}
    (carries : response.Carries before called) : response.service.checkpoint = called.world := by
  rw [carries.service, Service.checkpoint_withCheckpoint]

private theorem le_status_of_error (rejection : Rejection) : 400 ≤ rejection.status := by
  cases rejection with
  | refused refusal => cases refusal <;> simp [Rejection.status, statusOfRefusal]
  | _ => simp [Rejection.status]

theorem succeeds_iff {response : Response} :
    response.Succeeds ↔ ∃ answer, response.reply = .ok answer := by
  rw [Succeeds, status]
  cases response.reply with
  | ok answer => exact iff_of_true (by simp only; omega) ⟨answer, rfl⟩
  | error rejection =>
      have failed := le_status_of_error rejection
      refine iff_of_false (fun succeeds => ?_) (by simp)
      exact absurd succeeds.2 (by simp only; omega)

variable {operator : Address} {action : Action} {command : Checkpoint.Command}

private theorem leaves_ofAction (issued : action.command? operator = none) (service : Service)
    (storage : Storage) : (ofAction service storage operator action).Leaves service := by
  unfold ofAction
  split
  next other => cases issued.symm.trans other
  next =>
      split
      · unfold ofSaving
        split <;> exact ⟨rfl, rfl⟩
      · exact ⟨rfl, rfl⟩

private theorem carries_ofAction (issued : action.command? operator = some command)
    (service : Service) (storage : Storage) :
    (ofAction service storage operator action).Carries service
      (service.checkpoint.execute service.site.now command) := by
  have answer : (service.execute command).answer =
      (service.checkpoint.execute service.site.now command).answer := rfl
  simp only [ofAction, issued]
  refine ⟨rfl, rfl, ?_, ?_⟩
  · simp only [succeeds_iff, ofOutcome, answer]
    cases (service.checkpoint.execute service.site.now command).answer with
    | ok => exact iff_of_true ⟨_, rfl⟩ rfl
    | error refusal => exact iff_of_false (by simp) (by simp)
  · intro refusal refused
    simp only [status, ofOutcome, answer, refused]
    rfl

end Response

section Respond

variable {access : Access} {request : Request} {command : Checkpoint.Command}

/-- Whether the reply keeps its body is all that the method makes of a response. -/
theorem exists_respond (admitted : isAuthorized access.key request.authorization = true)
    (service : Service) (storage : Storage) :
    ∃ bodiless, respond access service storage request =
      { (match request.action with
        | .error rejection => .unchanged service storage (.error rejection)
        | .ok action => .ofAction service storage access.operator action : Response) with
        bodiless } := by
  unfold respond
  rw [admitted, Bool.not_true, if_neg Bool.false_ne_true]
  extract_lets response
  split
  · exact ⟨true, rfl⟩
  · exact ⟨response.bodiless, rfl⟩

theorem respond_carries (admitted : isAuthorized access.key request.authorization = true)
    (directs : request.Directs access.operator command) (service : Service)
    (storage : Storage) :
    (respond access service storage request).Carries service
      (service.checkpoint.execute service.site.now command) := by
  rcases directs.exists_action with ⟨action, asked, issued⟩
  rcases exists_respond admitted service storage with ⟨bodiless, answered⟩
  have carried := Response.carries_ofAction issued service storage
  rw [answered, asked]
  exact ⟨carried.service, carried.events, carried.succeeds, carried.status⟩

theorem leaves_or_directs (admitted : isAuthorized access.key request.authorization = true)
    (service : Service) (storage : Storage) :
    let response := respond access service storage request
    (response.Leaves service ∧ (response.Succeeds → request.Observes)) ∨
      ∃ command, request.Directs access.operator command := by
  intro response
  rcases exists_respond admitted service storage with ⟨bodiless, answered⟩
  change response = _ at answered
  rw [answered]
  cases asked : request.action with
  | error rejection =>
      refine .inl ⟨⟨rfl, rfl⟩, fun succeeds => ?_⟩
      rcases Response.succeeds_iff.mp succeeds with ⟨_, replied⟩
      cases replied
  | ok action =>
      rcases observes_or_directs access.operator asked with
        ⟨observes, issued⟩ | ⟨command, _, directs⟩
      · have left := Response.leaves_ofAction issued service storage
        exact .inl ⟨⟨left.service, left.events⟩, fun _ => observes⟩
      · exact .inr ⟨command, directs⟩

theorem Request.Directs.leaves (directs : request.Directs access.operator command)
    {service : Service} {response : Response}
    (carries : response.Carries service
      (service.checkpoint.execute service.site.now command)) (failed : ¬response.Succeeds) :
    response.Leaves service := by
  have atomic := directs.atomic_execute service.checkpoint service.site.now
  cases answer : (service.checkpoint.execute service.site.now command).answer with
  | ok => exact absurd (carries.succeeds.mpr answer) failed
  | error refusal =>
      refine ⟨?_, carries.events.trans (atomic.silent refusal answer)⟩
      rw [carries.service, ← atomic.spared refusal answer, Service.withCheckpoint_checkpoint]

end Respond

/-- A request with the key that does not succeed leaves the service as it was, and so does one
that only asks or that is about a snapshot; so no record is added to the limiter either. Any
other request that succeeds directs one command, given by the operator, and whenever a request
directs a command, what comes of it is what comes of the command called at the gate. -/
theorem requests_carried_out (access : Access) (service : Service) (storage : Storage)
    (request : Request) (keyed : ∃ text ∈ request.authorization, Presents access.key text) :
    let response := respond access service storage request
    (¬response.Succeeds → response.Leaves service) ∧
      (request.Observes → response.Leaves service) ∧
      (response.Succeeds → ¬request.Observes →
        ∃! command, request.Directs access.operator command) ∧
      ∀ command, request.Directs access.operator command →
        response.Carries service (service.checkpoint.execute service.site.now command) := by
  intro response
  have admitted := isAuthorized_iff.mpr keyed
  have carries {command : Checkpoint.Command} (directs : request.Directs access.operator command) :
      response.Carries service (service.checkpoint.execute service.site.now command) :=
    respond_carries admitted directs service storage
  rcases leaves_or_directs admitted service storage with ⟨leaves, observes⟩ | ⟨command, directs⟩
  · exact ⟨fun _ => leaves, fun _ => leaves, fun succeeds other => absurd (observes succeeds) other,
      fun _ => carries⟩
  · exact ⟨directs.leaves (carries directs), fun observes => absurd observes directs.not_observes,
      fun _ _ => ⟨command, directs, fun _ => directs.unique⟩, fun _ => carries⟩

namespace Sample

/-- The operator is an administrator of the gate here. -/
def governed : Service where
  site := .ofCheckpoint 0
    { (default : Checkpoint) with
      gate := { (default : Gate) with authority := .sole access.operator } }
  path := none

def pausing : Request where
  method := .post
  target := "/admin/pause?at=once"
  authorization := some "Bearer secret"
  contentType := none
  body := ""

private theorem pausing_directs :
    pausing.Directs access.operator (.gate (.setPaused access.operator true)) := by
  refine .pause ⟨rfl, ?_⟩
  rw [Request.path, Text.splitOn_slash]
  decide

end Sample

/-- The gate is paused, and nothing else changes at it. Where the operator is no administrator
the same request changes nothing. -/
theorem requests_carried_out_sample :
    let before := Sample.governed.checkpoint
    let response := respond Sample.access Sample.governed .vacant Sample.pausing
    let after := response.service.checkpoint
    let refused := respond Sample.access Sample.service .vacant Sample.pausing
    (∃ text ∈ Sample.pausing.authorization, Presents Sample.access.key text) ∧
      Sample.pausing.Directs Sample.access.operator
        (.gate (.setPaused Sample.access.operator true)) ∧
      (response.Succeeds ∧ response.events = [.paused Sample.access.operator]) ∧
      (before.gate.switches.paused = false ∧ after.gate.switches.paused = true) ∧
      (after.gate.ledger = before.gate.ledger ∧ after.limiter = before.limiter ∧
        after.whitelist = before.whitelist) ∧
      refused.status = 403 ∧ refused.Leaves Sample.service := by
  intro before response after refused
  have keyed : ∃ text ∈ Sample.pausing.authorization, Presents Sample.access.key text :=
    isAuthorized_iff.mp (isAuthorized_iff_token.mpr (by decide))
  have carried := requests_carried_out Sample.access Sample.governed .vacant Sample.pausing keyed
  have barred := requests_carried_out Sample.access Sample.service .vacant Sample.pausing keyed
  have carries := carried.2.2.2 _ Sample.pausing_directs
  have arrived : after = (before.execute Sample.governed.site.now
      (.gate (.setPaused Sample.access.operator true))).world := carries.checkpoint
  have accepted : (before.execute Sample.governed.site.now
      (.gate (.setPaused Sample.access.operator true))).answer = .ok () := by decide
  have status := (barred.2.2.2 _ Sample.pausing_directs).status
    (.unauthorized .admin Sample.access.operator) (by decide)
  have failed : ¬refused.Succeeds := by
    rw [Response.Succeeds, status]
    decide
  refine ⟨keyed, Sample.pausing_directs, ⟨carries.succeeds.mpr accepted, carries.events⟩,
    ⟨rfl, ?_⟩, ?_, status, barred.1 failed⟩
  · rw [arrived]
    decide
  · rw [arrived]
    exact ⟨rfl, rfl, rfl⟩

end Admin

end Turnstile
