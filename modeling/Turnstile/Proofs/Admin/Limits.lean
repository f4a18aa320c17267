import Turnstile.Proofs.Admin.Direction
import Turnstile.Proofs.Configuration.Settings
import Turnstile.Proofs.Limiter.Records
import Turnstile.Proofs.Wire.Form
import Turnstile.Wire.Response

namespace Turnstile

/-! Limits that administrators are shown, and that they send. They are shown as settings, in the
form of the body of a request that sets limits. Whatever is shown can be sent as it is, and is
taken for the limits that it was shown for; and who has set limits is shown the same ones,
however they were written. -/

open Json

/-! ## Settings as bodies -/

@[simp] theorem Json.Fields.optional_lookup_cons {Item : Type} (name : String) (value : Value)
    (rest : List (String × Value)) (sought : String) (decode : Value → Decoded Item)
    (default : Item) :
    Fields.optional (fun sought => ((name, value) :: rest).lookup sought) sought decode default =
      if sought = name then decode value
      else Fields.optional (fun sought => rest.lookup sought) sought decode default := by
  by_cases same : sought = name
  · simp [Fields.optional, same]
  · have different : (sought == name) = false := beq_false_of_ne same
    simp [Fields.optional, List.lookup_cons, same, different]

@[simp] theorem Json.Value.decodeText_ofText (content : String) :
    (Value.ofText content).decodeText = .ok content := rfl

theorem LimitSettings.faithful (surplus : Bool) : Faithful encode (decode surplus) where
  plain settings := .record (by
    simp [encodedFields, plain_ofText, Seconds.faithful.plain])
  decode_encode settings := by
    have named : settings.encodedFields.map Prod.fst = fieldNames := rfl
    rw [decode, encode, Value.fields_record named (by decide) surplus]
    simp [encodedFields, ofFields]

namespace Admin

/-- The request has a body of the value, in whatever layout. -/
structure Request.Conveys (request : Request) (value : Value) : Prop where
  contentType : hasJsonType request = true
  size : request.body.utf8ByteSize ≤ maximalSize
  body : Document.read request.body = ⟨value, true⟩

private theorem readBody_of_conveys {Content : Type} {request : Request} {value : Value}
    (conveys : request.Conveys value) {shape : Shape} {required : Bool}
    (surveyed : value.survey shape required = .ok ()) (decode : Fields → Decoded Content) :
    readBody request shape required decode =
      ((value.fields (shape.map Prod.fst) false).bind decode).mapError rejectionOf := by
  simp only [readBody, conveys.contentType, Nat.not_lt.mpr conveys.size, conveys.body, surveyed,
    Bool.not_true, Bool.false_eq_true, if_false]

/-- Settings can be sent in the form in which limits are shown. -/
private theorem readLimits_of_conveys {request : Request} {settings : LimitSettings}
    (conveys : request.Conveys settings.encode) : readLimits request = .ok settings := by
  have decoded := (LimitSettings.faithful false).decode_encode settings
  refine (readBody_of_conveys conveys ?surveyed LimitSettings.ofFields).trans ?read
  case surveyed =>
    simp [LimitSettings.encode, LimitSettings.encodedFields, Value.record, Value.survey,
      Value.surveyMembers, checked, Except.map, List.lookup_cons]
  case read => exact congrArg (Except.mapError rejectionOf) decoded

/-- What is sent as it was shown asks for the limits that were shown. -/
private theorem resolveLimits_of_conveys {request : Request} {limits : Limits}
    (conveys : request.Conveys (encodeLimits limits)) (valid : limits.Valid) :
    readLimits request >>= Endpoint.resolveLimits = .ok limits :=
  bind_eq_ok_iff.mpr ⟨_, readLimits_of_conveys conveys,
    Endpoint.resolveLimits_eq_ok_iff.mpr (LimitSettings.limits?_ofLimits valid)⟩

/-! ## Limits in replies -/

/-- The limits that are shown, alone or among other things. -/
def Answer.limits? : Answer → Option Limits
  | .limits shown => some shown
  | .position report => some report.view.limits
  | .status _ | .switches _ | .saved _ | .done => none

end Admin

namespace Limiter

variable {limiter : Limiter} {caller : Address} {limits : Limits}

private theorem ensures_setDefaultLimits (asset : Address) :
    (limiter.setDefaultLimits caller asset limits).Ensures fun after =>
      after.defaultLimits asset = limits := by
  refine Outcome.ensures_guarded fun _ => Outcome.ensures_guarded fun _ =>
    Outcome.ensures_accepted ?_ _ _
  rw [defaultLimits, Table.get?_insert_self]
  rfl

/-- Every dimension is overridden. -/
private theorem ensures_setUserLimits {position : Position}
    (counted : limiter.isExempt position = false) :
    (limiter.setUserLimits caller position limits).Ensures fun after =>
      after.effectiveLimits position = limits := by
  refine Outcome.ensures_guarded fun _ => Outcome.ensures_guarded fun _ =>
    Outcome.ensures_accepted ?_ _ _
  have still : (limiter.standing position).exempt = false := counted
  simp only [effectiveLimits, isExempt, enforcedLimits, standing_withStanding, if_true, still,
    Bool.false_eq_true, if_false, Standing.limits, Overrides.apply_setAll]

end Limiter

namespace Admin

/-! ## Replies -/

section Respond

variable {access : Access} {service : Service} {storage : Storage} {request : Request}
  {action : Action} {answer : Answer}

/-- A request that succeeds was let in and asked for something. -/
private theorem exists_action_of_succeeds
    (succeeds : (respond access service storage request).Succeeds) :
    isAuthorized access.key request.authorization = true ∧
      ∃ action, request.action = .ok action := by
  rcases Response.succeeds_iff.mp succeeds with ⟨answer, replied⟩
  cases admitted : isAuthorized access.key request.authorization with
  | false =>
      rw [respond, admitted] at replied
      cases replied
  | true =>
      rcases exists_respond admitted service storage with ⟨_, answered⟩
      rw [answered] at replied
      cases asked : request.action with
      | ok action => exact ⟨rfl, action, rfl⟩
      | error rejection =>
          rw [asked] at replied
          cases replied

private theorem respond_of_action (admitted : isAuthorized access.key request.authorization = true)
    (asked : request.action = .ok action) (whole : request.method ≠ .head) :
    respond access service storage request =
      .ofAction service storage access.operator action := by
  simp only [respond, admitted, asked, whole, Bool.not_true, Bool.false_eq_true, if_false]

private theorem Response.bodiless_ofAction (service : Service) (storage : Storage)
    (operator : Address) (action : Action) :
    (ofAction service storage operator action).bodiless = false := by
  unfold ofAction
  split
  · rfl
  · split
    · unfold ofSaving
      split <;> rfl
    · rfl

/-- A request that is sent to an endpoint asks for what the endpoint reads in it. -/
private theorem Endpoint.action_of_asked {endpoint : Endpoint}
    (sent : request.Sent endpoint.method endpoint.path) (asked : request.action = .ok action) :
    endpoint.action request = .ok action := by
  rcases bind_eq_ok_iff.mp asked with ⟨other, found, asked⟩
  have routed := lookup_atPath_iff.mpr (ofRequest_eq_ok_iff.mp found).2
  have seen : effective endpoint.method = endpoint.method := by cases endpoint <;> rfl
  rw [sent.method, sent.path, seen, lookup_atPath_iff.mpr ⟨rfl, rfl⟩] at routed
  cases routed
  exact asked

/-- What was issued was accepted, and the reply shows what it has led to. -/
private theorem replied_of_command {operator : Address} {command : Checkpoint.Command}
    (issued : action.command? operator = some command)
    (replied : (Response.ofAction service storage operator action).reply = .ok answer) :
    ∃ after : Service, answer = action.answer operator after ∧
      (service.site.checkpoint.execute service.site.now command).Arrives
        after.site.checkpoint := by
  simp only [Response.ofAction, issued, Response.ofOutcome] at replied
  cases performed : (service.execute command).answer with
  | error refusal =>
      rw [performed] at replied
      cases replied
  | ok =>
      rw [performed] at replied
      cases replied
      exact ⟨_, rfl, performed, (Site.checkpoint_withCheckpoint ..).symm⟩

/-! ### Limits that were set -/

/-- The request sets the limits of an asset, or those of an account that is not exempt. -/
inductive Request.SetsLimits (request : Request) (limiter : Limiter) : Prop
  | defaults {asset : String} (sent : request.Sent .put ["", "admin", "limits", "default", asset]) :
      SetsLimits request limiter
  | user {asset account : String} {position : Position}
      (sent : request.Sent .put ["", "admin", "limits", "user", asset, account])
      (named : Position.ofParts? asset account = some position)
      (counted : limiter.isExempt position = false) : SetsLimits request limiter

/-- Who has set limits is shown the limits that were read. -/
private theorem body?_of_setsLimits (sets : request.SetsLimits service.site.checkpoint.limiter)
    (succeeds : (respond access service storage request).Succeeds) :
    ∃ settings limits, readLimits request = .ok settings ∧ settings.limits? = some limits ∧
      (respond access service storage request).body? = some (encodeLimits limits) := by
  rcases exists_action_of_succeeds succeeds with ⟨admitted, action, asked⟩
  have put : request.method = .put := by
    cases sets with
    | defaults sent | user sent => exact sent.method
  have whole : request.method ≠ .head := by
    rw [put]
    decide
  rw [respond_of_action admitted asked whole] at succeeds ⊢
  rcases Response.succeeds_iff.mp succeeds with ⟨answer, replied⟩
  rw [Response.body?, Response.bodiless_ofAction, replied]
  cases sets with
  | @defaults name sent =>
      have asked : (Endpoint.setDefaultLimits name).action request = .ok action :=
        Endpoint.action_of_asked sent asked
      rcases Endpoint.action_setDefaultLimits_iff.mp asked with
        ⟨asset, settings, limits, _, read, described, rfl⟩
      rcases replied_of_command rfl replied with ⟨after, rfl, arrives⟩
      have stored : (service.site.checkpoint.limiter.setDefaultLimits access.operator asset
          limits).world = after.site.checkpoint.limiter :=
        congrArg Checkpoint.limiter arrives.world
      have shown := (Limiter.ensures_setDefaultLimits asset).done arrives.answer
      rw [stored] at shown
      exact ⟨settings, limits, read, described, congrArg (some ∘ encodeLimits) shown⟩
  | @user asset account position sent named counted =>
      have asked : (Endpoint.setUserLimits asset account).action request = .ok action :=
        Endpoint.action_of_asked sent asked
      rcases Endpoint.action_setUserLimits_iff.mp asked with
        ⟨found, settings, limits, same, read, described, rfl⟩
      cases named.symm.trans same
      rcases replied_of_command rfl replied with ⟨after, rfl, arrives⟩
      have stored : (service.site.checkpoint.limiter.setUserLimits access.operator position
          limits).world = after.site.checkpoint.limiter :=
        congrArg Checkpoint.limiter arrives.world
      have shown := (Limiter.ensures_setUserLimits counted).done arrives.answer
      rw [stored] at shown
      exact ⟨settings, limits, read, described, congrArg (some ∘ encodeLimits) shown⟩

/-! ### Limits that were checked

Where everything that a limiter stores was checked before, so is everything that is shown of it. -/

private theorem wellLimited_execute {checkpoint : Checkpoint}
    (sound : checkpoint.limiter.WellLimited) (now : Seconds) {operator : Address}
    {command : Checkpoint.Command} (issued : action.command? operator = some command) :
    (checkpoint.execute now command).Ensures fun after => after.limiter.WellLimited := by
  cases action with
  | showStatus | showPosition | save => cases issued
  | setMembership | setWhitelistEnabled =>
      cases issued
      exact ⟨fun _ => sound⟩
  | setExemptions | setDefaultLimits | setUserLimits | resetUserLimits | resetUserPeriod =>
      cases issued
      exact ⟨(sound.ensures_perform now operator _).done⟩
  | setChecks | setPaused =>
      cases issued
      exact Outcome.ensures_guarded fun _ => ⟨fun _ => sound⟩

private theorem wellLimited_ofAction {operator : Address}
    (sound : service.site.checkpoint.limiter.WellLimited)
    (replied : (Response.ofAction service storage operator action).reply = .ok answer) :
    ∃ after : Service, answer = action.answer operator after ∧
      after.site.checkpoint.limiter.WellLimited := by
  cases issued : action.command? operator with
  | some command =>
      rcases replied_of_command issued replied with ⟨after, same, arrives⟩
      have kept := (wellLimited_execute sound service.site.now issued).done arrives.answer
      rw [arrives.world] at kept
      exact ⟨after, same, kept⟩
  | none =>
      refine ⟨service, ?_, sound⟩
      cases action with
      | showStatus | showPosition =>
          cases replied
          rfl
      | save =>
          simp only [Response.ofAction, Action.command?, Response.ofSaving] at replied
          split at replied
          · cases replied
            rfl
          · cases replied
      | _ => cases issued

theorem valid_of_shown (sound : service.site.checkpoint.limiter.WellLimited)
    (replied : (respond access service storage request).reply = .ok answer) {shown : Limits}
    (shows : answer.limits? = some shown) : shown.Valid := by
  have succeeds := Response.succeeds_iff.mpr ⟨answer, replied⟩
  rcases exists_action_of_succeeds succeeds with ⟨admitted, action, asked⟩
  rcases exists_respond admitted service storage with ⟨_, answered⟩
  rw [answered, asked] at replied
  rcases wellLimited_ofAction sound replied with ⟨after, rfl, sound⟩
  cases action with
  | showPosition position | setUserLimits position | resetUserLimits position =>
      cases shows
      exact Limiter.valid_effectiveLimits sound position
  | setDefaultLimits asset =>
      cases shows
      exact sound.defaults asset
  | _ => cases shows

end Respond

/-- Amounts and limits that leave room are read back as they are shown, and nothing that is read
as limits leaves none. Limits that a limiter shows, all that it stores having been checked, are
asked for by every request that sends them as they were shown. Who has set the limits of an
asset, or of an account that is not exempt, is answered with what stands for the limits that
the request describes, and asks for the same by sending it. -/
theorem limits_sent_back :
    (∀ field amount, readAmount field (Amount.toSetting amount) = .ok amount) ∧
      (∀ field (limits : Limits), limits.check = .ok () →
        (LimitSettings.ofLimits limits).resolve field = .ok limits) ∧
      (∀ field (settings : LimitSettings) limits,
        settings.resolve field = .ok limits → limits.check = .ok ()) ∧
      ∀ access service storage request,
        let response := respond access service storage request
        let limiter := service.site.checkpoint.limiter
        (limiter.WellLimited → ∀ answer, response.reply = .ok answer →
          ∀ shown ∈ answer.limits?, shown.check = .ok () ∧
            ∀ again : Request, again.Conveys (encodeLimits shown) →
              readLimits again >>= Endpoint.resolveLimits = .ok shown) ∧
        (request.SetsLimits limiter → response.Succeeds →
          ∃ settings limits body, readLimits request = .ok settings ∧
            settings.resolve "limits" = .ok limits ∧ response.body? = some body ∧
            (∃ shown, LimitSettings.decode false body = .ok shown ∧
              ∀ field, shown.resolve field = .ok limits) ∧
            ∀ again : Request, again.Conveys body →
              readLimits again >>= Endpoint.resolveLimits = .ok limits) := by
  refine ⟨readAmount_toSetting, ?described, ?read, fun access service storage request => ?_⟩
  case described =>
    intro field limits checked
    exact LimitSettings.resolve_ofLimits field (Limits.check_eq_ok_iff.mp checked)
  case read =>
    intro field settings limits read
    exact Limits.check_eq_ok_iff.mpr (LimitSettings.valid_of_resolve read)
  refine ⟨?shown, ?set⟩
  case shown =>
    intro sound answer replied shown shows
    have valid := valid_of_shown sound replied shows
    refine ⟨Limits.check_eq_ok_iff.mpr valid, fun _ conveys => ?_⟩
    exact resolveLimits_of_conveys conveys valid
  case set =>
    intro sets succeeds
    rcases body?_of_setsLimits sets succeeds with ⟨settings, limits, read, described, answered⟩
    have valid := LimitSettings.valid_of_limits? described
    have resolved : settings.resolve "limits" = .ok limits := by
      rw [← toOption_eq_some_iff, settings.toOption_resolve, described]
    have decoded := (LimitSettings.faithful false).decode_encode (.ofLimits limits)
    exact ⟨settings, limits, _, read, resolved, answered,
      ⟨_, decoded, fun field => LimitSettings.resolve_ofLimits field valid⟩,
      fun _ conveys => resolveLimits_of_conveys conveys valid⟩

namespace Sample

/-- The operator is an administrator of the limiter here. -/
def limiter : Limiter where
  fallback := .unlimited
  defaults := .empty
  standings := .empty
  authority := .sole access.operator

def limited : Service where
  site := .ofCheckpoint 0 { (default : Checkpoint) with limiter }
  path := none

def described : LimitSettings where
  cap := " Max "
  cooldown := 5
  quota := "0x64"
  period := 60

def limiting : Request where
  method := .put
  target := "/admin/limits/default/0x0000000000000000000000000000000000000005"
  authorization := some "Bearer secret"
  contentType := some "application/json"
  body := described.encode.toLines

private theorem limiting_sent : limiting.Sent .put
    ["", "admin", "limits", "default", "0x0000000000000000000000000000000000000005"] := by
  refine ⟨rfl, ?_⟩
  rw [Request.path, Text.splitOn_slash]
  decide

private theorem limiting_conveys : limiting.Conveys described.encode where
  contentType := by decide
  size := by decide
  body := read_toLines ((LimitSettings.faithful false).plain described)

theorem wellLimited : limiter.WellLimited where
  fallback := by decide
  defaults asset := by
    rw [Limiter.defaultLimits, limiter, Table.get?_empty]
    decide
  overrides position := by
    rw [Limiter.standing, Limiter.standing?, limiter, Table.get?_empty]
    decide

end Sample

/-- The amounts were not written as they are shown. -/
theorem limits_sent_back_sample :
    let limits : Limits :=
      { cap := .unlimited, cooldown := 5, quota := .ofNat 100, period := 60 }
    let limiter := Sample.limited.site.checkpoint.limiter
    let response := respond Sample.access Sample.limited .vacant Sample.limiting
    let again := { Sample.limiting with body := (encodeLimits limits).toLines }
    limits.check = .ok () ∧ (LimitSettings.ofLimits limits).resolve "limits" = .ok limits ∧
      limiter.WellLimited ∧ response.reply = .ok (.limits limits) ∧
      again.Conveys (encodeLimits limits) ∧
      readLimits again >>= Endpoint.resolveLimits = .ok limits ∧
      Sample.limiting.SetsLimits limiter ∧ response.Succeeds ∧
      readLimits Sample.limiting = .ok Sample.described ∧
      ∃ body, response.body? = some body ∧ ∃ shown,
        LimitSettings.decode false body = .ok shown ∧ shown.resolve "body" = .ok limits := by
  intro limits limiter response again
  rcases limits_sent_back with ⟨_, described, read, answered⟩
  rcases answered Sample.access Sample.limited .vacant Sample.limiting with ⟨shown, set⟩
  have resolved : Sample.described.resolve "limits" = .ok limits := by decide
  have checked : limits.check = .ok () := read _ _ _ resolved
  have sets : Sample.limiting.SetsLimits limiter := .defaults Sample.limiting_sent
  have sent := readLimits_of_conveys Sample.limiting_conveys
  have conveys : again.Conveys (encodeLimits limits) :=
    ⟨by decide, by decide, read_toLines ((LimitSettings.faithful false).plain _)⟩
  have admitted : isAuthorized Sample.access.key Sample.limiting.authorization = true :=
    isAuthorized_iff_token.mpr (by decide)
  have asked : Sample.limiting.action = .ok (.setDefaultLimits ⟨5, by decide⟩ limits) :=
    Endpoint.action_of_sent (.setDefaultLimits _) Sample.limiting_sent rfl
      (Endpoint.action_setDefaultLimits_iff.mpr
        ⟨_, _, _, by decide, sent, LimitSettings.limits?_of_resolve resolved, rfl⟩)
  have replied : response.reply = .ok (.limits limits) :=
    (congrArg Response.reply (respond_of_action admitted asked (by decide))).trans (by decide)
  have succeeds : response.Succeeds := Response.succeeds_iff.mpr ⟨_, replied⟩
  have repeated := (shown Sample.wellLimited _ replied limits rfl).2 again conveys
  rcases set sets succeeds with
    ⟨_, _, body, taken, same, stands, ⟨settings, decoded, means⟩, _⟩
  cases sent.symm.trans taken
  cases resolved.symm.trans same
  exact ⟨checked, described _ _ checked, Sample.wellLimited, replied, conveys, repeated, sets,
    succeeds, sent, body, stands, settings, decoded, means _⟩

end Admin

end Turnstile
