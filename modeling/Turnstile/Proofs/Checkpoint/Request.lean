import Turnstile.Proofs.Checkpoint.Movement

namespace Turnstile

/-! What can be asked of a gate and its collaborators, and what it takes. Each component
looks into its own table of grants and nowhere else, before it does anything: without the
role that a request asks for, nothing is changed, recorded or published. -/

/-- A component with a table of grants of its own. -/
inductive Component where
  | whitelist
  | limiter
  | gate
deriving DecidableEq

namespace Checkpoint

def authority (checkpoint : Checkpoint) : Component → Authority
  | .whitelist => checkpoint.whitelist.authority
  | .limiter => checkpoint.limiter.authority
  | .gate => checkpoint.gate.authority

def withAuthority (checkpoint : Checkpoint) (authority : Authority) : Component → Checkpoint
  | .whitelist => { checkpoint with whitelist.authority := authority }
  | .limiter => { checkpoint with limiter.authority := authority }
  | .gate => { checkpoint with gate.authority := authority }

/-! ## Requests -/

/-- A command, or a change made directly at a table of grants, where any role can be given
and nothing is announced. -/
inductive Request where
  | execute (command : Command)
  | regrant (component : Component) (caller : Address) (role : Role) (account : Address)
      (held : Bool)
deriving DecidableEq

def regrant (checkpoint : Checkpoint) (component : Component) (caller : Address)
    (role : Role) (account : Address) (held : Bool) : Outcome Checkpoint :=
  match (checkpoint.authority component).assign caller role account held with
  | .error refusal => .refused checkpoint refusal
  | .ok (changed, _) => .accepted (checkpoint.withAuthority changed component) [] []

def handle (checkpoint : Checkpoint) (now : Seconds) : Request → Outcome Checkpoint
  | .execute command => checkpoint.execute now command
  | .regrant component caller role account held =>
      checkpoint.regrant component caller role account held

end Checkpoint

/-! ## What requests take -/

/-- A role that the caller has to hold in the table of a component. -/
structure Demand where
  component : Component
  role : Role
  caller : Address
deriving DecidableEq

/-- Moving balances and charging limits is open to everyone; what else the gate does takes a
role. -/
def Gate.Command.demand? : Gate.Command → Option Demand
  | .mint caller .. => some ⟨.gate, .minter, caller⟩
  | .assignMinter caller .. => some ⟨.gate, .admin, caller⟩
  | .setChecks caller .. => some ⟨.gate, .admin, caller⟩
  | .setPaused caller _ => some ⟨.gate, .admin, caller⟩
  | .replaceWhitelist caller _ => some ⟨.gate, .admin, caller⟩
  | .replaceLimiter caller _ => some ⟨.gate, .admin, caller⟩
  | .recover caller .. => some ⟨.gate, .admin, caller⟩
  | .transfer .. | .transferFrom .. | .burn .. => none
  | .admitTransfer .. | .recordConsumption .. | .deposit .. => none

/-- What is checked of the values of a command before its caller is looked at. -/
def Limiter.Command.check : Limiter.Command → Except Refusal Unit
  | .setDefaultCap _ cap | .setUserCap _ cap => checkPositive cap
  | .setDefaultPeriod _ quota period | .setUserPeriod _ quota period =>
      checkPeriod quota period
  | .setDefaultLimits _ limits | .setUserLimits _ limits => limits.check
  | _ => .ok ()

namespace Checkpoint.Request

def demand? : Request → Option Demand
  | .execute (.whitelist caller command) => some ⟨.whitelist, command.role, caller⟩
  | .execute (.limiter caller command) => some ⟨.limiter, command.role, caller⟩
  | .execute (.gate command) => command.demand?
  | .regrant component caller .. => some ⟨component, .admin, caller⟩

def check : Request → Except Refusal Unit
  | .execute (.limiter _ command) => command.check
  | _ => .ok ()

end Checkpoint.Request

def Checkpoint.require (checkpoint : Checkpoint) (demand : Demand) : Except Refusal Unit :=
  (checkpoint.authority demand.component).require demand.role demand.caller

/-! ## Values -/

/-- If the check fails, it is for a value that no state could make acceptable. -/
structure AtMostMisuse (check : Except Refusal Unit) : Prop where
  misuse : ∀ refusal, check = .error refusal → ∃ misuse, refusal = .invalidArgument misuse

private theorem atMostMisuse_ok : AtMostMisuse (.ok ()) :=
  ⟨nofun⟩

private theorem atMostMisuse_ite (barred : Prop) [Decidable barred] (misuse : Misuse) :
    AtMostMisuse (if barred then .error (.invalidArgument misuse) else .ok ()) := by
  split
  · refine ⟨fun refusal failed => ?_⟩
    cases failed
    exact ⟨misuse, rfl⟩
  · exact atMostMisuse_ok

theorem AtMostMisuse.bind {first second : Except Refusal Unit}
    (before : AtMostMisuse first) (after : AtMostMisuse second) :
    AtMostMisuse (first >>= fun _ => second) := by
  cases first with
  | ok => exact after
  | error refusal => exact ⟨before.misuse⟩

private theorem atMostMisuse_checkPositive (amount : Amount) :
    AtMostMisuse (checkPositive amount) :=
  atMostMisuse_ite ..

private theorem atMostMisuse_checkPeriod (quota : Amount) (period : Seconds) :
    AtMostMisuse (checkPeriod quota period) :=
  (atMostMisuse_checkPositive quota).bind (atMostMisuse_ite ..)

private theorem Limits.atMostMisuse_check (limits : Limits) : AtMostMisuse limits.check :=
  (atMostMisuse_checkPositive _).bind (atMostMisuse_checkPeriod ..)

theorem Limiter.Command.atMostMisuse_check (command : Limiter.Command) :
    AtMostMisuse command.check := by
  cases command with
  | setDefaultCap | setUserCap => exact atMostMisuse_checkPositive _
  | setDefaultPeriod | setUserPeriod => exact atMostMisuse_checkPeriod ..
  | setDefaultLimits | setUserLimits => exact Limits.atMostMisuse_check _
  | assignManager | assignCaller | setDefaultCooldown | setUserCooldown | resetUserLimits
  | resetUserPeriod | setExemptions | enforceCooldown | recordTransfer | charge =>
      exact atMostMisuse_ok

theorem Checkpoint.Request.atMostMisuse_check (request : Request) :
    AtMostMisuse request.check := by
  cases request with
  | regrant => exact atMostMisuse_ok
  | execute command =>
      cases command with
      | whitelist | gate => exact atMostMisuse_ok
      | limiter caller command => exact command.atMostMisuse_check

/-! ## Callers -/

namespace Authority

variable {World : Type}

private theorem assign_of_error {authority : Authority} {caller : Address} {refusal : Refusal}
    (barred : authority.require .admin caller = .error refusal) (role : Role)
    (account : Address) (held : Bool) :
    authority.assign caller role account held = .error refusal := by
  rw [assign, barred]
  rfl

private theorem barred_reassign (world : World) (authority : Authority)
    (install : Authority → World) (caller : Address) (role : Role) (account : Address)
    (held : Bool) :
    (authority.reassign world install caller role account held).Barred world
      (authority.require .admin caller) := by
  refine ⟨fun refusal barred => ?_⟩
  rw [reassign, assign_of_error barred]

end Authority

theorem Whitelist.barred_perform (whitelist : Whitelist) (caller : Address)
    (command : Command) :
    (whitelist.perform caller command).Barred whitelist
      (whitelist.authority.require command.role caller) := by
  cases command with
  | setMembership | setEnabled => exact Outcome.barred_guarded ..
  | assignWhitelister | assignCaller => exact Authority.barred_reassign ..

/-- Values come first where a command sets limits, and then the caller. -/
theorem Limiter.barred_perform (limiter : Limiter) (now : Seconds) (caller : Address)
    (command : Command) :
    (limiter.perform now caller command).Barred limiter
      (command.check >>= fun _ => limiter.authority.require command.role caller) := by
  cases command with
  | assignManager | assignCaller => exact Authority.barred_reassign ..
  | setDefaultCap | setDefaultPeriod | setDefaultLimits | setUserCap | setUserPeriod
  | setUserLimits => exact (Outcome.barred_guarded ..).behind _
  | setDefaultCooldown | setUserCooldown | resetUserLimits | resetUserPeriod
  | setExemptions | enforceCooldown | recordTransfer | charge =>
      exact Outcome.barred_guarded ..

namespace Checkpoint

variable {checkpoint : Checkpoint} {demand : Demand}

theorem barred_perform (now : Seconds) {command : Gate.Command}
    (asked : command.demand? = some demand) :
    (checkpoint.perform now command).Barred checkpoint (checkpoint.require demand) := by
  cases command with
  | transfer | transferFrom | burn | admitTransfer | recordConsumption | deposit =>
      cases asked
  | assignMinter =>
      cases asked
      exact Authority.barred_reassign ..
  | mint | setChecks | setPaused | replaceWhitelist | replaceLimiter | recover =>
      cases asked
      exact Outcome.barred_guarded ..

private theorem barred_regrant (component : Component) (caller : Address) (role : Role)
    (account : Address) (held : Bool) :
    (checkpoint.regrant component caller role account held).Barred checkpoint
      (checkpoint.require ⟨component, .admin, caller⟩) := by
  refine ⟨fun refusal barred => ?_⟩
  rw [regrant, Authority.assign_of_error barred]

theorem barred_handle (now : Seconds) {request : Request}
    (asked : request.demand? = some demand) :
    (checkpoint.handle now request).Barred checkpoint
      (request.check >>= fun _ => checkpoint.require demand) := by
  cases request with
  | regrant component caller role account held =>
      cases asked
      exact barred_regrant ..
  | execute command =>
      cases command with
      | whitelist caller command =>
          cases asked
          exact (checkpoint.whitelist.barred_perform caller command).within
            fun whitelist => { checkpoint with whitelist }
      | limiter caller command =>
          cases asked
          exact (checkpoint.limiter.barred_perform now caller command).within
            fun limiter => { checkpoint with limiter }
      | gate command => exact barred_perform now asked

/-- Who does not hold the role that a request takes, in the table of the component that is
asked, is refused for that, or before that for a value that is never acceptable. The gate
and its collaborators are left exactly as they were and nothing is published. -/
theorem handle_of_unheld {request : Request} (asked : request.demand? = some demand)
    (unheld : (checkpoint.authority demand.component).holds demand.role demand.caller = false)
    (now : Seconds) :
    let outcome := checkpoint.handle now request
    (outcome.answer = .error (.unauthorized demand.role demand.caller) ∨
        ∃ misuse, request.check = .error (.invalidArgument misuse) ∧
          outcome.answer = .error (.invalidArgument misuse)) ∧
      outcome.world = checkpoint ∧ outcome.events = [] := by
  intro outcome
  have required : checkpoint.require demand =
      .error (.unauthorized demand.role demand.caller) := Authority.require_of_unheld unheld
  have barred : outcome.Barred checkpoint
      (request.check >>= fun _ => checkpoint.require demand) := barred_handle now asked
  have misused := request.atMostMisuse_check
  rw [required] at barred
  cases checked : request.check with
  | ok =>
      rw [checked] at barred
      rw [show outcome = _ from barred.refused _ rfl]
      exact ⟨.inl rfl, rfl, rfl⟩
  | error refusal =>
      rcases misused.misuse refusal checked with ⟨misuse, rfl⟩
      rw [checked] at barred
      rw [show outcome = _ from barred.refused _ rfl]
      exact ⟨.inr ⟨misuse, rfl, rfl⟩, rfl, rfl⟩

end Checkpoint

namespace Sample

/-- The administrator of the limiter manages no limits of single accounts. -/
def overreach : Checkpoint.Request :=
  .execute (.limiter admin (.setUserCap ⟨asset, payer⟩ ⟨500, by decide⟩))

private theorem demand?_overreach :
    overreach.demand? = some ⟨.limiter, .limitManager, admin⟩ := rfl

end Sample

theorem Checkpoint.handle_of_unheld_sample :
    (Sample.checkpoint.authority .limiter).holds .admin Sample.admin = true ∧
      (Sample.checkpoint.authority .limiter).holds .limitManager Sample.admin = false ∧
      (Sample.checkpoint.handle 1000 Sample.overreach).world = Sample.checkpoint :=
  ⟨rfl, rfl, (handle_of_unheld Sample.demand?_overreach rfl 1000).2.1⟩

end Turnstile
