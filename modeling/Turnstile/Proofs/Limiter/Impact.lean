import Turnstile.Proofs.Limiter.Charge
import Turnstile.Proofs.Run

namespace Turnstile

/-! What a call to a limiter means for the standing of one position. Most calls leave the
standing as it is or change its overrides, its exemption or its window. Three commands
enforce limits; what they bring about is said once for all three. -/

/-! ## Enforcement -/

/-- A way to hold a standing to its limits. -/
inductive Enforcement where
  | pace
  | consume (amount : Amount)
  | charge (amount : Amount)
deriving DecidableEq

namespace Enforcement

def judge (now : Seconds) : Enforcement → Standing → Limits → Except Refusal Standing
  | .pace, standing, limits => standing.pace limits now
  | .consume amount, standing, limits => standing.consume limits amount now
  | .charge amount, standing, limits => standing.charge limits amount now

/-- What is taken out of the quota. -/
def amount? : Enforcement → Option Amount
  | .pace => none
  | .consume amount | .charge amount => some amount

/-- The cooldown has to be over and starts anew. -/
def paces : Enforcement → Bool
  | .pace | .charge _ => true
  | .consume _ => false

def command (position : Position) : Enforcement → Limiter.Command
  | .pace => .enforceCooldown position
  | .consume amount => .recordTransfer position amount
  | .charge amount => .charge position amount

/-- An enforcement that passed has led from one standing to the other. -/
structure Passed (enforcement : Enforcement) (limits : Limits) (now : Seconds)
    (before after : Standing) : Prop where
  overrides : after.overrides = before.overrides
  exempt : after.exempt = before.exempt
  paced : enforcement.paces = true →
    (before.cooldownCondition limits now).holds = true ∧ after.lastTransferAt = now
  unpaced : enforcement.paces = false → after.lastTransferAt = before.lastTransferAt
  consumed : ∀ amount, enforcement.amount? = some amount →
    (before.quotaCondition limits amount now).holds = true ∧
      Standing.Window.Fuller amount (before.windowAt limits.period now) after.window
  unconsumed : enforcement.amount? = none → after.window = before.window

section Passed

variable {limits : Limits} {now : Seconds} {before after : Standing}

theorem passed_pace (passed : before.pace limits now = .ok after) :
    Enforcement.pace.Passed limits now before after := by
  rcases exists_of_bind_eq_ok passed with ⟨_, elapsed, done⟩
  rw [Standing.checkCooldown_eq_verdict, verdict_cons_eq_ok_iff] at elapsed
  cases done
  exact ⟨rfl, rfl, fun _ => ⟨elapsed.1, rfl⟩, nofun, nofun, fun _ => rfl⟩

private theorem passed_consume {amount : Amount}
    (passed : before.consume limits amount now = .ok after) :
    (Enforcement.consume amount).Passed limits now before after := by
  rcases exists_of_bind_eq_ok passed with ⟨window, planned, done⟩
  have follows := before.follows_planConsumption limits amount now
  rw [planned] at follows
  have covered := (verdict_cons_eq_ok_iff.mp follows.passed).1
  cases done
  refine ⟨rfl, rfl, nofun, fun _ => rfl, ?_, nofun⟩
  intro consumed equal
  cases equal
  exact ⟨covered, follows.described⟩

private theorem passed_charge {amount : Amount}
    (passed : before.charge limits amount now = .ok after) :
    (Enforcement.charge amount).Passed limits now before after := by
  have follows := before.follows_charge limits amount now
  rw [passed] at follows
  have charged := follows.described
  have conditions := follows.passed
  simp only [Standing.conditions, verdict_cons_eq_ok_iff] at conditions
  rcases conditions with ⟨_, elapsed, covered, _⟩
  refine ⟨charged.overrides, charged.exempt, fun _ => ⟨elapsed, charged.lastTransferAt⟩,
    ?unpaced, ?consumed, ?unconsumed⟩
  case unpaced =>
    intro contrary
    cases contrary
  case consumed =>
    intro consumed equal
    cases equal
    exact ⟨covered, charged.window⟩
  case unconsumed =>
    intro contrary
    cases contrary

theorem passed_judge {enforcement : Enforcement}
    (passed : enforcement.judge now before limits = .ok after) :
    enforcement.Passed limits now before after := by
  cases enforcement with
  | pace => exact passed_pace passed
  | consume amount => exact passed_consume passed
  | charge amount => exact passed_charge passed

end Passed

end Enforcement

/-! ## Impacts -/

/-- What an accepted call means for the standing of a position. -/
inductive Impact where
  | none
  | overrides (change : Overrides → Overrides)
  | exemption (change : Bool → Bool)
  | reset
  | enforce (enforcement : Enforcement)

namespace Impact

/-- The impact is on one position only. -/
def onlyAt (struck position : Position) (impact : Impact) : Impact :=
  if struck = position then impact else .none

theorem onlyAt_eq_reset_iff {struck position : Position} {impact : Impact} :
    impact.onlyAt struck position = .reset ↔ struck = position ∧ impact = .reset := by
  rw [onlyAt]
  split <;> simp [*]

theorem onlyAt_eq_enforce_iff {struck position : Position} {impact : Impact}
    {enforcement : Enforcement} :
    impact.onlyAt struck position = .enforce enforcement ↔
      struck = position ∧ impact = .enforce enforcement := by
  rw [onlyAt]
  split <;> simp [*]

/-- With this impact, the second standing follows from the first. -/
def Leads (limits : Limits) (now : Seconds) (before after : Standing) : Impact → Prop
  | .none => after = before
  | .overrides change => after = { before with overrides := change before.overrides }
  | .exemption change => after = { before with exempt := change before.exempt }
  | .reset => after = before.resetWindow
  | .enforce enforcement =>
      if before.exempt then after = before
      else enforcement.judge now before limits = .ok after

end Impact

namespace Limiter

open Impact in
def Command.impact (position : Position) : Command → Impact
  | .setUserCap struck cap => onlyAt struck position (.overrides (·.setCap cap))
  | .setUserCooldown struck cooldown =>
      onlyAt struck position (.overrides (·.setCooldown cooldown))
  | .setUserPeriod struck quota period =>
      onlyAt struck position (.overrides (·.setPeriod quota period))
  | .setUserLimits struck limits => onlyAt struck position (.overrides fun _ => .setAll limits)
  | .resetUserLimits struck => onlyAt struck position (.overrides Overrides.clear)
  | .resetUserPeriod struck => onlyAt struck position .reset
  | .setExemptions asset accounts exempt =>
      .exemption fun current =>
        (accounts.zip exempt).foldl
          (fun current change =>
            if Position.mk asset change.1 = position then change.2 else current) current
  | .enforceCooldown struck => onlyAt struck position (.enforce .pace)
  | .recordTransfer struck amount =>
      onlyAt struck position (.enforce (.consume amount))
  | .charge struck amount => onlyAt struck position (.enforce (.charge amount))
  | .assignManager .. | .assignCaller .. => .none
  | .setDefaultCap .. | .setDefaultCooldown .. | .setDefaultPeriod .. => .none
  | .setDefaultLimits .. => .none

theorem Command.impact_eq_reset_iff {command : Command} {position : Position} :
    command.impact position = .reset ↔ command = .resetUserPeriod position := by
  constructor
  · intro struck
    cases command with
    | resetUserPeriod => rw [(Impact.onlyAt_eq_reset_iff.mp struck).1]
    | setUserCap | setUserCooldown | setUserPeriod | setUserLimits | resetUserLimits
    | enforceCooldown | recordTransfer | charge =>
        cases (Impact.onlyAt_eq_reset_iff.mp struck).2
    | assignManager | assignCaller | setDefaultCap | setDefaultCooldown | setDefaultPeriod
    | setDefaultLimits | setExemptions => cases struck
  · rintro rfl
    exact if_pos rfl

theorem Command.impact_eq_enforce_iff {command : Command} {position : Position}
    {enforcement : Enforcement} :
    command.impact position = .enforce enforcement ↔
      command = enforcement.command position := by
  constructor
  · intro struck
    cases command with
    | enforceCooldown | recordTransfer | charge =>
        rcases Impact.onlyAt_eq_enforce_iff.mp struck with ⟨same, made⟩
        cases made
        rw [same, Enforcement.command]
    | setUserCap | setUserCooldown | setUserPeriod | setUserLimits | resetUserLimits
    | resetUserPeriod => cases (Impact.onlyAt_eq_enforce_iff.mp struck).2
    | assignManager | assignCaller | setDefaultCap | setDefaultCooldown | setDefaultPeriod
    | setDefaultLimits | setExemptions => cases struck
  · rintro rfl
    cases enforcement <;> exact if_pos rfl

/-! ### Commands and their impacts -/

section Leads

variable (limiter : Limiter) (position : Position)

theorem leads_onlyAt {limits : Limits} {now : Seconds} {before after : Standing}
    {struck : Position} {impact : Impact}
    (here : struck = position → impact.Leads limits now before after)
    (elsewhere : struck ≠ position → after = before) :
    (impact.onlyAt struck position).Leads limits now before after := by
  rw [Impact.onlyAt]
  split
  next same => exact here same
  next other => exact elsewhere other

private theorem standing_assignRole (caller : Address) (role : Role) (account : Address)
    (held : Bool) :
    (limiter.assignRole caller role account held).world.standing position =
      limiter.standing position := by
  rw [assignRole, Authority.reassign]
  split <;> rfl

private theorem ensures_updateDefaults (caller asset : Address) (change : Limits → Limits) :
    (limiter.updateDefaults caller asset change).Ensures fun after =>
      after.standing position = limiter.standing position := by
  refine Outcome.ensures_guarded fun _ => Outcome.ensures_accepted ?_ _ _
  rfl

private theorem ensures_updateOverrides (caller : Address) (struck : Position)
    (change : Overrides → Overrides) (limits : Limits) (now : Seconds) :
    (limiter.updateOverrides caller struck change).Ensures fun after =>
      ((Impact.overrides change).onlyAt struck position).Leads limits now
        (limiter.standing position) (after.standing position) := by
  refine Outcome.ensures_guarded fun _ => Outcome.ensures_accepted ?_ _ _
  rw [standing_withStanding]
  apply leads_onlyAt
  · intro same
    rw [if_pos same, same]
    rfl
  · exact fun other => if_neg other

private theorem standing_amend {change : Standing → Standing} (fresh : change .fresh = .fresh)
    (struck : Position) :
    (limiter.amend struck change).standing position =
      if struck = position then change (limiter.standing struck)
      else limiter.standing position := by
  rw [← (Alike.withStanding_amend limiter fresh struck).standing, standing_withStanding]

private theorem leads_amend {change : Standing → Standing} (fresh : change .fresh = .fresh)
    {impact : Impact} {limits : Limits} {now : Seconds}
    (leads : ∀ standing, impact.Leads limits now standing (change standing))
    (struck : Position) :
    (impact.onlyAt struck position).Leads limits now (limiter.standing position)
      ((limiter.amend struck change).standing position) := by
  rw [standing_amend limiter position fresh]
  apply leads_onlyAt
  · intro same
    rw [if_pos same, same]
    exact leads _
  · exact fun other => if_neg other

private theorem standing_withExemption (struck : Position) (exempt : Bool) :
    (limiter.withExemption struck exempt).standing position =
      { limiter.standing position with
        exempt := if struck = position then exempt
          else (limiter.standing position).exempt } := by
  rw [withExemption, standing_withStanding]
  split
  next same => rw [same]
  next => rfl

private theorem standing_withExemptions (asset : Address) (changes : List (Address × Bool)) :
    (changes.foldl (fun limiter change => limiter.withExemption ⟨asset, change.1⟩ change.2)
        limiter).standing position =
      { limiter.standing position with
        exempt := changes.foldl
          (fun current change =>
            if Position.mk asset change.1 = position then change.2 else current)
          (limiter.standing position).exempt } := by
  induction changes generalizing limiter with
  | nil => rfl
  | cons change rest induction =>
      rw [List.foldl_cons, List.foldl_cons, induction, standing_withExemption]

private theorem ensures_commit (struck : Position) (enforcement : Enforcement) (now : Seconds)
    {report : Limiter → Standing → Outcome Limiter}
    (reported : ∀ changed standing, (report changed standing).world = changed) :
    (limiter.commit struck (limiter.defaultLimits struck.asset) (enforcement.judge now)
        report).Ensures fun after =>
      ((Impact.enforce enforcement).onlyAt struck position).Leads
        (limiter.enforcedLimits position) now (limiter.standing position)
        (after.standing position) := by
  refine ⟨fun accepted => ?_⟩
  -- An exempt position gets a record, but one that reads as before.
  cases exempt : limiter.isExempt struck with
  | true =>
      rw [commit_of_exempt exempt]
      apply leads_onlyAt
      · intro same
        rw [← same]
        exact (if_pos exempt).mpr (standing_touch limiter struck struck)
      · exact fun _ => standing_touch limiter struck position
  | false =>
      cases judged : enforcement.judge now (limiter.standing struck)
          (limiter.enforcedLimits struck) with
      | error refusal =>
          rw [commit_of_error exempt judged] at accepted
          cases accepted
      | ok standing =>
          rw [commit_of_ok exempt judged, reported, standing_withStanding]
          apply leads_onlyAt
          · intro same
            rw [if_pos same, ← same]
            exact (if_neg (by simpa [isExempt] using exempt)).mpr judged
          · exact fun other => if_neg other

theorem ensures_perform (now : Seconds) (caller : Address) (command : Command) :
    (limiter.perform now caller command).Ensures fun after =>
      (command.impact position).Leads (limiter.enforcedLimits position) now
        (limiter.standing position) (after.standing position) := by
  cases command with
  | assignManager account held => exact ⟨fun _ => standing_assignRole ..⟩
  | assignCaller account held => exact ⟨fun _ => standing_assignRole ..⟩
  | setDefaultCap asset cap =>
      exact Outcome.ensures_guarded fun _ => ensures_updateDefaults ..
  | setDefaultCooldown asset cooldown =>
      exact ensures_updateDefaults limiter position caller asset
        fun limits => { limits with cooldown }
  | setDefaultPeriod asset quota period =>
      exact Outcome.ensures_guarded fun _ => ensures_updateDefaults ..
  | setDefaultLimits asset limits =>
      exact Outcome.ensures_guarded fun _ => ensures_updateDefaults ..
  | setUserCap struck cap =>
      exact Outcome.ensures_guarded fun _ => ensures_updateOverrides ..
  | setUserCooldown struck cooldown =>
      exact ensures_updateOverrides limiter position caller struck (·.setCooldown cooldown) _ _
  | setUserPeriod struck quota period =>
      exact Outcome.ensures_guarded fun _ => ensures_updateOverrides ..
  | setUserLimits struck limits =>
      exact Outcome.ensures_guarded fun _ => ensures_updateOverrides ..
  | resetUserLimits struck =>
      have leads (standing : Standing) : (Impact.overrides Overrides.clear).Leads
          (limiter.enforcedLimits position) now standing standing.clearOverrides := rfl
      refine Outcome.ensures_guarded fun _ => Outcome.ensures_accepted ?_ _ _
      exact leads_amend limiter position rfl leads struck
  | resetUserPeriod struck =>
      have leads (standing : Standing) : Impact.reset.Leads
          (limiter.enforcedLimits position) now standing standing.resetWindow := rfl
      refine Outcome.ensures_guarded fun _ => Outcome.ensures_accepted ?_ _ _
      exact leads_amend limiter position rfl leads struck
  | setExemptions asset accounts exempt =>
      refine Outcome.ensures_guarded fun _ => Outcome.ensures_guarded fun _ =>
        Outcome.ensures_accepted ?_ _ _
      exact standing_withExemptions limiter position asset (accounts.zip exempt)
  | enforceCooldown struck =>
      exact Outcome.ensures_guarded fun _ =>
        ensures_commit limiter position struck .pace now fun _ _ => rfl
  | recordTransfer struck amount =>
      exact Outcome.ensures_guarded fun _ =>
        ensures_commit limiter position struck (.consume amount) now fun _ _ => rfl
  | charge struck amount =>
      exact Outcome.ensures_guarded fun _ =>
        ensures_commit limiter position struck (.charge amount) now fun _ _ => rfl

end Leads

end Limiter

end Turnstile
