import Turnstile.Proofs.Limiter.Enforcement
import Turnstile.Proofs.Meter

namespace Turnstile.Limiter

/-! The gauge of tracked positions beside the number of records that a limiter keeps. The
gauge is set when limits or exemptions of accounts are changed and when something is
consumed. A record is also made when a cooldown is enforced and when an enforcement is
refused, and then nobody sets the gauge, so it lags behind by the records made since it was
set. -/

/-! ## Starts -/

/-- A limiter as it comes into the world, with what is recorded then. -/
inductive Origin : Limiter → List Reading → Prop
  | founded {admin : Address} {fallback : Limits} {limiter : Limiter} :
      Limiter.founded admin fallback = .ok limiter → limiter.Origin []
  | restored (fallback : Limits) (snapshot : Snapshot) :
      (ofSnapshot fallback snapshot).Origin (ofSnapshot fallback snapshot).restoredReadings

/-! ## Calls -/

/-- Where a command holds a position to its limits. -/
def Command.enforced? : Command → Option Position
  | .enforceCooldown position => some position
  | .recordTransfer position _ | .charge position _ => some position
  | _ => none

/-- The gauge is set if this command is accepted. -/
def Command.setsGauge (limiter : Limiter) : Command → Bool
  | .setUserCap .. | .setUserCooldown .. | .setUserPeriod .. | .setUserLimits .. => true
  | .setExemptions .. => true
  | .recordTransfer position _ | .charge position _ => !limiter.isExempt position
  | _ => false

def Request.setsGauge (limiter : Limiter) : Request → Bool
  | .perform _ command => command.setsGauge limiter
  | .regrant .. => false

/-- The request is to hold a position to its limits that has no record, and the caller may
ask for that. -/
def Request.isFirst (limiter : Limiter) : Request → Bool
  | .perform caller command =>
      command.enforced?.any fun position =>
        limiter.authority.holds .caller caller && (limiter.standing? position).isNone
  | .regrant .. => false

namespace Moment

/-- The call sets the gauge. -/
def refreshes (moment : Moment) : Bool :=
  moment.accepted && moment.call.command.setsGauge moment.world

/-- The call makes a record and does not set the gauge. -/
def hides (moment : Moment) : Bool :=
  !moment.refreshes && moment.call.command.isFirst moment.world

end Moment

/-- What an outcome records of the number of records, and how that number has changed if
nothing of it is recorded. -/
structure Gauged (before : Limiter) (sets first : Bool) (outcome : Outcome Limiter) : Prop where
  gauge : Meter.trackedPositions? outcome.readings =
    if outcome.answer.isOk && sets then some outcome.world.trackedPositions else none
  tracked : (outcome.answer.isOk && sets) = false →
    outcome.world.trackedPositions = before.trackedPositions + first.toNat

section Gauged

variable {before : Limiter} {sets first : Bool} {outcome : Outcome Limiter}

private theorem gauged_refused {world : Limiter} (refusal : Refusal)
    (tracked : world.trackedPositions = before.trackedPositions + first.toNat) :
    before.Gauged sets first (.refused world refusal) :=
  ⟨rfl, fun _ => tracked⟩

private theorem gauged_unset {world : Limiter} {events : List Event} (unset : sets = false)
    (tracked : world.trackedPositions = before.trackedPositions + first.toNat) :
    before.Gauged sets first (.accepted world events []) := by
  subst unset
  exact ⟨rfl, fun _ => tracked⟩

private theorem gauged_tracking (before world : Limiter) (events : List Event) (set : sets = true) :
    before.Gauged sets first (.accepted world events world.tracking) := by
  subst set
  exact ⟨rfl, nofun⟩

theorem Gauged.guarded (gauged : before.Gauged sets false outcome)
    (check : Except Refusal Unit) :
    before.Gauged sets false (.guarded before check outcome) := by
  cases check with
  | ok => exact gauged
  | error refusal => exact gauged_refused refusal rfl

end Gauged

/-! ### Commands -/

private theorem gauged_updateDefaults (limiter : Limiter) (caller asset : Address)
    (change : Limits → Limits) :
    limiter.Gauged false false (limiter.updateDefaults caller asset change) := by
  apply Gauged.guarded
  exact gauged_unset rfl rfl

private theorem gauged_updateOverrides (limiter : Limiter) (caller : Address) (position : Position)
    (change : Overrides → Overrides) :
    limiter.Gauged true false (limiter.updateOverrides caller position change) := by
  apply Gauged.guarded
  exact gauged_tracking limiter _ _ rfl

private theorem gauged_amend (limiter : Limiter) (caller : Address) (position : Position)
    (change : Standing → Standing) (events : List Event) :
    limiter.Gauged false false
      (.guarded limiter (limiter.authority.require .limitManager caller) <|
        .accepted (limiter.amend position change) events []) := by
  apply Gauged.guarded
  exact gauged_unset rfl (trackedPositions_amend limiter position change)

private theorem gauged_assignRole (limiter : Limiter) (caller : Address) (role : Role)
    (account : Address) (held : Bool) :
    limiter.Gauged false false (limiter.assignRole caller role account held) := by
  rw [assignRole, Authority.reassign]
  split
  · exact gauged_refused _ rfl
  · exact gauged_unset rfl rfl
  · exact gauged_unset rfl rfl

private theorem gauged_regrant (limiter : Limiter) (caller : Address) (role : Role)
    (account : Address) (held : Bool) :
    limiter.Gauged false false (limiter.regrant caller role account held) := by
  rw [regrant]
  split
  · exact gauged_refused _ rfl
  · exact gauged_unset rfl rfl

private theorem gauged_report (before world : Limiter) (enforcement : Enforcement)
    (position : Position) (standing : Standing) {first : Bool}
    (tracked : world.trackedPositions = before.trackedPositions + first.toNat) :
    before.Gauged enforcement.amount?.isSome first
      (enforcement.report position world standing) := by
  cases enforcement with
  | pace => exact gauged_unset rfl tracked
  | consume | charge => exact gauged_tracking before world _ rfl

private theorem gauged_enforcement (limiter : Limiter) (now : Seconds) (caller : Address)
    (enforcement : Enforcement) (position : Position) :
    limiter.Gauged (enforcement.amount?.isSome && !limiter.isExempt position)
      (limiter.authority.holds .caller caller && (limiter.standing? position).isNone)
      (limiter.perform now caller (enforcement.command position)) := by
  cases permitted : limiter.authority.holds .caller caller with
  | false =>
      rw [perform_enforcement, Authority.require_of_unheld permitted]
      exact gauged_refused _ rfl
  | true =>
      have touched := trackedPositions_withStanding limiter position
        (limiter.standing position)
      rw [Bool.true_and]
      cases exempt : limiter.isExempt position with
      | true =>
          rw [perform_of_exempt permitted exempt]
          exact gauged_unset (Bool.and_false _) touched
      | false =>
          rw [Bool.not_false, Bool.and_true]
          cases judged : enforcement.judge now (limiter.standing position)
            (limiter.enforcedLimits position) with
          | error refusal =>
              rw [enforcement_of_error permitted exempt enforcement judged]
              exact gauged_refused refusal touched
          | ok standing =>
              rw [enforcement_of_ok permitted exempt enforcement judged]
              exact gauged_report _ _ _ _ _ (trackedPositions_withStanding ..)

theorem gauged_perform (limiter : Limiter) (now : Seconds) (caller : Address)
    (command : Command) :
    limiter.Gauged (command.setsGauge limiter)
      (Request.isFirst limiter (.perform caller command))
      (limiter.perform now caller command) := by
  cases command with
  | assignManager | assignCaller => exact gauged_assignRole ..
  | setDefaultCap | setDefaultPeriod | setDefaultLimits =>
      exact (gauged_updateDefaults ..).guarded _
  | setDefaultCooldown asset cooldown =>
      exact limiter.gauged_updateDefaults caller asset fun limits => { limits with cooldown }
  | setUserCap | setUserPeriod | setUserLimits =>
      exact (gauged_updateOverrides ..).guarded _
  | setUserCooldown position cooldown =>
      exact limiter.gauged_updateOverrides caller position (·.setCooldown cooldown)
  | resetUserLimits | resetUserPeriod => exact gauged_amend ..
  | setExemptions asset accounts exempt =>
      apply Gauged.guarded
      apply Gauged.guarded
      exact gauged_tracking limiter _ _ rfl
  | enforceCooldown position => exact limiter.gauged_enforcement now caller .pace position
  | recordTransfer position amount =>
      exact limiter.gauged_enforcement now caller (.consume amount) position
  | charge position amount =>
      exact limiter.gauged_enforcement now caller (.charge amount) position

theorem gauged_handle (limiter : Limiter) (call : Timed Request) :
    limiter.Gauged (call.command.setsGauge limiter) (call.command.isFirst limiter)
      (limiter.handle call) := by
  rcases call with ⟨now, request⟩
  cases request with
  | perform caller command => exact limiter.gauged_perform now caller command
  | regrant caller role account held => exact limiter.gauged_regrant caller role account held

/-! ### Moments -/

private theorem gauge_of_moment (moment : Moment) :
    Meter.trackedPositions? (moment.world.handle moment.call).recorded =
      if moment.refreshes then some moment.after.trackedPositions else none := by
  rw [Meter.trackedPositions?_recorded]
  exact (moment.world.gauged_handle moment.call).gauge

private theorem tracked_of_not_refreshes {moment : Moment} (silent : moment.refreshes = false) :
    moment.after.trackedPositions = moment.world.trackedPositions + moment.hides.toNat := by
  rw [Moment.hides, silent, Bool.not_false, Bool.true_and]
  exact (moment.world.gauged_handle moment.call).tracked silent

/-! ## Runs -/

/-- How many records were made since the gauge was last set. -/
def unnoticed (past : List Moment) : Nat :=
  (past.takeWhile fun moment => !moment.refreshes).countP Moment.hides

private theorem unnoticed_of_refreshes {moment : Moment} (refreshes : moment.refreshes = true)
    (past : List Moment) : unnoticed (moment :: past) = 0 := by
  rw [unnoticed, List.takeWhile_cons_of_neg (by simp [refreshes])]
  rfl

private theorem unnoticed_of_not_refreshes {moment : Moment} (silent : moment.refreshes = false)
    (past : List Moment) :
    unnoticed (moment :: past) = unnoticed past + moment.hides.toNat := by
  rw [unnoticed, List.takeWhile_cons_of_pos (by simp [silent]), List.countP_cons]
  cases moment.hides <;> rfl

/-- What the gauge shows after the moments given. -/
structure Shows (before : List Reading) (limiter : Limiter) (readings : List Reading)
    (past : List Moment) : Prop where
  unset : Meter.trackedPositions? readings = none ↔
    Meter.trackedPositions? before = none ∧ ∀ moment ∈ past, moment.refreshes = false
  tracked : ∀ count, Meter.trackedPositions? readings = some count →
    limiter.trackedPositions = count + unnoticed past

theorem shows_after (moment : Moment) {before readings : List Reading} {past : List Moment}
    (shows_ : Shows before moment.world readings past) :
    Shows before moment.after
      (readings ++ (moment.world.handle moment.call).recorded) (moment :: past) := by
  have gauge := gauge_of_moment moment
  have shown := Meter.trackedPositions?_append readings
    (moment.world.handle moment.call).recorded
  rw [gauge] at shown
  cases refreshes : moment.refreshes with
  | true =>
      rw [refreshes] at shown
      refine ⟨?unset, ?tracked⟩
      case unset => simp [shown, refreshes]
      case tracked =>
        intro count counted
        rw [shown] at counted
        cases counted
        rw [unnoticed_of_refreshes refreshes]
        rfl
  | false =>
      rw [refreshes] at shown
      change _ = Meter.trackedPositions? readings at shown
      refine ⟨?unset, ?tracked⟩
      case unset => simp [shown, refreshes, shows_.unset]
      case tracked =>
        intro count counted
        rw [tracked_of_not_refreshes refreshes, unnoticed_of_not_refreshes refreshes,
          shows_.tracked count (shown.symm.trans counted), Nat.add_assoc]

theorem Origin.shows {start : Limiter} {before : List Reading}
    (origin : start.Origin before) : Shows before start before [] where
  unset := by simp
  tracked count counted := by
    cases origin with
    | founded => cases counted
    | restored => cases counted; rfl

theorem Origin.unset_iff {start : Limiter} {before : List Reading}
    (origin : start.Origin before) : Meter.trackedPositions? before = none ↔ before = [] := by
  cases origin with
  | founded => exact ⟨fun _ => rfl, fun _ => rfl⟩
  | restored => exact ⟨nofun, nofun⟩

/-- A gauge that was never set shows nothing. Else it shows how many positions are tracked,
less those that got their record since it was last set: by a cooldown enforced on its own,
or by a refused enforcement. It is right where there was none of these. -/
theorem gauge_shows {start : Limiter} {before : List Reading} (origin : start.Origin before)
    (calls : List (Timed Request)) :
    let past := start.past calls
    let tracked := (Run.final handle start calls).trackedPositions
    let gauge := Meter.trackedPositions? (before ++ Run.recorded handle start calls)
    (gauge = none ↔ before = [] ∧ ∀ moment ∈ past, moment.refreshes = false) ∧
      ∀ count, gauge = some count →
        tracked = count + unnoticed past ∧
          (count = tracked ↔ ∀ moment ∈ past.takeWhile fun moment => !moment.refreshes,
            moment.hides = false) := by
  intro past tracked gauge
  have shows_ : Shows before (Run.final handle start calls)
      (before ++ Run.recorded handle start calls) past :=
    Run.recorded_past_of_step (Shows before) origin.shows
      (fun limiter _ _ call => shows_after ⟨limiter, call⟩) calls
  refine ⟨?unset, ?set⟩
  case unset => rw [← origin.unset_iff]; exact shows_.unset
  case set =>
    intro count counted
    have exact_ := shows_.tracked count counted
    refine ⟨exact_, ?_⟩
    have none : unnoticed past = 0 ↔
        ∀ moment ∈ past.takeWhile fun moment => !moment.refreshes, moment.hides = false := by
      simp [unnoticed, List.countP_eq_zero]
    rw [← none]
    change _ = _ + _ at exact_
    omega

namespace Sample

def other : Position := ⟨address 7, address 4⟩

/-- The last call is a cooldown enforced where nothing was asked before. -/
def pacedCallsElsewhere : List (Timed Request) :=
  [⟨0, authorize⟩, ⟨1000, charge (.ofNat 30)⟩, ⟨1000, .perform service (.enforceCooldown other)⟩]

/-- The last call is refused. -/
def refusedCalls : List (Timed Request) :=
  [⟨0, authorize⟩, ⟨1000, charge (.ofNat 30)⟩,
    ⟨1000, .perform service (.charge other (.ofNat 51))⟩]

def gauge (calls : List (Timed Request)) : Option Nat :=
  Meter.trackedPositions? (Run.recorded handle start calls)

def tracked (calls : List (Timed Request)) : Nat :=
  (Run.final handle start calls).trackedPositions

/-- Something is recorded there afterwards. -/
def noticedCalls : List (Timed Request) :=
  pacedCallsElsewhere ++ [⟨1000, .perform service (.recordTransfer other (.ofNat 1))⟩]

theorem origin : start.Origin [] := .founded founded

end Sample

theorem gauge_shows_sample :
    Sample.start.Origin [] ∧
      Sample.gauge Sample.pacedCallsElsewhere = some 1 ∧
      Sample.tracked Sample.pacedCallsElsewhere = 1 + 1 ∧
      Sample.gauge Sample.noticedCalls = some 2 ∧
      Sample.tracked Sample.noticedCalls = 2 := by
  have lagging : Sample.gauge Sample.pacedCallsElsewhere = some 1 := by decide
  have right : Sample.gauge Sample.noticedCalls = some 2 := by decide
  have lag := ((gauge_shows Sample.origin Sample.pacedCallsElsewhere).2 1 lagging).1
  have caughtUp := ((gauge_shows Sample.origin Sample.noticedCalls).2 2 right).2
  exact ⟨Sample.origin, lagging, lag, right, (caughtUp.mpr (by decide)).symm⟩

/-- The gauge was set and does not show how many positions are tracked, neither after an
accepted call nor after a refused one. -/
theorem gauge_strayed_sample :
    Limiter.founded Sample.admin Sample.fallback = .ok Sample.start ∧
      Sample.gauge Sample.pacedCallsElsewhere = some 1 ∧
      Sample.tracked Sample.pacedCallsElsewhere = 2 ∧
      Sample.gauge Sample.refusedCalls = some 1 ∧ Sample.tracked Sample.refusedCalls = 2 :=
  ⟨Sample.founded, by decide, by decide, by decide, by decide⟩

end Turnstile.Limiter
