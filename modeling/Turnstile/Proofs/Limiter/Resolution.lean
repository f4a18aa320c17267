import Turnstile.Proofs.Limiter.Charging

namespace Turnstile

/-! Where limits come from. In each dimension, the limit of a position is what was set for it
last, since its overrides were last reset; else what was set last as default of the asset;
else the fallback. Nothing else that is done to a limiter has a part in it. -/

/-! ## Settings -/

/-- Values that are set at one stroke, in some of the dimensions. -/
structure Setting where
  cap : Option Amount
  cooldown : Option Seconds
  /-- Quota and period are set together. -/
  period : Option (Amount × Seconds)
deriving DecidableEq

namespace Setting

def none : Setting := ⟨.none, .none, .none⟩

def all (limits : Limits) : Setting where
  cap := some limits.cap
  cooldown := some limits.cooldown
  period := some (limits.quota, limits.period)

/-- A setting that counts for one key only. -/
def onlyAt {Key : Type} [DecidableEq Key] (set sought : Key) (setting : Setting) : Setting :=
  if set = sought then setting else none

/-- In each dimension, the first of the settings that sets it. -/
def first (settings : List Setting) : Setting where
  cap := settings.findSome? cap
  cooldown := settings.findSome? cooldown
  period := settings.findSome? period

/-- The limits with what is set in their place. -/
def upon (setting : Setting) (limits : Limits) : Limits where
  cap := setting.cap.getD limits.cap
  cooldown := setting.cooldown.getD limits.cooldown
  quota := setting.period.elim limits.quota Prod.fst
  period := setting.period.elim limits.period Prod.snd

private theorem first_cons_upon (setting : Setting) (rest : List Setting) (limits : Limits) :
    (first (setting :: rest)).upon limits = setting.upon ((first rest).upon limits) := by
  rcases setting with ⟨cap, cooldown, period⟩
  cases cap <;> cases cooldown <;> cases period <;> rfl

end Setting

namespace Limiter

/-! ## What commands set -/

namespace Command

def userSetting (position : Position) : Command → Setting
  | .setUserCap struck cap => .onlyAt struck position ⟨some cap, none, none⟩
  | .setUserCooldown struck cooldown => .onlyAt struck position ⟨none, some cooldown, none⟩
  | .setUserPeriod struck quota period =>
      .onlyAt struck position ⟨none, none, some (quota, period)⟩
  | .setUserLimits struck limits => .onlyAt struck position (.all limits)
  | _ => .none

def defaultSetting (asset : Address) : Command → Setting
  | .setDefaultCap set cap => .onlyAt set asset ⟨some cap, none, none⟩
  | .setDefaultCooldown set cooldown => .onlyAt set asset ⟨none, some cooldown, none⟩
  | .setDefaultPeriod set quota period => .onlyAt set asset ⟨none, none, some (quota, period)⟩
  | .setDefaultLimits set limits => .onlyAt set asset (.all limits)
  | _ => .none

/-- The command takes back all that was set for the position. -/
def clears (position : Position) : Command → Bool
  | .resetUserLimits struck => struck = position
  | _ => false

/-- The command sets a limit of some position or asset, or takes some back. -/
def setsLimits : Command → Bool
  | .setUserCap .. | .setUserCooldown .. | .setUserPeriod .. | .setUserLimits .. => true
  | .setDefaultCap .. | .setDefaultCooldown .. | .setDefaultPeriod .. => true
  | .setDefaultLimits .. | .resetUserLimits _ => true
  | _ => false

end Command

/-! ### Overrides -/

section Overrides

variable {limits : Limits} {now : Seconds} {before after : Standing} {position : Position}

private theorem limits_of_onlyAt {struck : Position} {impact : Impact} {setting : Setting}
    (leads : (impact.onlyAt struck position).Leads limits now before after)
    {defaults : Limits}
    (here : impact.Leads limits now before after →
      after.limits defaults = setting.upon (before.limits defaults)) :
    after.limits defaults =
      (setting.onlyAt struck position).upon (before.limits defaults) := by
  rw [Impact.onlyAt] at leads
  rw [Setting.onlyAt]
  by_cases same : struck = position
  · rw [if_pos same] at leads ⊢
    exact here leads
  · rw [if_neg same] at leads ⊢
    rw [show after = before from leads]
    rfl

private theorem limits_kept_of_onlyAt {struck : Position} {impact : Impact}
    (leads : (impact.onlyAt struck position).Leads limits now before after)
    (here : impact.Leads limits now before after → after.overrides = before.overrides)
    (defaults : Limits) : after.limits defaults = before.limits defaults := by
  rw [Impact.onlyAt] at leads
  split at leads
  next => rw [Standing.limits, here leads, Standing.limits]
  next => rw [show after = before from leads]

private theorem limits_of_leads {command : Command}
    (leads : (command.impact position).Leads limits now before after) (defaults : Limits) :
    after.limits defaults =
      if command.clears position then defaults
      else (command.userSetting position).upon (before.limits defaults) := by
  cases command with
  | setUserCap | setUserCooldown | setUserPeriod | setUserLimits =>
      refine limits_of_onlyAt leads fun set => ?_
      rw [show after = _ from set]
      rfl
  | resetUserLimits struck =>
      rw [Command.impact, Impact.onlyAt] at leads
      by_cases same : struck = position
      · rw [if_pos same] at leads
        rw [show after = _ from leads, Command.clears, decide_eq_true same, if_pos rfl]
        rfl
      · rw [if_neg same] at leads
        rw [show after = before from leads, Command.clears, decide_eq_false same]
        rfl
  | resetUserPeriod struck =>
      refine limits_kept_of_onlyAt leads (fun reset => ?_) defaults
      rw [show after = _ from reset]
      rfl
  | enforceCooldown | recordTransfer | charge =>
      exact limits_kept_of_onlyAt leads (fun enforced => enforced.rules.1) defaults
  | setExemptions =>
      rw [show after = _ from leads]
      rfl
  | assignManager | assignCaller | setDefaultCap | setDefaultCooldown | setDefaultPeriod
  | setDefaultLimits =>
      rw [show after = before from leads]
      rfl

end Overrides

/-! ### Defaults -/

section Defaults

variable (limiter : Limiter) (asset : Address)

private theorem defaultLimits_updateDefaults (caller set : Address) {change : Limits → Limits}
    {setting : Setting} (changes : ∀ limits, change limits = setting.upon limits) :
    (limiter.updateDefaults caller set change).Ensures fun after =>
      after.defaultLimits asset =
        (setting.onlyAt set asset).upon (limiter.defaultLimits asset) := by
  refine Outcome.ensures_guarded fun _ => Outcome.ensures_accepted ?_ _ _
  rw [defaultLimits, Table.get?_insert, Setting.onlyAt]
  simp only [rank_eq_iff]
  split
  next same => rw [same, changes, Option.getD_some]
  next => rfl

private theorem defaultLimits_of_perform (now : Seconds) (caller : Address) (command : Command) :
    (limiter.perform now caller command).Ensures fun after =>
      after.defaultLimits asset =
        (command.defaultSetting asset).upon (limiter.defaultLimits asset) := by
  cases command with
  | setDefaultCap set cap =>
      exact Outcome.ensures_guarded fun _ =>
        defaultLimits_updateDefaults limiter asset caller set fun _ => rfl
  | setDefaultCooldown set cooldown =>
      exact defaultLimits_updateDefaults limiter asset caller set fun _ => rfl
  | setDefaultPeriod set quota period =>
      exact Outcome.ensures_guarded fun _ =>
        defaultLimits_updateDefaults limiter asset caller set fun _ => rfl
  | setDefaultLimits set limits =>
      exact Outcome.ensures_guarded fun _ =>
        defaultLimits_updateDefaults limiter asset caller set fun _ => rfl
  | assignManager | assignCaller | setUserCap | setUserCooldown | setUserPeriod
  | setUserLimits | resetUserLimits | resetUserPeriod | setExemptions | enforceCooldown
  | recordTransfer | charge =>
      exact ⟨fun _ => (limiter.confined_perform ..).kept.defaultLimits id⟩

end Defaults

/-! ## Moments -/

namespace Request

def userSetting (position : Position) : Request → Setting
  | .perform _ command => command.userSetting position
  | .regrant .. => .none

def defaultSetting (asset : Address) : Request → Setting
  | .perform _ command => command.defaultSetting asset
  | .regrant .. => .none

def clears (position : Position) : Request → Bool
  | .perform _ command => command.clears position
  | .regrant .. => false

def setsLimits : Request → Bool
  | .perform _ command => command.setsLimits
  | .regrant .. => false

/-- What sets no limit sets none anywhere. -/
private theorem silent_of_not_setsLimits {request : Request} (silent : request.setsLimits = false)
    (position : Position) :
    request.userSetting position = .none ∧ request.defaultSetting position.asset = .none ∧
      request.clears position = false := by
  cases request with
  | regrant => exact ⟨rfl, rfl, rfl⟩
  | perform caller command =>
      cases command with
      | setUserCap | setUserCooldown | setUserPeriod | setUserLimits | setDefaultCap
      | setDefaultCooldown | setDefaultPeriod | setDefaultLimits | resetUserLimits => cases silent
      | _ => exact ⟨rfl, rfl, rfl⟩

end Request

namespace Moment

variable (moment : Moment)

/-- What the call has set for a position. Refused calls set nothing. -/
def userSetting (position : Position) : Setting :=
  if moment.accepted then moment.call.command.userSetting position else .none

/-- What the call has set as default of an asset. -/
def defaultSetting (asset : Address) : Setting :=
  if moment.accepted then moment.call.command.defaultSetting asset else .none

/-- The call has taken back all that was set for a position. -/
def clears (position : Position) : Bool :=
  moment.accepted && moment.call.command.clears position

theorem limits_after (position : Position) (defaults : Limits) :
    (moment.after.standing position).limits defaults =
      if moment.clears position then defaults
      else (moment.userSetting position).upon
        ((moment.world.standing position).limits defaults) := by
  have leads := moment.leads position
  rw [clears, userSetting]
  rw [impact] at leads
  cases accepted : moment.accepted with
  | false =>
      rw [accepted] at leads
      rw [show moment.after.standing position = _ from leads]
      rfl
  | true =>
      rw [accepted, if_pos rfl] at leads
      rw [Bool.true_and, if_pos rfl]
      cases called : moment.call.command with
      | perform caller command =>
          rw [called] at leads
          exact limits_of_leads leads defaults
      | regrant =>
          rw [called] at leads
          rw [show moment.after.standing position = _ from leads]
          rfl

theorem defaultLimits_after (asset : Address) :
    moment.after.defaultLimits asset =
      (moment.defaultSetting asset).upon (moment.world.defaultLimits asset) := by
  rcases moment with ⟨limiter, now, request⟩
  rw [defaultSetting, accepted, after]
  cases answer : (limiter.handle ⟨now, request⟩).answer with
  | error refusal =>
      have same := (atomic_handle limiter ⟨now, request⟩).spared refusal answer
      exact (same.defaultLimits asset).symm
  | ok =>
      cases request with
      | perform caller command =>
          exact (limiter.defaultLimits_of_perform asset now caller command).done answer
      | regrant caller role account held =>
          change (limiter.regrant caller role account held).world.defaultLimits asset = _
          rw [regrant]
          split <;> rfl

/-- What sets no limit and what is refused leaves all limits in force as they are. -/
theorem enforcedLimits_kept
    (silent : moment.call.command.setsLimits = false ∨ moment.accepted = false)
    (position : Position) :
    moment.after.enforcedLimits position = moment.world.enforcedLimits position := by
  have nothing : moment.clears position = false ∧ moment.userSetting position = .none ∧
      moment.defaultSetting position.asset = .none := by
    rw [clears, userSetting, defaultSetting]
    rcases silent with unset | refused
    · rcases Request.silent_of_not_setsLimits unset position with ⟨user, default, cleared⟩
      rw [user, default, cleared, ite_self, Bool.and_false]
      exact ⟨rfl, rfl, rfl⟩
    · rw [refused]
      exact ⟨rfl, rfl, rfl⟩
  rcases nothing with ⟨cleared, user, default⟩
  rw [enforcedLimits, limits_after, defaultLimits_after, cleared, user, default]
  rfl

/-- Taking back what was set for a position leaves all counters as they are. -/
private theorem kept_of_resetUserLimits {caller : Address} {struck : Position}
    (called : moment.call.command = .perform caller (.resetUserLimits struck))
    (position : Position) :
    (moment.after.standing position).lastTransferAt =
        (moment.world.standing position).lastTransferAt ∧
      (moment.after.standing position).window = (moment.world.standing position).window := by
  have unenforced : moment.enforcement? position = none := by
    cases found : moment.enforcement? position with
    | none => rfl
    | some enforcement =>
        rcases enforcement?_iff_called.mp found with ⟨_, _, other, made⟩
        rw [called] at made
        cases enforcement <;> cases made
  have unreset : moment.resets position = false := by
    rw [Bool.eq_false_iff]
    intro resets
    rcases resets_iff_called.mp resets with ⟨_, other, made⟩
    rw [called] at made
    cases made
  have kept := kept_of_enforcement? unenforced
  exact ⟨kept.2, kept.1 unreset⟩

end Moment

/-! ## Runs -/

/-- What was set for a position since its overrides were last reset, the latest first. -/
def userSettings (position : Position) (past : List Moment) : List Setting :=
  (past.takeWhile fun moment => !moment.clears position).map (·.userSetting position)

/-- What was set as default of an asset, the latest first. -/
def defaultSettings (asset : Address) (past : List Moment) : List Setting :=
  past.map (·.defaultSetting asset)

/-- The limits that result for a position. -/
def resolved (fallback : Limits) (position : Position) (past : List Moment) : Limits :=
  (Setting.first (userSettings position past)).upon
    ((Setting.first (defaultSettings position.asset past)).upon fallback)

structure Resolves (fallback : Limits) (limiter : Limiter) (past : List Moment) : Prop where
  defaults : ∀ asset,
    limiter.defaultLimits asset = (Setting.first (defaultSettings asset past)).upon fallback
  overrides : ∀ position defaults,
    (limiter.standing position).limits defaults =
      (Setting.first (userSettings position past)).upon defaults

section Runs

variable {fallback : Limits} {moment : Moment} {past : List Moment}

private theorem userSettings_cons (position : Position) :
    userSettings position (moment :: past) =
      if moment.clears position then []
      else moment.userSetting position :: userSettings position past := by
  rw [userSettings, List.takeWhile_cons]
  cases moment.clears position <;> rfl

theorem Resolves.after (resolves : Resolves fallback moment.world past) :
    Resolves fallback moment.after (moment :: past) where
  defaults asset := by
    rw [moment.defaultLimits_after, resolves.defaults]
    exact (Setting.first_cons_upon ..).symm
  overrides position defaults := by
    -- A reset hides all settings before it; any other call only puts its own in front.
    rw [moment.limits_after, userSettings_cons]
    split
    next => rfl
    next => rw [Setting.first_cons_upon, resolves.overrides]

private theorem resolves_of_founded {admin : Address} {start : Limiter}
    (founded : Limiter.founded admin fallback = .ok start) : Resolves fallback start [] where
  defaults asset := by
    rcases exists_of_bind_eq_ok founded with ⟨_, _, rest⟩
    rcases exists_of_bind_eq_ok rest with ⟨_, _, done⟩
    cases done
    rfl
  overrides position defaults := by
    rw [standing_of_founded founded]
    rfl

theorem resolves_final {admin : Address} {start : Limiter}
    (founded : Limiter.founded admin fallback = .ok start) (calls : List (Timed Request)) :
    Resolves fallback (Run.final handle start calls) (start.past calls) :=
  final_past_of_moment (Resolves fallback) (resolves_of_founded founded)
    (fun _ _ => Resolves.after) calls

/-- In any run of a new limiter, the limits of a position are resolved from what was set for
it since its last reset, from what was set as default of its asset, and from the fallback, in
this order and in each dimension apart. An exempt position keeps the period only. Whatever
sets no limits, or is refused, leaves them as they are, and a reset leaves all counters. -/
theorem limits_resolved {admin : Address} {start : Limiter}
    (founded : Limiter.founded admin fallback = .ok start) (calls : List (Timed Request))
    (position : Position) :
    let limiter := Run.final handle start calls
    let limits := resolved fallback position (start.past calls)
    (limiter.isExempt position = false → limiter.effectiveLimits position = limits) ∧
      (limiter.isExempt position = true →
        limiter.effectiveLimits position = ⟨.unlimited, 0, .unlimited, limits.period⟩) ∧
      (∀ call : Timed Request,
        call.command.setsLimits = false ∨ (limiter.handle call).answer.isOk = false →
          (limiter.handle call).world.enforcedLimits position =
            limiter.enforcedLimits position) ∧
      (∀ now caller struck,
        let after := (limiter.handle ⟨now, .perform caller (.resetUserLimits struck)⟩).world
        (after.standing position).lastTransferAt =
            (limiter.standing position).lastTransferAt ∧
          (after.standing position).window = (limiter.standing position).window) := by
  intro limiter limits
  have resolves : Resolves fallback limiter (start.past calls) := resolves_final founded calls
  have enforced : limiter.enforcedLimits position = limits := by
    rw [enforcedLimits, resolves.overrides, resolves.defaults]
    rfl
  refine ⟨?counted, ?exempt, ?kept, ?reset⟩
  case counted =>
    intro counted
    rw [effectiveLimits_of_counted counted, enforced]
  case exempt =>
    intro exempt
    rw [effectiveLimits, exempt, enforced]
    rfl
  case kept =>
    intro call silent
    exact Moment.enforcedLimits_kept ⟨limiter, call⟩ silent position
  case reset =>
    intro now caller struck
    exact Moment.kept_of_resetUserLimits
      ⟨limiter, ⟨now, .perform caller (.resetUserLimits struck)⟩⟩ rfl position

end Runs

namespace Sample

/-- The cap of the position is set and taken back again before its cooldown is set. The last
two calls are refused: no cap may be zero, and the service manages no limits. -/
def settingCalls : List (Timed Request) :=
  [⟨1000, .perform admin (.assignManager manager true)⟩,
    ⟨1000, .perform manager (.setUserCap position (.ofNat 40))⟩,
    ⟨1010, .perform admin (.setDefaultCap position.asset (.ofNat 70))⟩,
    ⟨1020, .perform manager (.resetUserLimits position)⟩,
    ⟨1030, .perform manager (.setUserCooldown position 5)⟩,
    ⟨1040, .perform manager (.setUserCap position .zero)⟩,
    ⟨1050, .perform service (.setUserPeriod position (.ofNat 9) 9)⟩]

private theorem resolved_settingCalls :
    resolved fallback position (start.past settingCalls) = ⟨.ofNat 70, 5, .ofNat 80, 3600⟩ := rfl

end Sample

theorem limits_resolved_sample :
    (Run.final handle Sample.start Sample.settingCalls).effectiveLimits Sample.position =
      ⟨.ofNat 70, 5, .ofNat 80, 3600⟩ := by
  have resolved := limits_resolved Sample.founded Sample.settingCalls Sample.position
  rw [← Sample.resolved_settingCalls]
  exact resolved.1 rfl

end Limiter

end Turnstile
