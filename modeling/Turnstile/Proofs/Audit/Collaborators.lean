import Turnstile.Proofs.Audit.Picture
import Turnstile.Proofs.Limiter.Impact

namespace Turnstile

/-! The collaborators of a gate, told by their events. Whatever is asked of a whitelist or of
a limiter, and in whatever order, an auditor who was told of everything knows who is a member
and who is exempt, which defaults are set, how much each position has consumed and who holds
which role. -/

/-- A command and who gives it. -/
structure Signed (Command : Type) where
  caller : Address
  command : Command
deriving DecidableEq

/-! ## Whitelists -/

namespace Whitelist

structure Told (audit : Audit) (whitelist : Whitelist) : Prop where
  enabled : audit.enabled = whitelist.enabled
  member : ∀ account, audit.member account = whitelist.isMember account
  grants : whitelist.authority.Told audit.flags

variable {whitelist : Whitelist} {audit : Audit}

theorem told_of_founded {admin : Address}
    (founded : Whitelist.founded admin = .ok whitelist) : whitelist.Told .new := by
  rcases exists_of_bind_eq_ok founded with ⟨authority, granted, done⟩
  cases done
  exact ⟨rfl, fun _ => rfl, Authority.told_of_founded granted⟩

theorem Told.withMembership (told : whitelist.Told audit) (accounts : List Address)
    (whitelisted : Bool) :
    (whitelist.withMembership accounts whitelisted).Told
      ((accounts.map fun account => Event.whitelistUpdated account whitelisted).foldl
        Audit.note audit) := by
  induction accounts generalizing whitelist audit with
  | nil => exact told
  | cons account rest induction =>
      have next : Told (audit.note (.whitelistUpdated account whitelisted))
          { whitelist with members := whitelist.members.assign account whitelisted } := by
        refine ⟨told.enabled, fun sought => ?_, told.grants⟩
        refine (update_eq_ite ..).trans ?_
        simp only [isMember, KeySet.contains_assign, rank_eq_iff, told.member]
      exact induction next

theorem informs_perform (told : whitelist.Told audit) (caller : Address) (command : Command) :
    (whitelist.perform caller command).Informs Told audit := by
  cases command with
  | setMembership accounts whitelisted =>
      exact Outcome.Informs.guarded ⟨told.withMembership accounts whitelisted⟩ told _
  | setEnabled enabled =>
      exact Outcome.Informs.guarded ⟨⟨rfl, told.member, told.grants⟩⟩ told _
  | assignWhitelister | assignCaller =>
      refine Authority.informs_reassign told.grants told nofun fun flags changed grants => ?_
      exact ⟨told.enabled, told.member, grants⟩

def performSigned (whitelist : Whitelist) (call : Signed Command) : Outcome Whitelist :=
  whitelist.perform call.caller call.command

end Whitelist

/-! ## Limiters -/

namespace Limiter

structure Told (audit : Audit) (limiter : Limiter) : Prop where
  defaults : ∀ asset, audit.defaults asset = limiter.defaults.get? asset
  exempt : ∀ position, audit.exempt position = limiter.isExempt position
  total : ∀ position, audit.total position = (limiter.standing position).window.total
  grants : limiter.authority.Told audit.flags

variable {limiter : Limiter} {audit : Audit}

theorem told_of_founded {admin : Address} {fallback : Limits}
    (founded : Limiter.founded admin fallback = .ok limiter) : limiter.Told .new := by
  rcases exists_of_bind_eq_ok founded with ⟨_, _, rest⟩
  rcases exists_of_bind_eq_ok rest with ⟨authority, granted, done⟩
  cases done
  exact ⟨fun _ => rfl, fun _ => rfl, fun _ => rfl, Authority.told_of_founded granted⟩

/-! ### Standings -/

theorem Told.alike (told : limiter.Told audit) {other : Limiter} (alike : limiter.Alike other) :
    other.Told audit where
  defaults asset := by rw [told.defaults, alike.defaults]
  exempt position := by rw [told.exempt, isExempt, isExempt, alike.standing]
  total position := by rw [told.total, alike.standing]
  grants := alike.authority ▸ told.grants

/-- What a new standing means to an auditor. -/
theorem Told.withStanding (told : limiter.Told audit) (position : Position)
    (standing : Standing) :
    (limiter.withStanding position standing).Told
      { audit with
        exempt := Function.update audit.exempt position standing.exempt
        total := Function.update audit.total position standing.window.total } where
  defaults := told.defaults
  exempt sought := by
    refine (update_eq_ite ..).trans ?_
    rw [told.exempt, isExempt, isExempt, standing_withStanding]
    split <;> rfl
  total sought := by
    refine (update_eq_ite ..).trans ?_
    rw [told.total, standing_withStanding]
    split <;> rfl
  grants := told.grants

theorem Told.withTotal (told : limiter.Told audit) (position : Position) (standing : Standing)
    (exempt : standing.exempt = (limiter.standing position).exempt) :
    (limiter.withStanding position standing).Told
      (audit.withTotal position standing.window.total) := by
  have written := told.withStanding position standing
  have same : audit.exempt position = standing.exempt := (told.exempt position).trans exempt.symm
  rw [← same, Function.update_eq_self] at written
  exact written

theorem Told.withSame (told : limiter.Told audit) (position : Position) (standing : Standing)
    (exempt : standing.exempt = (limiter.standing position).exempt)
    (total : standing.window.total = (limiter.standing position).window.total) :
    (limiter.withStanding position standing).Told audit := by
  have written := told.withTotal position standing exempt
  rw [total, ← told.total, Audit.withTotal, Function.update_eq_self] at written
  exact written

theorem Told.withExemption (told : limiter.Told audit) (position : Position) (exempt : Bool) :
    (limiter.withExemption position exempt).Told
      { audit with exempt := Function.update audit.exempt position exempt } := by
  have written := told.withStanding position { limiter.standing position with exempt }
  rw [← told.total, Function.update_eq_self] at written
  exact written

theorem Told.withExemptions (told : limiter.Told audit) (asset : Address)
    (changes : List (Address × Bool)) :
    (changes.foldl (fun limiter change => limiter.withExemption ⟨asset, change.1⟩ change.2)
        limiter).Told
      ((changes.map fun change => Event.exemptionUpdated asset change.1 change.2).foldl
        Audit.note audit) := by
  induction changes generalizing limiter audit with
  | nil => exact told
  | cons change rest induction => exact induction (told.withExemption _ _)

/-! ### Commands -/

private theorem informs_updateDefaults (told : limiter.Told audit) (caller asset : Address)
    (change : Limits → Limits) :
    (limiter.updateDefaults caller asset change).Informs Told audit := by
  refine Outcome.Informs.guarded ⟨⟨fun sought => ?_, told.exempt, told.total, told.grants⟩⟩ told _
  refine (update_eq_ite ..).trans ?_
  rw [told.defaults]
  simp only [Outcome.accepted, Table.get?_insert, rank_eq_iff]

private theorem informs_updateOverrides (told : limiter.Told audit) (caller : Address)
    (position : Position) (change : Overrides → Overrides) :
    (limiter.updateOverrides caller position change).Informs Told audit := by
  apply Outcome.Informs.guarded _ told
  refine ⟨told.withSame position _ ?exempt ?total⟩
  case exempt => rfl
  case total => rfl

private theorem informs_commit (told : limiter.Told audit) {now : Seconds} {position : Position}
    (enforcement : Enforcement) {report : Limiter → Standing → Outcome Limiter}
    (reported : ∀ standing,
      enforcement.Passed (limiter.enforcedLimits position) now (limiter.standing position)
        standing →
      (report (limiter.withStanding position standing) standing).Informs Told audit) :
    (limiter.commit position (limiter.defaultLimits position.asset) (enforcement.judge now)
      report).Informs Told audit := by
  have touched := told.alike (.touch limiter position)
  cases exempt : limiter.isExempt position with
  | true =>
      rw [commit_of_exempt exempt]
      exact ⟨touched⟩
  | false =>
      cases judged : enforcement.judge now (limiter.standing position)
          (limiter.enforcedLimits position) with
      | error refusal =>
          rw [commit_of_error exempt judged]
          exact Outcome.informs_refused touched refusal
      | ok standing =>
          rw [commit_of_ok exempt judged]
          exact reported standing (Enforcement.passed_judge judged)

private theorem informs_reportConsumption (told : limiter.Told audit) {position : Position}
    {standing : Standing} (exempt : standing.exempt = (limiter.standing position).exempt)
    (amount : Amount) :
    (reportConsumption position amount (limiter.withStanding position standing)
      standing).Informs Told audit :=
  ⟨told.withTotal position standing exempt⟩

theorem informs_perform (told : limiter.Told audit) (now : Seconds) (caller : Address)
    (command : Command) : (limiter.perform now caller command).Informs Told audit := by
  cases command with
  | assignManager | assignCaller =>
      refine Authority.informs_reassign told.grants told nofun fun flags changed grants => ?_
      exact ⟨told.defaults, told.exempt, told.total, grants⟩
  | setDefaultCap | setDefaultPeriod | setDefaultLimits =>
      exact (informs_updateDefaults told ..).guarded told _
  | setDefaultCooldown asset cooldown =>
      exact informs_updateDefaults told caller asset fun limits => { limits with cooldown }
  | setUserCap | setUserPeriod | setUserLimits =>
      exact (informs_updateOverrides told ..).guarded told _
  | setUserCooldown position cooldown =>
      exact informs_updateOverrides told caller position (·.setCooldown cooldown)
  | resetUserLimits position =>
      have cleared := told.withSame position (limiter.standing position).clearOverrides rfl rfl
      exact Outcome.Informs.guarded
        ⟨cleared.alike (Alike.withStanding_amend limiter rfl position)⟩ told _
  | resetUserPeriod position =>
      have closed : (limiter.withStanding position (limiter.standing position).resetWindow).Told
          (audit.withTotal position .zero) :=
        told.withTotal position (limiter.standing position).resetWindow rfl
      exact Outcome.Informs.guarded
        ⟨closed.alike (Alike.withStanding_amend limiter rfl position)⟩ told _
  | setExemptions asset accounts exempt =>
      have switched := told.withExemptions asset (accounts.zip exempt)
      exact (Outcome.Informs.guarded ⟨switched⟩ told _).guarded told _
  | enforceCooldown position =>
      refine Outcome.Informs.guarded (informs_commit told .pace fun standing passed => ?_) told _
      have total := congrArg Window.total (passed.unconsumed rfl)
      exact ⟨told.withSame position standing passed.exempt total⟩
  | recordTransfer position amount =>
      refine Outcome.Informs.guarded
        (informs_commit told (.consume amount) fun standing passed => ?_) told _
      exact informs_reportConsumption told passed.exempt amount
  | charge position amount =>
      refine Outcome.Informs.guarded
        (informs_commit told (.charge amount) fun standing passed => ?_) told _
      exact informs_reportConsumption told passed.exempt amount

def performSigned (limiter : Limiter) (call : Timed (Signed Command)) : Outcome Limiter :=
  limiter.perform call.now call.command.caller call.command.command

end Limiter

end Turnstile
