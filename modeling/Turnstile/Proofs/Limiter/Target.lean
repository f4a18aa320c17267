import Turnstile.Limiter
import Turnstile.Proofs.Authority

namespace Turnstile

/-! What a command to a limiter is about, and nothing else is written by it: the grants, the
defaults of one asset, or the standings of the positions that it names. -/

namespace Limiter

inductive Target where
  | grants
  | defaults (asset : Address)
  | standing (position : Position)
  | exemptions (asset : Address) (accounts : List Address)

def Command.target : Command → Target
  | .assignManager .. | .assignCaller .. => .grants
  | .setDefaultCap asset _ | .setDefaultCooldown asset _ => .defaults asset
  | .setDefaultPeriod asset .. | .setDefaultLimits asset _ => .defaults asset
  | .setUserCap position _ | .setUserCooldown position _ => .standing position
  | .setUserPeriod position .. | .setUserLimits position _ => .standing position
  | .resetUserLimits position | .resetUserPeriod position => .standing position
  | .setExemptions asset accounts _ => .exemptions asset accounts
  | .enforceCooldown position => .standing position
  | .recordTransfer position _ | .charge position _ => .standing position

namespace Target

def Sets (asset : Address) : Target → Prop
  | .defaults set => set = asset
  | _ => False

def Strikes (position : Position) : Target → Prop
  | .standing struck => struck = position
  | .exemptions asset accounts => asset = position.asset ∧ position.account ∈ accounts
  | _ => False

theorem strikes_standing (position : Position) : (standing position).Strikes position :=
  rfl

end Target

/-- Between the two, nothing was written beside the target. -/
structure Confined (target : Target) (before after : Limiter) : Prop where
  fallback : after.fallback = before.fallback
  authority : target ≠ .grants → after.authority = before.authority
  defaults : ∀ asset, ¬target.Sets asset →
    after.defaults.get? asset = before.defaults.get? asset
  record : ∀ position, ¬target.Strikes position →
    after.standing? position = before.standing? position

section Confined

variable {target : Target} (limiter : Limiter)

theorem Confined.refl : Confined target limiter limiter :=
  ⟨rfl, fun _ => rfl, fun _ _ => rfl, fun _ _ => rfl⟩

theorem Confined.trans {before middle after : Limiter} (first : Confined target before middle)
    (second : Confined target middle after) : Confined target before after where
  fallback := second.fallback.trans first.fallback
  authority other := (second.authority other).trans (first.authority other)
  defaults asset other := (second.defaults asset other).trans (first.defaults asset other)
  record position other := (second.record position other).trans (first.record position other)

theorem Confined.defaultLimits {before after : Limiter} (confined : Confined target before after)
    {asset : Address} (unset : ¬target.Sets asset) :
    after.defaultLimits asset = before.defaultLimits asset := by
  rw [Limiter.defaultLimits, confined.defaults asset unset, confined.fallback,
    Limiter.defaultLimits]

/-! ## Writes -/

theorem confined_withAuthority (authority : Authority) :
    Confined .grants limiter { limiter with authority } :=
  ⟨rfl, fun other => absurd rfl other, fun _ _ => rfl, fun _ _ => rfl⟩

private theorem confined_withDefault (asset : Address) (limits : Limits) :
    Confined (.defaults asset) limiter
      { limiter with defaults := limiter.defaults.insert asset limits } where
  fallback := rfl
  authority _ := rfl
  defaults _ other := Table.get?_insert_of_ne _ _ fun same => other same.symm
  record _ _ := rfl

private theorem confined_withStanding {position : Position} (struck : target.Strikes position)
    (standing : Standing) :
    Confined target limiter (limiter.withStanding position standing) where
  fallback := rfl
  authority _ := rfl
  defaults _ _ := rfl
  record sought other := by
    rw [standing?_withStanding]
    refine if_neg fun same => other ?_
    rw [← same]
    exact struck

theorem confined_amend {position : Position} (struck : target.Strikes position)
    (change : Standing → Standing) :
    Confined target limiter (limiter.amend position change) := by
  rw [amend]
  split
  · exact limiter.confined_withStanding struck _
  · exact .refl limiter

private theorem confined_withExemptions (asset : Address) {accounts : List Address}
    {changes : List (Address × Bool)} (named : ∀ change ∈ changes, change.1 ∈ accounts) :
    Confined (.exemptions asset accounts) limiter
      (changes.foldl (fun limiter change => limiter.withExemption ⟨asset, change.1⟩ change.2)
        limiter) := by
  induction changes generalizing limiter with
  | nil => exact .refl limiter
  | cons change rest induction =>
      have struck : (Target.exemptions asset accounts).Strikes ⟨asset, change.1⟩ :=
        ⟨rfl, named change List.mem_cons_self⟩
      have first : Confined (.exemptions asset accounts) limiter
          (limiter.withExemption ⟨asset, change.1⟩ change.2) :=
        limiter.confined_withStanding struck _
      exact first.trans (induction _ fun other member => named other (.tail change member))

/-! ## Commands -/

private theorem confined_commit {position : Position} (struck : target.Strikes position)
    (defaults : Limits) (judge : Standing → Limits → Except Refusal Standing)
    {report : Limiter → Standing → Outcome Limiter}
    (reported : ∀ changed standing, (report changed standing).world = changed) :
    (limiter.commit position defaults judge report).Keeps (Confined target limiter) := by
  simp only [commit]
  split
  · exact ⟨limiter.confined_withStanding struck _⟩
  · split
    · exact ⟨limiter.confined_withStanding struck _⟩
    · refine ⟨?_⟩
      rw [reported]
      exact limiter.confined_withStanding struck _

private theorem confined_updateDefaults (caller asset : Address) (change : Limits → Limits) :
    (limiter.updateDefaults caller asset change).Keeps (Confined (.defaults asset) limiter) :=
  Outcome.Keeps.guarded ⟨limiter.confined_withDefault asset _⟩ (.refl limiter) _

private theorem confined_updateOverrides (caller : Address) (position : Position)
    (change : Overrides → Overrides) :
    (limiter.updateOverrides caller position change).Keeps
      (Confined (.standing position) limiter) := by
  have struck := Target.strikes_standing position
  exact Outcome.Keeps.guarded ⟨limiter.confined_withStanding struck _⟩ (.refl limiter) _

/-- A command writes at its target only. -/
theorem confined_perform (now : Seconds) (caller : Address) (command : Command) :
    (limiter.perform now caller command).Keeps (Confined command.target limiter) := by
  have untouched : Confined command.target limiter limiter := .refl limiter
  cases command with
  | assignManager | assignCaller =>
      exact Authority.keeps_reassign untouched _ limiter.confined_withAuthority ..
  | setDefaultCap | setDefaultPeriod | setDefaultLimits =>
      exact (limiter.confined_updateDefaults ..).guarded untouched _
  | setDefaultCooldown asset cooldown =>
      exact limiter.confined_updateDefaults caller asset fun limits => { limits with cooldown }
  | setUserCap | setUserPeriod | setUserLimits =>
      exact (limiter.confined_updateOverrides ..).guarded untouched _
  | setUserCooldown position cooldown =>
      exact limiter.confined_updateOverrides caller position (·.setCooldown cooldown)
  | resetUserLimits position | resetUserPeriod position =>
      have struck := Target.strikes_standing position
      exact Outcome.Keeps.guarded ⟨limiter.confined_amend struck _⟩ untouched _
  | setExemptions asset accounts exempt =>
      have named (change : Address × Bool) (member : change ∈ accounts.zip exempt) :
          change.1 ∈ accounts := (List.of_mem_zip member).1
      have changed := limiter.confined_withExemptions asset named
      exact (Outcome.Keeps.guarded ⟨changed⟩ untouched _).guarded untouched _
  | enforceCooldown position | recordTransfer position | charge position =>
      have struck := Target.strikes_standing position
      exact (limiter.confined_commit struck _ _ fun _ _ => rfl).guarded untouched _

end Confined

end Limiter

end Turnstile
