import Turnstile.Proofs.Limiter.History

namespace Turnstile

/-! Valid limits everywhere. What a limiter stores was checked before it was written, so in
every limiter that a run leads to, all limits in force leave room in every dimension. -/

theorem checkPositive_eq_ok_iff {amount : Amount} :
    checkPositive amount = .ok () ↔ amount ≠ .zero := by
  rw [checkPositive]
  split <;> simp [*]

theorem checkPeriod_eq_ok_iff {quota : Amount} {period : Seconds} :
    checkPeriod quota period = .ok () ↔ quota ≠ .zero ∧ period ≠ 0 := by
  rw [checkPeriod, checkPositive]
  by_cases none : quota = .zero <;> by_cases empty : period = 0 <;>
    simp [none, empty, bind, Except.bind]

theorem Overrides.valid_apply {overrides : Overrides} {defaults : Limits}
    (values : overrides.values.Valid) (valid : defaults.Valid) :
    (overrides.apply defaults).Valid := by
  rcases values with ⟨cap, quota, period⟩
  rcases valid with ⟨defaultCap, defaultQuota, defaultPeriod⟩
  refine ⟨?_, ?_, ?_⟩ <;> simp only [Overrides.apply] <;> split <;> assumption

namespace Limiter

/-- Every limit that is stored leaves room, also in overrides that are not in force. -/
structure WellLimited (limiter : Limiter) : Prop where
  fallback : limiter.fallback.Valid
  defaults : ∀ asset, (limiter.defaultLimits asset).Valid
  overrides : ∀ position, (limiter.standing position).overrides.values.Valid

namespace WellLimited

variable {limiter : Limiter}

theorem enforcedLimits (sound : limiter.WellLimited) (position : Position) :
    (limiter.enforcedLimits position).Valid :=
  Overrides.valid_apply (sound.overrides position) (sound.defaults position.asset)

theorem of_alike {other : Limiter} (sound : limiter.WellLimited)
    (alike : limiter.Alike other) : other.WellLimited where
  fallback := alike.fallback ▸ sound.fallback
  defaults asset := alike.defaultLimits asset ▸ sound.defaults asset
  overrides position := alike.standing position ▸ sound.overrides position

theorem withAuthority (sound : limiter.WellLimited) (authority : Authority) :
    ({ limiter with authority } : Limiter).WellLimited :=
  ⟨sound.fallback, sound.defaults, sound.overrides⟩

theorem withDefaults (sound : limiter.WellLimited) {limits : Limits} (valid : limits.Valid)
    (asset : Address) :
    ({ limiter with defaults := limiter.defaults.insert asset limits } : Limiter).WellLimited where
  fallback := sound.fallback
  defaults sought := by
    rw [defaultLimits, Table.get?_insert]
    split
    · exact valid
    · exact sound.defaults sought
  overrides := sound.overrides

theorem withStanding (sound : limiter.WellLimited) {standing : Standing}
    (valid : standing.overrides.values.Valid) (position : Position) :
    (limiter.withStanding position standing).WellLimited where
  fallback := sound.fallback
  defaults := sound.defaults
  overrides sought := by
    rw [standing_withStanding]
    split
    · exact valid
    · exact sound.overrides sought

theorem amend (sound : limiter.WellLimited) {change : Standing → Standing}
    (fresh : change .fresh = .fresh)
    (keeps : ∀ standing, (change standing).overrides.values = standing.overrides.values)
    (position : Position) : (limiter.amend position change).WellLimited := by
  have valid := sound.overrides position
  rw [← keeps] at valid
  exact (sound.withStanding valid position).of_alike
    (Alike.withStanding_amend limiter fresh position)

theorem withExemption (sound : limiter.WellLimited) (position : Position) (exempt : Bool) :
    (limiter.withExemption position exempt).WellLimited := by
  have valid : ({ limiter.standing position with exempt } : Standing).overrides.values.Valid :=
    sound.overrides position
  exact sound.withStanding valid position

theorem withExemptions (sound : limiter.WellLimited) (asset : Address)
    (changes : List (Address × Bool)) :
    (changes.foldl (fun limiter change => limiter.withExemption ⟨asset, change.1⟩ change.2)
      limiter).WellLimited := by
  induction changes generalizing limiter with
  | nil => exact sound
  | cons change rest induction =>
      exact induction (sound.withExemption ⟨asset, change.1⟩ change.2)

/-! ## Commands -/

theorem reassign (sound : limiter.WellLimited) (caller : Address) (role : Role)
    (account : Address) (held : Bool) :
    (limiter.assignRole caller role account held).world.WellLimited := by
  rw [assignRole, Authority.reassign]
  split
  · exact sound
  · exact sound.withAuthority _
  · exact sound.withAuthority _

theorem updateDefaults (sound : limiter.WellLimited) (caller asset : Address)
    {change : Limits → Limits} (keeps : ∀ limits, limits.Valid → (change limits).Valid) :
    (limiter.updateDefaults caller asset change).Ensures WellLimited := by
  refine Outcome.ensures_guarded fun _ => Outcome.ensures_accepted ?_ _ _
  exact sound.withDefaults (keeps _ (sound.defaults asset)) asset

theorem updateOverrides (sound : limiter.WellLimited) (caller : Address)
    (position : Position) {change : Overrides → Overrides}
    (keeps : ∀ overrides, overrides.values.Valid → (change overrides).values.Valid) :
    (limiter.updateOverrides caller position change).Ensures WellLimited := by
  refine Outcome.ensures_guarded fun _ => Outcome.ensures_accepted ?_ _ _
  exact sound.withStanding (keeps _ (sound.overrides position)) position

theorem commit (sound : limiter.WellLimited) (position : Position)
    (enforcement : Enforcement) (now : Seconds)
    {report : Limiter → Standing → Outcome Limiter}
    (reported : ∀ changed standing, (report changed standing).world = changed) :
    (limiter.commit position (limiter.defaultLimits position.asset) (enforcement.judge now)
      report).Ensures WellLimited := by
  have touched := sound.of_alike (.touch limiter position)
  simp only [Limiter.commit]
  split
  · exact Outcome.ensures_accepted touched _ _
  · split
    next refusal _ => exact Outcome.ensures_refused _ refusal
    next standing judged =>
      have kept := (Enforcement.passed_judge judged).overrides
      have valid := sound.overrides position
      rw [← kept] at valid
      refine ⟨fun _ => ?_⟩
      rw [reported]
      exact sound.withStanding valid position

theorem ensures_perform (sound : limiter.WellLimited) (now : Seconds) (caller : Address)
    (command : Command) : (limiter.perform now caller command).Ensures WellLimited := by
  cases command with
  | assignManager account held => exact ⟨fun _ => sound.reassign ..⟩
  | assignCaller account held => exact ⟨fun _ => sound.reassign ..⟩
  | setDefaultCap asset cap =>
      refine Outcome.ensures_guarded fun passed => sound.updateDefaults caller asset ?_
      exact fun _ valid => ⟨checkPositive_eq_ok_iff.mp passed, valid.2⟩
  | setDefaultCooldown asset cooldown =>
      have keeps (limits : Limits) (valid : limits.Valid) :
          ({ limits with cooldown } : Limits).Valid := valid
      exact sound.updateDefaults caller asset keeps
  | setDefaultPeriod asset quota period =>
      refine Outcome.ensures_guarded fun passed => sound.updateDefaults caller asset ?_
      exact fun _ valid => ⟨valid.1, checkPeriod_eq_ok_iff.mp passed⟩
  | setDefaultLimits asset limits =>
      refine Outcome.ensures_guarded fun passed => sound.updateDefaults caller asset ?_
      exact fun _ _ => Limits.check_eq_ok_iff.mp passed
  | setUserCap position cap =>
      refine Outcome.ensures_guarded fun passed => sound.updateOverrides caller position ?_
      exact fun _ valid => ⟨checkPositive_eq_ok_iff.mp passed, valid.2⟩
  | setUserCooldown position cooldown =>
      have keeps (overrides : Overrides) (valid : overrides.values.Valid) :
          (overrides.setCooldown cooldown).values.Valid := valid
      exact sound.updateOverrides caller position keeps
  | setUserPeriod position quota period =>
      refine Outcome.ensures_guarded fun passed => sound.updateOverrides caller position ?_
      exact fun _ valid => ⟨valid.1, checkPeriod_eq_ok_iff.mp passed⟩
  | setUserLimits position limits =>
      refine Outcome.ensures_guarded fun passed => sound.updateOverrides caller position ?_
      exact fun _ _ => Limits.check_eq_ok_iff.mp passed
  | resetUserLimits position =>
      have keeps (standing : Standing) :
          standing.clearOverrides.overrides.values = standing.overrides.values := rfl
      refine Outcome.ensures_guarded fun _ => Outcome.ensures_accepted ?_ _ _
      exact sound.amend rfl keeps position
  | resetUserPeriod position =>
      have keeps (standing : Standing) :
          standing.resetWindow.overrides.values = standing.overrides.values := rfl
      refine Outcome.ensures_guarded fun _ => Outcome.ensures_accepted ?_ _ _
      exact sound.amend rfl keeps position
  | setExemptions asset accounts exempt =>
      refine Outcome.ensures_guarded fun _ => Outcome.ensures_guarded fun _ =>
        Outcome.ensures_accepted ?_ _ _
      exact sound.withExemptions asset _
  | enforceCooldown position =>
      exact Outcome.ensures_guarded fun _ => sound.commit position .pace now fun _ _ => rfl
  | recordTransfer position amount =>
      exact Outcome.ensures_guarded fun _ =>
        sound.commit position (.consume amount) now fun _ _ => rfl
  | charge position amount =>
      exact Outcome.ensures_guarded fun _ =>
        sound.commit position (.charge amount) now fun _ _ => rfl

theorem regrant (sound : limiter.WellLimited) (caller : Address) (role : Role)
    (account : Address) (held : Bool) :
    (limiter.regrant caller role account held).world.WellLimited := by
  rw [Limiter.regrant]
  split
  · exact sound
  · exact sound.withAuthority _

theorem handle (sound : limiter.WellLimited) (call : Timed Request) :
    (limiter.handle call).world.WellLimited := by
  cases answer : (limiter.handle call).answer with
  | error refusal => exact sound.of_alike ((atomic_handle limiter call).spared refusal answer)
  | ok =>
      rcases call with ⟨now, request⟩
      cases request with
      | perform caller command => exact (sound.ensures_perform now caller command).done answer
      | regrant caller role account held => exact sound.regrant caller role account held

end WellLimited

/-! ## Reachable limiters -/

/-- Some run since the limiter was new leads here. -/
def Reachable (limiter : Limiter) : Prop :=
  ∃ admin fallback start, Limiter.founded admin fallback = .ok start ∧
    ∃ calls, Run.final Limiter.handle start calls = limiter

theorem wellLimited_of_founded {admin : Address} {fallback : Limits} {limiter : Limiter}
    (founded : Limiter.founded admin fallback = .ok limiter) : limiter.WellLimited := by
  have fresh := standing_of_founded founded
  rcases exists_of_bind_eq_ok founded with ⟨_, checked, rest⟩
  rcases exists_of_bind_eq_ok rest with ⟨_, _, done⟩
  have valid := Limits.check_eq_ok_iff.mp checked
  cases done
  refine ⟨valid, fun _ => valid, fun position => ?_⟩
  rw [fresh]
  decide

theorem Reachable.wellLimited {limiter : Limiter} (reachable : limiter.Reachable) :
    limiter.WellLimited := by
  rcases reachable with ⟨admin, fallback, start, founded, calls, rfl⟩
  exact Run.final_of_step WellLimited (fun _ call sound => sound.handle call)
    (wellLimited_of_founded founded) calls

end Limiter

end Turnstile
