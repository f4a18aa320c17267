import Turnstile.Proofs.Verdict
import Turnstile.Seeds

namespace Turnstile

/-! Valid configurations. What a flaw would be found in can be read, so a configuration
without flaws has seeds. -/

/-! ## Single fields -/

private theorem exists_ok_of_flawOf {Item : Type} {read : Except Flaw Item}
    (sound : flawOf read = []) : ∃ item, read = .ok item := by
  cases read with
  | ok item => exact ⟨item, rfl⟩
  | error flaw => cases sound

theorem LimitSettings.exists_resolve {settings : LimitSettings} {field : String}
    (sound : settings.flaws field = []) : ∃ limits, settings.resolve field = .ok limits := by
  rw [flaws, List.append_eq_nil_iff, List.append_eq_nil_iff] at sound
  rcases exists_ok_of_flawOf sound.1.1 with ⟨cap, readCap⟩
  rcases exists_ok_of_flawOf sound.1.2 with ⟨quota, readQuota⟩
  rcases exists_ok_of_flawOf sound.2 with ⟨period, readPeriod⟩
  rw [resolve, readCap, readQuota, readPeriod]
  exact ⟨_, rfl⟩

private theorem exists_mapM_of_forall {Item Result Fault : Type} {read : Item → Except Fault Result}
    {items : List Item} (every : ∀ item ∈ items, ∃ result, read item = .ok result) :
    ∃ results, items.mapM read = .ok results := by
  induction items with
  | nil => exact ⟨[], rfl⟩
  | cons item rest induction =>
      rcases every item List.mem_cons_self with ⟨result, here⟩
      rcases induction fun other member => every other (.tail item member) with
        ⟨results, later⟩
      rw [List.mapM_cons, here, later]
      exact ⟨result :: results, rfl⟩

namespace Seeds

variable {configuration : Configuration} {seeds : Seeds}

private theorem alone_ok {Item : Type} {read : Except Flaw Item} {item : Item}
    (found : read = .ok item) : alone read = .ok item := by
  rw [found]
  rfl

private theorem ok_of_alone {Item : Type} {read : Except Flaw Item} {item : Item}
    (found : alone read = .ok item) : read = .ok item := by
  cases read with
  | ok other =>
      cases found
      rfl
  | error flaw => cases found

private theorem exists_readPrincipals {field : String} {values : List String}
    (sound : flawsOfPrincipals field values = []) :
    ∃ addresses, readPrincipals field values = .ok addresses := by
  rw [flawsOfPrincipals, List.flatMap_eq_nil_iff] at sound
  refine exists_mapM_of_forall fun item member => ?_
  rcases exists_ok_of_flawOf (sound item member) with ⟨address, read⟩
  exact ⟨address, alone_ok read⟩

private theorem exists_readDefaults {entries : List (AssetSettings × Nat)}
    (sound : entries.flatMap Configuration.assetFlaws = []) :
    ∃ defaults, entries.mapM readDefault = .ok defaults := by
  rw [List.flatMap_eq_nil_iff] at sound
  refine exists_mapM_of_forall fun entry member => ?_
  have parts := sound entry member
  rw [Configuration.assetFlaws, List.append_eq_nil_iff] at parts
  rcases exists_ok_of_flawOf parts.1 with ⟨asset, readAsset⟩
  rcases LimitSettings.exists_resolve parts.2 with ⟨limits, readLimits⟩
  refine ⟨(asset, limits), ?_⟩
  rw [readDefault, alone_ok readAsset, readLimits]
  rfl

private theorem exists_readExemptions {entries : List (ExemptionSettings × Nat)}
    (sound : entries.flatMap Configuration.exemptionFlaws = []) :
    ∃ exemptions, entries.mapM readExemption = .ok exemptions := by
  rw [List.flatMap_eq_nil_iff] at sound
  refine exists_mapM_of_forall fun entry member => ?_
  have parts := sound entry member
  rw [Configuration.exemptionFlaws, List.append_eq_nil_iff] at parts
  rcases exists_ok_of_flawOf parts.1 with ⟨asset, readAsset⟩
  rcases exists_ok_of_flawOf parts.2 with ⟨account, readAccount⟩
  refine ⟨⟨asset, account⟩, ?_⟩
  rw [readExemption, alone_ok readAsset, alone_ok readAccount]
  rfl

/-! ## Whole configurations -/

theorem flaws_of_validate (valid : configuration.validate = .ok ()) :
    configuration.flaws = [] := by
  rw [Configuration.validate] at valid
  split at valid
  next sound => exact sound
  next => cases valid

theorem exists_ofConfiguration (valid : configuration.validate = .ok ()) :
    ∃ seeds, ofConfiguration configuration = .ok seeds := by
  have sound := flaws_of_validate valid
  simp only [Configuration.flaws, List.append_eq_nil_iff] at sound
  rcases sound with ⟨⟨⟨⟨⟨⟨⟨⟨⟨⟨⟨identity, admin⟩, minters⟩, members⟩, whitelisters⟩, managers⟩,
    fallback⟩, assets⟩, exemptions⟩, _⟩, _⟩, _⟩
  rcases exists_ok_of_flawOf identity with ⟨_, identity⟩
  rcases exists_ok_of_flawOf admin with ⟨_, admin⟩
  rcases LimitSettings.exists_resolve fallback with ⟨_, fallback⟩
  rcases exists_readPrincipals members with ⟨_, members⟩
  rcases exists_readPrincipals whitelisters with ⟨_, whitelisters⟩
  rcases exists_readPrincipals managers with ⟨_, managers⟩
  rcases exists_readDefaults assets with ⟨_, assets⟩
  rcases exists_readExemptions exemptions with ⟨_, exemptions⟩
  rcases exists_readPrincipals minters with ⟨_, minters⟩
  simp only [ofConfiguration, valid, alone_ok identity, alone_ok admin, fallback, members,
    whitelisters, managers, assets, exemptions, minters]
  exact ⟨_, rfl⟩

/-- All that is in the seeds was read in the field that it belongs to. -/
structure ReadFrom (seeds : Seeds) (configuration : Configuration) : Prop where
  identity : readPrincipal "service.identity" configuration.service.identity = .ok seeds.identity
  admin : readPrincipal "service.admin" configuration.service.admin = .ok seeds.admin
  fallback : configuration.limits.fallback.resolve "limits.fallback" = .ok seeds.fallback
  whitelistEnabled : seeds.whitelistEnabled = configuration.whitelist.enabled
  members : readPrincipals "whitelist.members" configuration.whitelist.members =
    .ok seeds.members
  whitelisters : readPrincipals "whitelist.whitelisters" configuration.whitelist.whitelisters =
    .ok seeds.whitelisters
  managers : readPrincipals "limits.managers" configuration.limits.managers = .ok seeds.managers
  defaults : configuration.limits.assets.zipIdx.mapM readDefault = .ok seeds.defaults
  exemptions : configuration.limits.exemptions.zipIdx.mapM readExemption = .ok seeds.exemptions
  minters : readPrincipals "gate.minters" configuration.gate.minters = .ok seeds.minters
  limitChecks : seeds.limitChecks = configuration.gate.limitChecks
  whitelistChecks : seeds.whitelistChecks = configuration.gate.whitelistChecks
  paused : seeds.paused = configuration.gate.paused

theorem readFrom_of_ofConfiguration (read : ofConfiguration configuration = .ok seeds) :
    seeds.ReadFrom configuration := by
  rw [ofConfiguration] at read
  -- One step for each thing that is read, after the one that looks for flaws.
  rcases exists_of_bind_eq_ok read with ⟨_, _, read⟩
  rcases exists_of_bind_eq_ok read with ⟨identity, readIdentity, read⟩
  rcases exists_of_bind_eq_ok read with ⟨admin, readAdmin, read⟩
  rcases exists_of_bind_eq_ok read with ⟨fallback, readFallback, read⟩
  rcases exists_of_bind_eq_ok read with ⟨members, readMembers, read⟩
  rcases exists_of_bind_eq_ok read with ⟨whitelisters, readWhitelisters, read⟩
  rcases exists_of_bind_eq_ok read with ⟨managers, readManagers, read⟩
  rcases exists_of_bind_eq_ok read with ⟨defaults, readDefaults, read⟩
  rcases exists_of_bind_eq_ok read with ⟨exemptions, readExemptions, read⟩
  rcases exists_of_bind_eq_ok read with ⟨minters, readMinters, read⟩
  cases read
  exact ⟨ok_of_alone readIdentity, ok_of_alone readAdmin, readFallback, rfl, readMembers,
    readWhitelisters, readManagers, readDefaults, readExemptions, readMinters, rfl, rfl, rfl⟩

end Seeds

end Turnstile
