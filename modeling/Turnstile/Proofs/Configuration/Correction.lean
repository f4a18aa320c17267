import Mathlib.Data.List.Enum
import Mathlib.Data.List.Forall2
import Turnstile.Proofs.Configuration.Fields

namespace Turnstile

/-! Correcting a configuration one field at a time. A field holds something else then, and the
flaw of the field goes or comes; what is wrong with the other fields stays. Every flaw can be
corrected so. -/

open CheckedField

/-! ## Revisions -/

/-- One field of the limits holds something else. -/
inductive LimitSettings.Revises (settings : LimitSettings) : String → LimitSettings → Prop
  | cap (text : String) : Revises settings ".max_transfer_amount" { settings with cap := text }
  | quota (text : String) : Revises settings ".period_limit" { settings with quota := text }
  | period (seconds : Seconds) :
      Revises settings ".period_duration_secs" { settings with period := seconds }

inductive AssetSettings.Revises (settings : AssetSettings) : String → AssetSettings → Prop
  | asset (text : String) : Revises settings ".asset" { settings with asset := text }
  | limits {name : String} {limits : LimitSettings}
      (revises : settings.limits.Revises name limits) :
      Revises settings name { settings with limits }

inductive ExemptionSettings.Revises (settings : ExemptionSettings) :
    String → ExemptionSettings → Prop
  | asset (text : String) : Revises settings ".asset" { settings with asset := text }
  | account (text : String) : Revises settings ".account" { settings with account := text }

/-- One item of a list is revised. -/
inductive RevisesItem {Item : Type} (Revises : Item → String → Item → Prop) (list : String)
    (items : List Item) : String → List Item → Prop
  | item {index : Nat} {item revised : Item} {name : String} (present : items[index]? = some item)
      (revises : Revises item name revised) :
      RevisesItem Revises list items (indexed list index ++ name) (items.set index revised)

namespace Configuration

/-- A text in a list is replaced. -/
abbrev RevisesPrincipal (list : String) (texts : List String) :
    String → List String → Prop :=
  RevisesItem (fun _ name _ => name = "") list texts

/-- One field holds something else. -/
inductive Revises (configuration : Configuration) : String → Configuration → Prop
  | identity (text : String) : Revises configuration "service.identity"
      { configuration with service := { configuration.service with identity := text } }
  | admin (text : String) : Revises configuration "service.admin"
      { configuration with service := { configuration.service with admin := text } }
  | minters {name : String} {minters : List String}
      (revises : RevisesPrincipal "gate.minters" configuration.gate.minters name minters) :
      Revises configuration name
        { configuration with gate := { configuration.gate with minters } }
  | members {name : String} {members : List String}
      (revises :
        RevisesPrincipal "whitelist.members" configuration.whitelist.members name members) :
      Revises configuration name
        { configuration with whitelist := { configuration.whitelist with members } }
  | whitelisters {name : String} {whitelisters : List String}
      (revises : RevisesPrincipal "whitelist.whitelisters" configuration.whitelist.whitelisters
        name whitelisters) :
      Revises configuration name
        { configuration with whitelist := { configuration.whitelist with whitelisters } }
  | managers {name : String} {managers : List String}
      (revises : RevisesPrincipal "limits.managers" configuration.limits.managers name managers) :
      Revises configuration name
        { configuration with limits := { configuration.limits with managers } }
  | fallback {name : String} {fallback : LimitSettings}
      (revises : configuration.limits.fallback.Revises name fallback) :
      Revises configuration ("limits.fallback" ++ name)
        { configuration with limits := { configuration.limits with fallback } }
  | assets {name : String} {assets : List AssetSettings}
      (revises :
        RevisesItem AssetSettings.Revises "limits.assets" configuration.limits.assets name assets) :
      Revises configuration name
        { configuration with limits := { configuration.limits with assets } }
  | exemptions {name : String} {exemptions : List ExemptionSettings}
      (revises : RevisesItem ExemptionSettings.Revises "limits.exemptions"
        configuration.limits.exemptions name exemptions) :
      Revises configuration name
        { configuration with limits := { configuration.limits with exemptions } }
  | path (text : String) : Revises configuration "persistence.snapshot_path"
      { configuration with persistence := { configuration.persistence with path := text } }
  | operator (text : String) : Revises configuration "admin.operator"
      { configuration with admin := { configuration.admin with operator := text } }
  | bindAddress (text : String) : Revises configuration "admin.bind_address"
      { configuration with admin := { configuration.admin with bindAddress := text } }
  | apiKey (text : String) : Revises configuration "admin.api_key"
      { configuration with admin := { configuration.admin with apiKey := text } }
  | metricsAddress (text : String) : Revises configuration "observability.metrics_address"
      { configuration with
        observability := { configuration.observability with metricsAddress := text } }

end Configuration

/-! ## Fields of what is revised -/

/-- The same fields, of which those of one name may hold something else. -/
def Differ (name : String) : List CheckedField → List CheckedField → Prop :=
  List.Forall₂ fun old new => old = new ∨ old.name = name ∧ new.name = name

namespace Differ

variable {name : String} {before after : List CheckedField}

theorem refl (name : String) (fields : List CheckedField) : Differ name fields fields :=
  List.forall₂_same.mpr fun _ _ => .inl rfl

theorem here (old new : FieldSetting) (rest : List CheckedField) :
    Differ name (⟨name, old⟩ :: rest) (⟨name, new⟩ :: rest) :=
  .cons (.inr ⟨rfl, rfl⟩) (refl name rest)

theorem there (field : CheckedField) (differ : Differ name before after) :
    Differ name (field :: before) (field :: after) :=
  .cons (.inl rfl) differ

theorem append {more others : List CheckedField} (first : Differ name before after)
    (second : Differ name more others) : Differ name (before ++ more) (after ++ others) :=
  List.rel_append first second

/-- A group that is switched off has no fields. -/
theorem enabled (enabled : Bool) (differ : Differ name before after) :
    Differ name (if enabled then before else []) (if enabled then after else []) := by
  cases enabled with
  | false => exact .nil
  | true => exact differ

theorem under (part : String) (differ : Differ name before after) :
    Differ (part ++ name) (under part before) (under part after) := by
  refine List.forall₂_map_left_iff.mpr (List.forall₂_map_right_iff.mpr (differ.imp ?_))
  rintro old new (rfl | ⟨left, right⟩)
  · exact .inl rfl
  · exact .inr ⟨congrArg (part ++ ·) left, congrArg (part ++ ·) right⟩

/-- Nothing changes in the other groups. -/
private theorem flatten_set {groups : List (List CheckedField)} (index : Nat)
    (present : groups[index]? = some before) (differ : Differ name before after) :
    Differ name groups.flatten (groups.set index after).flatten := by
  induction groups generalizing index with
  | nil => cases present
  | cons group groups induction =>
      cases index with
      | zero =>
          cases present
          exact differ.append (refl name _)
      | succ index => exact (refl name group).append (induction index present)

/-- Apart from the field, all flaws are the same. -/
private theorem filter_flaws (differ : Differ name before after) :
    (before.filterMap flaw?).filter (·.field ≠ name) =
      (after.filterMap flaw?).filter (·.field ≠ name) := by
  induction differ with
  | nil => rfl
  | @cons old new _ _ same _ induction =>
      have gone {field : CheckedField} (named : field.name = name) :
          field.flaw?.toList.filter (·.field ≠ name) = [] := by
        refine List.filter_eq_nil_iff.mpr fun flaw found => ?_
        have names := field_of_flaw? (Option.mem_toList.mp found)
        simp [names, named]
      rw [filterMap_flaw?_cons, filterMap_flaw?_cons, List.filter_append, List.filter_append,
        induction]
      rcases same with rfl | ⟨left, right⟩
      · rfl
      · rw [gone left, gone right]

end Differ

private theorem zipIdx_set {Item : Type} (items : List Item) (index : Nat) (item : Item) :
    (items.set index item).zipIdx = items.zipIdx.set index (item, index) := by
  refine List.ext_getElem? fun position => ?_
  simp only [List.getElem?_zipIdx, List.getElem?_set, List.length_zipIdx]
  grind

/-- A revision changes what one field holds, and each field can be revised to hold something
that will do. -/
structure Revisable {Item : Type} (fields : Item → List CheckedField)
    (Revises : Item → String → Item → Prop) : Prop where
  differ : ∀ {item name revised}, Revises item name revised →
    Differ name (fields item) (fields revised)
  correct : ∀ item, ∀ field ∈ fields item, ∃ revised, Revises item field.name revised ∧
    ∃ setting, ⟨field.name, setting⟩ ∈ fields revised ∧ setting.Proper

namespace Revisable

/-- The name of some account. -/
def account : String :=
  "0x0000000000000000000000000000000000000001"

def address : String :=
  "127.0.0.1:8081"

private theorem proper_account : (FieldSetting.principal account).Proper := by
  decide

private theorem proper_amount : (FieldSetting.amount "max").Proper := by
  decide

private theorem proper_duration : (FieldSetting.duration 1).Proper := by
  decide

private theorem proper_path : (FieldSetting.path "state").Proper := by
  decide

private theorem proper_key : (FieldSetting.key "key").Proper := by
  decide

private theorem proper_address : (FieldSetting.socketAddress address).Proper := by
  decide

theorem principals : Revisable principalFields fun _ name _ => name = "" where
  differ same := same ▸ .here _ _ _
  correct _ field member := by
    cases List.mem_singleton.mp member
    exact ⟨account, rfl, _, .head _, proper_account⟩

theorem limits : Revisable LimitSettings.fields LimitSettings.Revises where
  differ revises := by
    cases revises with
    | cap => exact .here ..
    | quota => exact .there _ (.here ..)
    | period => exact .there _ (.there _ (.here ..))
  correct settings field member := by
    simp only [LimitSettings.fields, List.mem_cons, List.not_mem_nil, or_false] at member
    rcases member with rfl | rfl | rfl
    · exact ⟨_, .cap "max", _, .head _, proper_amount⟩
    · exact ⟨_, .quota "max", _, .tail _ (.head _), proper_amount⟩
    · exact ⟨_, .period 1, _, .tail _ (.tail _ (.head _)), proper_duration⟩

theorem assets : Revisable AssetSettings.fields AssetSettings.Revises where
  differ revises := by
    cases revises with
    | asset => exact .here ..
    | limits revises => exact .there _ (limits.differ revises)
  correct settings field member := by
    rcases List.mem_cons.mp member with rfl | member
    · exact ⟨_, .asset account, _, .head _, proper_account⟩
    · rcases limits.correct _ _ member with ⟨revised, revises, setting, found, proper⟩
      exact ⟨_, .limits revises, setting, .tail _ found, proper⟩

theorem exemptions : Revisable ExemptionSettings.fields ExemptionSettings.Revises where
  differ revises := by
    cases revises with
    | asset => exact .here ..
    | account => exact .there _ (.here ..)
  correct settings field member := by
    simp only [ExemptionSettings.fields, List.mem_cons, List.not_mem_nil, or_false] at member
    rcases member with rfl | rfl
    · exact ⟨_, .asset account, _, .head _, proper_account⟩
    · exact ⟨_, .account account, _, .tail _ (.head _), proper_account⟩

private theorem listed_set {Item : Type} (list : String) (fields : Item → List CheckedField)
    (items : List Item) (index : Nat) (item : Item) :
    CheckedField.listed list fields (items.set index item) =
      ((items.zipIdx.map fun item => under (indexed list item.2) (fields item.1)).set index
        (under (indexed list index) (fields item))).flatten := by
  rw [CheckedField.listed, zipIdx_set, List.flatMap, List.map_set]

theorem listed {Item : Type} {fields : Item → List CheckedField}
    {Revises : Item → String → Item → Prop} (revisable : Revisable fields Revises)
    (list : String) : Revisable (listed list fields) (RevisesItem Revises list) where
  differ revises := by
    rcases revises with @⟨index, item, _, _, present, revises⟩
    rw [listed_set]
    refine Differ.flatten_set index ?_ ((revisable.differ revises).under (indexed list index))
    simp [List.getElem?_zipIdx, present]
  correct items field member := by
    rcases List.mem_flatMap.mp member with ⟨⟨item, index⟩, present, member⟩
    rcases List.mem_map.mp member with ⟨part, among, rfl⟩
    rcases revisable.correct item part among with ⟨revised, revises, setting, found, proper⟩
    have present := List.mem_zipIdx_iff_getElem?.mp present
    have bound := (List.getElem?_eq_some_iff.mp present).1
    have replaced : (revised, index) ∈ (items.set index revised).zipIdx :=
      List.mem_zipIdx_iff_getElem?.mpr (List.getElem?_set_self bound)
    exact ⟨_, .item present revises, setting,
      List.mem_flatMap.mpr ⟨_, replaced, List.mem_map.mpr ⟨_, found, rfl⟩⟩, proper⟩

end Revisable

namespace Configuration

open Revisable

private theorem differ_fields {configuration revised : Configuration} {name : String}
    (revises : configuration.Revises name revised) :
    Differ name configuration.fields revised.fields := by
  cases revises with
  | identity => exact .flatten_set 0 rfl (.here ..)
  | admin => exact .flatten_set 0 rfl (.there _ (.here ..))
  | minters revises => exact .flatten_set 1 rfl ((principals.listed _).differ revises)
  | members revises => exact .flatten_set 2 rfl ((principals.listed _).differ revises)
  | whitelisters revises =>
      exact .flatten_set 3 rfl ((principals.listed _).differ revises)
  | managers revises => exact .flatten_set 4 rfl ((principals.listed _).differ revises)
  | fallback revises => exact .flatten_set 5 rfl ((Revisable.limits.differ revises).under _)
  | assets revises => exact .flatten_set 6 rfl ((assets.listed _).differ revises)
  | exemptions revises =>
      exact .flatten_set 7 rfl ((exemptions.listed _).differ revises)
  | path => exact .flatten_set 8 rfl (.enabled _ (.here ..))
  | operator => exact .flatten_set 9 rfl (.enabled _ (.here ..))
  | bindAddress => exact .flatten_set 9 rfl (.enabled _ (.there _ (.here ..)))
  | apiKey => exact .flatten_set 9 rfl (.enabled _ (.there _ (.there _ (.here ..))))
  | metricsAddress => exact .flatten_set 10 rfl (.enabled _ (.here ..))

private theorem mem_fields {configuration : Configuration} {field : CheckedField}
    {group : List CheckedField} (index : Nat)
    (present : configuration.groups[index]? = some group) (member : field ∈ group) :
    field ∈ configuration.fields :=
  List.mem_flatten.mpr ⟨group, List.mem_of_getElem? present, member⟩

/-- Whichever field it is, the configuration can be corrected there. -/
theorem exists_revises {configuration : Configuration} {field : CheckedField}
    (member : field ∈ configuration.fields) :
    ∃ revised, configuration.Revises field.name revised ∧
      ∃ setting, ⟨field.name, setting⟩ ∈ revised.fields ∧ setting.Proper := by
  rcases List.mem_flatten.mp member with ⟨group, among, member⟩
  simp only [groups, List.mem_cons, List.not_mem_nil, or_false] at among
  rcases among with rfl | rfl | rfl | rfl | rfl | rfl | rfl | rfl | rfl | rfl | rfl
  · simp only [IdentitySection.fields, List.mem_cons, List.not_mem_nil, or_false] at member
    rcases member with rfl | rfl
    · exact ⟨_, .identity account, _, mem_fields 0 rfl (.head _), proper_account⟩
    · exact ⟨_, .admin account, _, mem_fields 0 rfl (.tail _ (.head _)), proper_account⟩
  · rcases (principals.listed _).correct _ _ member with ⟨_, revises, setting, found, proper⟩
    exact ⟨_, .minters revises, setting, mem_fields 1 rfl found, proper⟩
  · rcases (principals.listed _).correct _ _ member with ⟨_, revises, setting, found, proper⟩
    exact ⟨_, .members revises, setting, mem_fields 2 rfl found, proper⟩
  · rcases (principals.listed _).correct _ _ member with ⟨_, revises, setting, found, proper⟩
    exact ⟨_, .whitelisters revises, setting, mem_fields 3 rfl found, proper⟩
  · rcases (principals.listed _).correct _ _ member with ⟨_, revises, setting, found, proper⟩
    exact ⟨_, .managers revises, setting, mem_fields 4 rfl found, proper⟩
  · rcases List.mem_map.mp member with ⟨part, among, rfl⟩
    rcases Revisable.limits.correct _ _ among with ⟨_, revises, setting, found, proper⟩
    exact ⟨_, .fallback revises, setting,
      mem_fields 5 rfl (List.mem_map.mpr ⟨_, found, rfl⟩), proper⟩
  · rcases (assets.listed _).correct _ _ member with ⟨_, revises, setting, found, proper⟩
    exact ⟨_, .assets revises, setting, mem_fields 6 rfl found, proper⟩
  · rcases (exemptions.listed _).correct _ _ member with ⟨_, revises, setting, found, proper⟩
    exact ⟨_, .exemptions revises, setting, mem_fields 7 rfl found, proper⟩
  · rcases List.mem_ite_nil_right.mp member with ⟨enabled, member⟩
    cases List.mem_singleton.mp member
    exact ⟨_, .path "state", _,
      mem_fields 8 rfl (List.mem_ite_nil_right.mpr ⟨enabled, .head _⟩), proper_path⟩
  · rcases List.mem_ite_nil_right.mp member with ⟨enabled, member⟩
    have listed {field : CheckedField} {fields : List CheckedField} (found : field ∈ fields) :=
      List.mem_ite_nil_right.mpr ⟨enabled, found⟩
    simp only [List.mem_cons, List.not_mem_nil, or_false] at member
    rcases member with rfl | rfl | rfl
    · exact ⟨_, .operator account, _, mem_fields 9 rfl (listed (.head _)), proper_account⟩
    · exact ⟨_, .bindAddress address, _, mem_fields 9 rfl (listed (.tail _ (.head _))),
        proper_address⟩
    · exact ⟨_, .apiKey "key", _, mem_fields 9 rfl (listed (.tail _ (.tail _ (.head _)))),
        proper_key⟩
  · rcases List.mem_ite_nil_right.mp member with ⟨enabled, member⟩
    cases List.mem_singleton.mp member
    exact ⟨_, .metricsAddress address, _,
      mem_fields 10 rfl (List.mem_ite_nil_right.mpr ⟨enabled, .head _⟩), proper_address⟩

/-! ## Reports -/

variable {configuration revised : Configuration} {name : String} {flaw : Flaw}

private theorem field_mem_of_flaw (found : flaw ∈ configuration.flaws) :
    ∃ field ∈ configuration.fields, field.name = flaw.field ∧ field.flaw? = some flaw := by
  rw [← filterMap_flaw?_fields] at found
  rcases List.mem_filterMap.mp found with ⟨field, member, flawed⟩
  exact ⟨field, member, (field_of_flaw? flawed).symm, flawed⟩

theorem map_field_flaws (configuration : Configuration) :
    configuration.flaws.map Flaw.field =
      (configuration.fields.filter fun field => ¬field.Proper).map CheckedField.name := by
  rw [← filterMap_flaw?_fields]
  induction configuration.fields with
  | nil => rfl
  | cons field fields induction =>
      rw [filterMap_flaw?_cons, List.map_append, induction, List.filter_cons]
      cases flawed : field.flaw? with
      | none =>
          have proper := flaw?_eq_none_iff.mp flawed
          simp [proper]
      | some flaw =>
          have improper : ¬field.Proper := fun proper => by
            rw [flaw?_eq_none_iff.mpr proper] at flawed
            cases flawed
          simp [improper, field_of_flaw? flawed]

theorem nodup_map_field (configuration : Configuration) :
    (configuration.flaws.map Flaw.field).Nodup := by
  rw [map_field_flaws]
  exact configuration.nodup_names.sublist (List.filter_sublist.map _)

/-- A field that will do is not reported. -/
private theorem unreported {setting : FieldSetting}
    (member : ⟨name, setting⟩ ∈ configuration.fields) (proper : setting.Proper) :
    ∀ flaw ∈ configuration.flaws, flaw.field ≠ name := by
  intro flaw found same
  rcases field_mem_of_flaw found with ⟨field, among, named, flawed⟩
  cases List.inj_on_of_nodup_map configuration.nodup_names among member (named.trans same)
  have sound : flaw? ⟨name, setting⟩ = none := flaw?_eq_none_iff.mpr proper
  rw [sound] at flawed
  cases flawed

private theorem filter_flaws_of_revises (revises : configuration.Revises name revised) :
    revised.flaws.filter (·.field ≠ name) = configuration.flaws.filter (·.field ≠ name) := by
  rw [← filterMap_flaw?_fields, ← filterMap_flaw?_fields]
  exact (differ_fields revises).filter_flaws.symm

/-- A flaw that is corrected is gone, and all others stay. -/
theorem flaws_of_corrects (found : flaw ∈ configuration.flaws)
    (revises : configuration.Revises flaw.field revised) {setting : FieldSetting}
    (member : ⟨flaw.field, setting⟩ ∈ revised.fields) (proper : setting.Proper) :
    revised.flaws = configuration.flaws.erase flaw := by
  have others : revised.flaws.filter (·.field ≠ flaw.field) = revised.flaws :=
    List.filter_eq_self.mpr fun other among =>
      decide_eq_true (unreported member proper other among)
  have names := configuration.nodup_map_field
  rw [← others, filter_flaws_of_revises revises, names.of_map.erase_eq_filter]
  refine List.filter_congr fun other among => ?_
  have same : other.field = flaw.field ↔ other = flaw :=
    ⟨fun same => List.inj_on_of_nodup_map names among found same, congrArg Flaw.field⟩
  rw [Bool.eq_iff_iff]
  simp [same]

theorem validate_eq_ok_iff :
    configuration.validate = .ok () ↔ ∀ field ∈ configuration.fields, field.Proper := by
  have sound : configuration.validate = .ok () ↔ configuration.flaws = [] := by
    rw [validate]
    cases configuration.flaws <;> simp
  rw [sound, ← filterMap_flaw?_fields, List.filterMap_eq_nil_iff]
  simp only [flaw?_eq_none_iff]

theorem flaws_of_invalid {flaws : List Flaw} (failed : configuration.validate = .error flaws) :
    flaws = configuration.flaws := by
  rw [validate] at failed
  split at failed
  · cases failed
  · exact (Except.error.inj failed).symm

/-- What is reported are the fields that will not do, in the order in which fields are looked
at, and nothing is reported of any field twice. To revise a field changes nothing in what is
reported of the others; every flaw can be corrected by revising its field, and then it alone is
gone. A configuration is valid if there is nothing to report. -/
theorem faults_reported (configuration : Configuration) :
    (configuration.validate = .ok () ↔ ∀ field ∈ configuration.fields, field.Proper) ∧
      (∀ flaws, configuration.validate = .error flaws → flaws = configuration.flaws) ∧
      configuration.flaws = configuration.fields.filterMap CheckedField.flaw? ∧
      configuration.flaws.map Flaw.field =
        (configuration.fields.filter fun field => ¬field.Proper).map CheckedField.name ∧
      (configuration.fields.map CheckedField.name).Nodup ∧
      (∀ name revised, configuration.Revises name revised →
        revised.flaws.filter (·.field ≠ name) = configuration.flaws.filter (·.field ≠ name)) ∧
      ∀ flaw ∈ configuration.flaws,
        (∃ revised, configuration.Revises flaw.field revised ∧
          ∃ setting, ⟨flaw.field, setting⟩ ∈ revised.fields ∧ setting.Proper) ∧
        ∀ revised setting, configuration.Revises flaw.field revised →
          ⟨flaw.field, setting⟩ ∈ revised.fields → setting.Proper →
            revised.flaws = configuration.flaws.erase flaw := by
  refine ⟨validate_eq_ok_iff, fun _ => flaws_of_invalid,
    configuration.filterMap_flaw?_fields.symm, configuration.map_field_flaws,
    configuration.nodup_names, fun _ _ => filter_flaws_of_revises, fun flaw found => ⟨?_, ?_⟩⟩
  · rcases field_mem_of_flaw found with ⟨field, member, named, _⟩
    rw [← named]
    exact exists_revises member
  · intro revised setting revises member proper
    exact flaws_of_corrects found revises member proper

namespace Sample

/-- The second minter is the null identity, the quota of an asset is zero, and there is no key. -/
def faulty : Configuration where
  service := { identity := Revisable.account, admin := Revisable.account }
  gate := { minters := [Revisable.account, "0x0000000000000000000000000000000000000000"] }
  limits := { assets := [⟨Revisable.account, { quota := "0" }⟩] }
  admin := { enabled := true, apiKey := "", operator := Revisable.account }

end Sample

theorem faults_reported_sample :
    let corrected := Sample.faulty.gate.minters.set 1 Revisable.account
    let revised : Configuration :=
      { Sample.faulty with gate := { Sample.faulty.gate with minters := corrected } }
    Sample.faulty.flaws =
        [⟨"gate.minters[1]", .zeroAddress⟩, ⟨"limits.assets[0].period_limit", .zero⟩,
          ⟨"admin.api_key", .empty⟩] ∧
      Sample.faulty.Revises "gate.minters[1]" revised ∧
      (⟨"gate.minters[1]", .principal Revisable.account⟩ : CheckedField) ∈ revised.fields ∧
      (FieldSetting.principal Revisable.account).Proper ∧
      revised.flaws =
        [⟨"limits.assets[0].period_limit", .zero⟩, ⟨"admin.api_key", .empty⟩] := by
  intro corrected revised
  have flaws : Sample.faulty.flaws =
      [⟨"gate.minters[1]", .zeroAddress⟩, ⟨"limits.assets[0].period_limit", .zero⟩,
        ⟨"admin.api_key", .empty⟩] := by decide
  have revises : Sample.faulty.Revises "gate.minters[1]" revised := by
    have named : "gate.minters[1]" = indexed "gate.minters" 1 ++ "" := by decide
    rw [named]
    exact .minters (.item rfl rfl)
  have member : (⟨"gate.minters[1]", .principal Revisable.account⟩ : CheckedField) ∈
      revised.fields := by decide
  rcases faults_reported Sample.faulty with ⟨_, _, _, _, _, _, corrects⟩
  have gone := (corrects ⟨"gate.minters[1]", .zeroAddress⟩ (by decide)).2 revised _ revises member
    Revisable.proper_account
  rw [flaws] at gone
  exact ⟨flaws, revises, member, Revisable.proper_account, gone⟩

end Configuration

end Turnstile
