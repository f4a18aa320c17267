import Mathlib.Data.List.Nodup
import Mathlib.Data.List.Sigma
import Turnstile.Proofs.Configuration.Settings

namespace Turnstile

/-! The fields of a configuration that are checked. Each has a name and holds a setting that
will do or will not, and the flaws of a configuration are those of its fields, in their order.
No two fields have one name, however long the lists are that they are in. -/

/-! ## Settings -/

/-- What a field holds. -/
inductive FieldSetting where
  /-- The name of an account. -/
  | principal (text : String)
  | amount (text : String)
  | duration (seconds : Seconds)
  | path (text : String)
  | key (text : String)
  | socketAddress (text : String)
deriving DecidableEq

namespace FieldSetting

/-- The setting will do. -/
def Proper : FieldSetting → Prop
  | .principal text => (Address.principal? text).isSome
  | .amount text => (Amount.positive? text).isSome
  | .duration seconds => seconds ≠ 0
  | .path text => Text.trim text.toList ≠ []
  | .key text => text ≠ ""
  | .socketAddress text => (Text.SocketAddress.ofText? text.toList).isSome

instance : (setting : FieldSetting) → Decidable setting.Proper
  | .principal _ | .amount _ | .socketAddress _ => inferInstanceAs (Decidable (_ = true))
  | .duration _ | .path _ | .key _ => inferInstanceAs (Decidable (_ ≠ _))

/-- What is wrong with the setting. -/
def cause? : FieldSetting → Option Flaw.Cause
  | .principal text =>
      match Address.ofText? (Text.trim text.toList) with
      | some account => if account = .zero then some .zeroAddress else none
      | none => some (.invalidAddress text)
  | .amount text =>
      match Amount.ofSetting? (Text.trim text.toList) with
      | some number => if number = .zero then some .zero else none
      | none => some (.invalidAmount (String.ofList (Text.trim text.toList)))
  | .duration seconds => if seconds = 0 then some .zero else none
  | .path text => if Text.trim text.toList = [] then some .empty else none
  | .key text => if text = "" then some .empty else none
  | .socketAddress text =>
      match Text.SocketAddress.ofText? text.toList with
      | some _ => none
      | none => some (.invalidSocketAddress text)

theorem cause?_eq_none_iff {setting : FieldSetting} : setting.cause? = none ↔ setting.Proper := by
  cases setting with
  | principal text =>
      rw [cause?, Proper, Address.principal?]
      cases Address.ofText? (Text.trim text.toList) with
      | none => simp
      | some account => by_cases zero : account = .zero <;> simp [zero]
  | amount text =>
      rw [cause?, Proper, Amount.positive?]
      cases Amount.ofSetting? (Text.trim text.toList) with
      | none => simp
      | some number => by_cases zero : number = .zero <;> simp [zero]
  | socketAddress text =>
      rw [cause?, Proper]
      cases Text.SocketAddress.ofText? text.toList <;> simp
  | duration | path | key => simp [cause?, Proper]

end FieldSetting

/-! ## Fields -/

structure CheckedField where
  name : String
  setting : FieldSetting
deriving DecidableEq

namespace CheckedField

def Proper (field : CheckedField) : Prop :=
  field.setting.Proper

instance (field : CheckedField) : Decidable field.Proper :=
  inferInstanceAs (Decidable field.setting.Proper)

def flaw? (field : CheckedField) : Option Flaw :=
  field.setting.cause?.map (Flaw.mk field.name)

theorem flaw?_eq_none_iff {field : CheckedField} : field.flaw? = none ↔ field.Proper :=
  Option.map_eq_none_iff.trans FieldSetting.cause?_eq_none_iff

theorem field_of_flaw? {field : CheckedField} {flaw : Flaw} (found : field.flaw? = some flaw) :
    flaw.field = field.name := by
  rcases Option.map_eq_some_iff.mp found with ⟨_, _, rfl⟩
  rfl

/-- The fields of a part, named under the name of the part. -/
def under (name : String) (fields : List CheckedField) : List CheckedField :=
  fields.map fun field => { field with name := name ++ field.name }

/-- The fields of the items of a list, named by their places in the list. -/
def listed {Item : Type} (name : String) (fields : Item → List CheckedField)
    (items : List Item) : List CheckedField :=
  items.zipIdx.flatMap fun item => under (indexed name item.2) (fields item.1)

end CheckedField

open CheckedField

/-- A text on its own that must name an account. -/
def principalFields (text : String) : List CheckedField :=
  [⟨"", .principal text⟩]

def LimitSettings.fields (settings : LimitSettings) : List CheckedField :=
  [⟨".max_transfer_amount", .amount settings.cap⟩,
    ⟨".period_limit", .amount settings.quota⟩,
    ⟨".period_duration_secs", .duration settings.period⟩]

def AssetSettings.fields (settings : AssetSettings) : List CheckedField :=
  ⟨".asset", .principal settings.asset⟩ :: settings.limits.fields

def ExemptionSettings.fields (settings : ExemptionSettings) : List CheckedField :=
  [⟨".asset", .principal settings.asset⟩, ⟨".account", .principal settings.account⟩]

def IdentitySection.fields (settings : IdentitySection) : List CheckedField :=
  [⟨"service.identity", .principal settings.identity⟩,
    ⟨"service.admin", .principal settings.admin⟩]

/-- Without snapshots there is no need of a place for them. -/
def PersistenceSection.fields (settings : PersistenceSection) : List CheckedField :=
  if settings.enabled then [⟨"persistence.snapshot_path", .path settings.path⟩] else []

def AdminSection.fields (settings : AdminSection) : List CheckedField :=
  if settings.enabled then
    [⟨"admin.operator", .principal settings.operator⟩,
      ⟨"admin.bind_address", .socketAddress settings.bindAddress⟩,
      ⟨"admin.api_key", .key settings.apiKey⟩]
  else []

def ObservabilitySection.fields (settings : ObservabilitySection) : List CheckedField :=
  if settings.metricsEnabled then
    [⟨"observability.metrics_address", .socketAddress settings.metricsAddress⟩]
  else []

namespace Configuration

variable {configuration : Configuration}

/-- The fields that are checked, in groups. -/
def groups (configuration : Configuration) : List (List CheckedField) :=
  [configuration.service.fields,
    listed "gate.minters" principalFields configuration.gate.minters,
    listed "whitelist.members" principalFields configuration.whitelist.members,
    listed "whitelist.whitelisters" principalFields configuration.whitelist.whitelisters,
    listed "limits.managers" principalFields configuration.limits.managers,
    under "limits.fallback" configuration.limits.fallback.fields,
    listed "limits.assets" AssetSettings.fields configuration.limits.assets,
    listed "limits.exemptions" ExemptionSettings.fields configuration.limits.exemptions,
    configuration.persistence.fields,
    configuration.admin.fields,
    configuration.observability.fields]

/-- The fields that are checked, in the order in which they are looked at. -/
def fields (configuration : Configuration) : List CheckedField :=
  configuration.groups.flatten

end Configuration

/-! ## Flaws of fields -/

private theorem flawOf_readPrincipal (name text : String) :
    flawOf (readPrincipal name text) = (flaw? ⟨name, .principal text⟩).toList := by
  rw [readPrincipal, readAddress, flaw?, FieldSetting.cause?]
  cases Address.ofText? (Text.trim text.toList) with
  | none => rfl
  | some account =>
      by_cases zero : account = .zero <;>
        simp [bind, Except.bind, pure, Except.pure, flawOf, zero]

private theorem flawOf_readPositive (name text : String) :
    flawOf (readPositive name text) = (flaw? ⟨name, .amount text⟩).toList := by
  rw [readPositive, readAmount, flaw?, FieldSetting.cause?]
  cases Amount.ofSetting? (Text.trim text.toList) with
  | none => rfl
  | some amount =>
      by_cases zero : amount = .zero <;>
        simp [bind, Except.bind, pure, Except.pure, flawOf, zero]

private theorem flawOf_readPeriod (name : String) (seconds : Seconds) :
    flawOf (readPeriod name seconds) = (flaw? ⟨name, .duration seconds⟩).toList := by
  rw [readPeriod, flaw?, FieldSetting.cause?]
  split <;> rfl

private theorem flawOf_readSocketAddress (name text : String) :
    flawOf (readSocketAddress name text) = (flaw? ⟨name, .socketAddress text⟩).toList := by
  rw [readSocketAddress, flaw?, FieldSetting.cause?]
  cases Text.SocketAddress.ofText? text.toList <;> rfl

private theorem flaw?_path (name text : String) :
    (flaw? ⟨name, .path text⟩).toList =
      if (Text.trim text.toList).isEmpty then [⟨name, .empty⟩] else [] := by
  by_cases empty : Text.trim text.toList = [] <;> simp [flaw?, FieldSetting.cause?, empty]

private theorem flaw?_key (name text : String) :
    (flaw? ⟨name, .key text⟩).toList = if text.isEmpty then [⟨name, .empty⟩] else [] := by
  by_cases empty : text = "" <;> simp [flaw?, FieldSetting.cause?, empty]

@[simp] theorem filterMap_flaw?_cons (field : CheckedField) (fields : List CheckedField) :
    (field :: fields).filterMap flaw? = field.flaw?.toList ++ fields.filterMap flaw? := by
  rw [List.filterMap_cons]
  cases field.flaw? <;> rfl

private theorem filterMap_flaw?_listed {Item : Type} (name : String)
    (fields : Item → List CheckedField) (items : List Item) :
    (listed name fields items).filterMap flaw? = items.zipIdx.flatMap fun item =>
      (under (indexed name item.2) (fields item.1)).filterMap flaw? :=
  List.filterMap_flatMap

private theorem filterMap_flaw?_principals (name : String) (texts : List String) :
    (listed name principalFields texts).filterMap flaw? = flawsOfPrincipals name texts := by
  rw [filterMap_flaw?_listed, flawsOfPrincipals]
  simp [principalFields, under, flawOf_readPrincipal]

theorem LimitSettings.filterMap_flaw?_fields (name : String) (settings : LimitSettings) :
    (under name settings.fields).filterMap flaw? = settings.flaws name := by
  simp [fields, under, flaws, flawOf_readPositive, flawOf_readPeriod]

theorem AssetSettings.filterMap_flaw?_fields (items : List AssetSettings) :
    (listed "limits.assets" AssetSettings.fields items).filterMap flaw? =
      items.zipIdx.flatMap Configuration.assetFlaws := by
  rw [filterMap_flaw?_listed]
  refine congrArg (List.flatMap · items.zipIdx) (funext fun item => ?_)
  rw [Configuration.assetFlaws, flawOf_readPrincipal, ← LimitSettings.filterMap_flaw?_fields]
  exact filterMap_flaw?_cons _ _

theorem ExemptionSettings.filterMap_flaw?_fields (items : List ExemptionSettings) :
    (listed "limits.exemptions" ExemptionSettings.fields items).filterMap flaw? =
      items.zipIdx.flatMap Configuration.exemptionFlaws := by
  rw [filterMap_flaw?_listed]
  refine congrArg (List.flatMap · items.zipIdx) (funext fun item => ?_)
  simp [fields, under, Configuration.exemptionFlaws, flawOf_readPrincipal]

namespace Configuration

private theorem filterMap_flaw?_persistence (settings : PersistenceSection) :
    settings.fields.filterMap flaw? = persistenceFlaws settings := by
  rw [PersistenceSection.fields, persistenceFlaws]
  cases settings.enabled <;> simp [flaw?_path]

private theorem filterMap_flaw?_admin (settings : AdminSection) :
    settings.fields.filterMap flaw? = adminFlaws settings := by
  rw [AdminSection.fields, adminFlaws, flawOf_readPrincipal, flawOf_readSocketAddress]
  split <;> simp [flaw?_key]

private theorem filterMap_flaw?_observability (settings : ObservabilitySection) :
    settings.fields.filterMap flaw? = observabilityFlaws settings := by
  rw [ObservabilitySection.fields, observabilityFlaws, flawOf_readSocketAddress]
  split <;> simp

/-- What is reported is what is wrong with the fields. -/
theorem filterMap_flaw?_fields (configuration : Configuration) :
    configuration.fields.filterMap flaw? = configuration.flaws := by
  simp [fields, groups, flaws, IdentitySection.fields, flawOf_readPrincipal,
    filterMap_flaw?_principals, LimitSettings.filterMap_flaw?_fields,
    AssetSettings.filterMap_flaw?_fields, ExemptionSettings.filterMap_flaw?_fields,
    filterMap_flaw?_persistence, filterMap_flaw?_admin, filterMap_flaw?_observability]

end Configuration

/-! ## Names -/

namespace Text

private theorem decimal_injective : Function.Injective decimal := by
  intro left right same
  have digits : Nat.toDigits 10 left = Nat.toDigits 10 right := String.ofList_injective same
  have number := ofDigits_toDigits (by decide : 1 < 10) (by decide) left
  rw [digits, ofDigits_toDigits (by decide) (by decide)] at number
  exact (Option.some.inj number).symm

end Text

private theorem toList_indexed (name : String) (index : Nat) (part : String) :
    (indexed name index ++ part).toList =
      name.toList ++ '[' :: ((Text.decimal index).toList ++ ']' :: part.toList) := by
  simp [indexed]

/-- A place in a list and what is named under it are read off their name. -/
private theorem indexed_inj {name part other : String} {index position : Nat}
    (same : indexed name index ++ part = indexed name position ++ other) :
    index = position ∧ part = other := by
  have texts := congrArg String.toList same
  rw [toList_indexed, toList_indexed] at texts
  have digits {number : Nat} {rest : List Char} :
      ((Text.decimal number).toList ++ ']' :: rest).takeWhile Char.isDigit =
        (Text.decimal number).toList := by
    rw [List.takeWhile_append_of_pos fun _ => Text.isDigit_of_mem_decimal]
    simp
  have behind := (List.cons.inj (List.append_cancel_left texts)).2
  have numbers := congrArg (List.takeWhile Char.isDigit) behind
  rw [digits, digits] at numbers
  have position := Text.decimal_injective (String.toList_injective numbers)
  rw [position] at behind
  exact ⟨position, String.toList_injective (List.cons.inj (List.append_cancel_left behind)).2⟩

/-- What a name starts with, in front of the first bracket. -/
def stem (name : String) : String :=
  String.ofList (name.toList.takeWhile (· ≠ '['))

private theorem stem_indexed {name : String} (plain : '[' ∉ name.toList) (index : Nat)
    (part : String) : stem (indexed name index ++ part) = name := by
  have whole : ∀ char ∈ name.toList, decide (char ≠ '[') = true := fun _ member =>
    decide_eq_true fun bracket => plain (bracket ▸ member)
  rw [stem, toList_indexed, List.takeWhile_append_of_pos whole]
  simp

/-- The names are all different, and each starts in one of some ways. -/
structure Distinct (names stems : List String) : Prop where
  nodup : names.Nodup
  stems : ∀ name ∈ names, stem name ∈ stems

namespace Distinct

variable {names more stems others : List String}

theorem nil : Distinct [] stems :=
  ⟨List.nodup_nil, nofun⟩

theorem append (first : Distinct names stems) (second : Distinct more others)
    (apart : ∀ start ∈ stems, start ∉ others) : Distinct (names ++ more) (stems ++ others) where
  nodup := first.nodup.append second.nodup <| List.disjoint_left.mpr fun name left right =>
    apart _ (first.stems name left) (second.stems name right)
  stems name member := by
    rcases List.mem_append.mp member with member | member
    · exact List.mem_append_left _ (first.stems name member)
    · exact List.mem_append_right _ (second.stems name member)

/-- Groups of names that start in different ways have no name in common. -/
theorem flatten {groups starts : List (List String)} (each : List.Forall₂ Distinct groups starts)
    (apart : starts.Pairwise fun left right => ∀ start ∈ left, start ∉ right) :
    Distinct groups.flatten starts.flatten := by
  induction each with
  | nil => exact .nil
  | cons first _ rest =>
      rcases List.pairwise_cons.mp apart with ⟨fromFirst, apart⟩
      refine first.append (rest apart) fun start member found => ?_
      rcases List.mem_flatten.mp found with ⟨others, among, found⟩
      exact fromFirst others among start member found

private theorem map_under (name : String) (fields : List CheckedField) :
    (under name fields).map CheckedField.name =
      (fields.map CheckedField.name).map (name ++ ·) := by
  simp [under]

/-- The fields of items differ in their names if those of one item do. -/
theorem listed {Item : Type} {name : String} {fields : Item → List CheckedField}
    (parts : List String) (own : ∀ item, (fields item).map CheckedField.name = parts)
    (plain : '[' ∉ name.toList) (different : parts.Nodup) (items : List Item) :
    Distinct ((listed name fields items).map CheckedField.name) [name] where
  nodup := by
    rw [CheckedField.listed, List.map_flatMap, List.nodup_flatMap]
    refine ⟨fun item _ => ?within, ?across⟩
    case within =>
      rw [map_under, own]
      exact different.map fun _ _ same => (indexed_inj same).2
    case across =>
      have places := List.pairwise_map.mp (List.nodup_zipIdx_map_snd items)
      refine places.imp fun {left right} apart => ?_
      simp only [Function.onFun, map_under]
      refine List.disjoint_left.mpr fun full first second => apart ?_
      rcases List.mem_map.mp first with ⟨part, _, rfl⟩
      rcases List.mem_map.mp second with ⟨other, _, same⟩
      exact (indexed_inj same).1.symm
  stems full member := by
    rcases List.mem_map.mp member with ⟨field, among, rfl⟩
    rcases List.mem_flatMap.mp among with ⟨item, _, within⟩
    rcases List.mem_map.mp within with ⟨part, _, rfl⟩
    exact List.mem_singleton.mpr (stem_indexed plain item.2 part.name)

end Distinct

namespace Configuration

private theorem distinct_service (settings : IdentitySection) :
    Distinct (settings.fields.map CheckedField.name) ["service.identity", "service.admin"] := by
  change Distinct ["service.identity", "service.admin"] _
  exact ⟨by decide, by decide⟩

private theorem distinct_fallback (settings : LimitSettings) :
    Distinct ((under "limits.fallback" settings.fields).map CheckedField.name)
      ["limits.fallback.max_transfer_amount", "limits.fallback.period_limit",
        "limits.fallback.period_duration_secs"] := by
  rw [Distinct.map_under]
  change Distinct ([".max_transfer_amount", ".period_limit", ".period_duration_secs"].map _) _
  exact ⟨by decide, by decide⟩

private theorem distinct_persistence (settings : PersistenceSection) :
    Distinct (settings.fields.map CheckedField.name) ["persistence.snapshot_path"] := by
  rw [PersistenceSection.fields]
  split
  · change Distinct ["persistence.snapshot_path"] _
    exact ⟨by decide, by decide⟩
  · exact .nil

private theorem distinct_admin (settings : AdminSection) :
    Distinct (settings.fields.map CheckedField.name)
      ["admin.operator", "admin.bind_address", "admin.api_key"] := by
  rw [AdminSection.fields]
  split
  · change Distinct ["admin.operator", "admin.bind_address", "admin.api_key"] _
    exact ⟨by decide, by decide⟩
  · exact .nil

private theorem distinct_observability (settings : ObservabilitySection) :
    Distinct (settings.fields.map CheckedField.name) ["observability.metrics_address"] := by
  rw [ObservabilitySection.fields]
  split
  · change Distinct ["observability.metrics_address"] _
    exact ⟨by decide, by decide⟩
  · exact .nil

/-- No two fields have one name. -/
theorem nodup_names (configuration : Configuration) :
    (configuration.fields.map CheckedField.name).Nodup := by
  have principals (name : String) (plain : '[' ∉ name.toList) (texts : List String) :
      Distinct ((listed name principalFields texts).map CheckedField.name) [name] :=
    .listed [""] (fun _ => rfl) plain (by decide) texts
  have minters := principals "gate.minters" (by decide) configuration.gate.minters
  have members := principals "whitelist.members" (by decide) configuration.whitelist.members
  have whitelisters :=
    principals "whitelist.whitelisters" (by decide) configuration.whitelist.whitelisters
  have managers := principals "limits.managers" (by decide) configuration.limits.managers
  have assets : Distinct ((listed "limits.assets" AssetSettings.fields
      configuration.limits.assets).map CheckedField.name) ["limits.assets"] :=
    .listed [".asset", ".max_transfer_amount", ".period_limit", ".period_duration_secs"]
      (fun _ => rfl) (by decide) (by decide) _
  have exemptions : Distinct ((listed "limits.exemptions" ExemptionSettings.fields
      configuration.limits.exemptions).map CheckedField.name) ["limits.exemptions"] :=
    .listed [".asset", ".account"] (fun _ => rfl) (by decide) (by decide) _
  rw [fields, List.map_flatten]
  exact (Distinct.flatten (.cons (distinct_service _) <| .cons minters <| .cons members <|
    .cons whitelisters <| .cons managers <| .cons (distinct_fallback _) <| .cons assets <|
    .cons exemptions <| .cons (distinct_persistence _) <| .cons (distinct_admin _) <|
    .cons (distinct_observability _) .nil) (by decide)).nodup

end Configuration

end Turnstile
