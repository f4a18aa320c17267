import Turnstile.Proofs.Authority
import Turnstile.Proofs.Checkpoint.Request
import Turnstile.Proofs.Seeds

namespace Turnstile

/-! What a configuration declares: the one state of a gate and its collaborators in which a
service begins that has no snapshot. Texts stand for accounts and amounts, lists may come in
any order and may repeat entries, and of several entries for one asset the last counts. How
the state is brought about is of no concern here. -/

/-! ## Texts -/

/-- The account that a text names. None names the null identity. -/
def Address.principal? (text : String) : Option Address :=
  (ofText? (Text.trim text.toList)).filter fun address => address ≠ zero

/-- The amount that a text stands for, if there is anything to it. -/
def Amount.positive? (text : String) : Option Amount :=
  (ofSetting? (Text.trim text.toList)).filter fun amount => amount ≠ zero

/-- The limits that settings describe, if they leave room. -/
def LimitSettings.limits? (settings : LimitSettings) : Option Limits := do
  let cap ← Amount.positive? settings.cap
  let quota ← Amount.positive? settings.quota
  if settings.period = 0 then none
  else return { cap, cooldown := settings.cooldown, quota, period := settings.period }

def AssetSettings.defaults? (settings : AssetSettings) : Option (Address × Limits) := do
  return (← Address.principal? settings.asset, ← settings.limits.limits?)

def ExemptionSettings.position? (settings : ExemptionSettings) : Option Position := do
  return ⟨← Address.principal? settings.asset, ← Address.principal? settings.account⟩

/-- One of the texts names the account. -/
def Address.Named (texts : List String) (account : Address) : Prop :=
  ∃ text ∈ texts, principal? text = some account

instance (texts : List String) (account : Address) : Decidable (account.Named texts) :=
  inferInstanceAs (Decidable (∃ text ∈ texts, Address.principal? text = some account))

theorem Address.ne_zero_of_principal? {text : String} {account : Address}
    (named : principal? text = some account) : account ≠ zero := by
  have proper := (Option.filter_eq_some_iff.mp named).2
  exact of_decide_eq_true proper

theorem LimitSettings.valid_of_limits? {settings : LimitSettings} {limits : Limits}
    (described : settings.limits? = some limits) : limits.Valid := by
  rcases Option.bind_eq_some_iff.mp described with ⟨cap, readCap, described⟩
  rcases Option.bind_eq_some_iff.mp described with ⟨quota, readQuota, described⟩
  split at described
  next => cases described
  next lasting =>
      cases described
      have someCap := (Option.filter_eq_some_iff.mp readCap).2
      have someQuota := (Option.filter_eq_some_iff.mp readQuota).2
      exact ⟨of_decide_eq_true someCap, of_decide_eq_true someQuota, lasting⟩

/-! ## Declared states -/

/-- The switches of a new gate: their checks were set once, and then it may have been
paused. -/
def GateSection.switches (settings : GateSection) : Switches where
  paused := settings.paused
  whitelistChecks := settings.whitelistChecks
  limitChecks := settings.limitChecks
  version := if settings.paused then 2 else 1

/-- The limits in the last entry for an asset. -/
def LimitsSection.defaultsOf? (settings : LimitsSection) (asset : Address) : Option Limits :=
  let entry := settings.assets.reverse.find? fun entry =>
    Address.principal? entry.asset = some asset
  entry.bind fun entry => entry.limits.limits?

def LimitsSection.Exempts (settings : LimitsSection) (position : Position) : Prop :=
  ∃ entry ∈ settings.exemptions, entry.position? = some position

instance (settings : LimitsSection) (position : Position) :
    Decidable (settings.Exempts position) :=
  inferInstanceAs (Decidable (∃ entry ∈ settings.exemptions, entry.position? = some position))

/-- The standing of an account that was exempted and that nothing else has touched. -/
def Standing.exempted : Standing :=
  { fresh with exempt := true }

namespace Configuration

/-- Who holds which role in which component. To write members takes a grant, which the
administrator has if there are any. -/
def Grants (configuration : Configuration) : Component → Role → Address → Prop
  | _, .admin, account => Address.principal? configuration.service.admin = some account
  | .whitelist, .whitelister, account =>
      account.Named configuration.whitelist.whitelisters ∨
        configuration.whitelist.members ≠ [] ∧
          Address.principal? configuration.service.admin = some account
  | .limiter, .caller, account =>
      Address.principal? configuration.service.identity = some account
  | .limiter, .limitManager, account => account.Named configuration.limits.managers
  | .gate, .minter, account => account.Named configuration.gate.minters
  | _, _, _ => False

/-- Everything in the state is as the configuration has it. -/
structure Declares (configuration : Configuration) (checkpoint : Checkpoint) : Prop where
  identity : Address.principal? configuration.service.identity = some checkpoint.gate.identity
  grants : ∀ component role account,
    (checkpoint.authority component).holds role account = true ↔
      configuration.Grants component role account
  members : ∀ account, checkpoint.whitelist.isMember account = true ↔
    account.Named configuration.whitelist.members
  enabled : checkpoint.whitelist.enabled = configuration.whitelist.enabled
  fallback : configuration.limits.fallback.limits? = some checkpoint.limiter.fallback
  /-- An asset without an entry has no defaults of its own and uses the fallback. -/
  defaults : ∀ asset,
    checkpoint.limiter.defaults.get? asset = configuration.limits.defaultsOf? asset
  /-- There are records of exemptions and no others. -/
  standings : ∀ position, checkpoint.limiter.standing? position =
    if configuration.limits.Exempts position then some .exempted else none
  switches : checkpoint.gate.switches = configuration.gate.switches
  ledger : checkpoint.gate.ledger = .empty

end Configuration

namespace Configuration.Declares

variable {configuration : Configuration} {left right : Checkpoint}

private theorem sameAuthority (first : configuration.Declares left)
    (second : configuration.Declares right) (component : Component) :
    left.authority component = right.authority component := by
  refine Authority.ext_holds fun role account => ?_
  rw [Bool.eq_iff_iff, first.grants, second.grants]

private theorem sameWhitelist (first : configuration.Declares left)
    (second : configuration.Declares right) : left.whitelist = right.whitelist := by
  have enabled := first.enabled.trans second.enabled.symm
  have authority := first.sameAuthority second .whitelist
  have members : left.whitelist.members = right.whitelist.members := by
    refine KeySet.ext_contains fun account => ?_
    rw [Bool.eq_iff_iff]
    exact (first.members account).trans (second.members account).symm
  exact Whitelist.mk.injEq .. |>.mpr ⟨enabled, members, authority⟩

private theorem sameLimiter (first : configuration.Declares left)
    (second : configuration.Declares right) : left.limiter = right.limiter := by
  have fallback := Option.some.inj (first.fallback.symm.trans second.fallback)
  have authority := first.sameAuthority second .limiter
  have defaults : left.limiter.defaults = right.limiter.defaults :=
    Table.ext_get? fun asset => (first.defaults asset).trans (second.defaults asset).symm
  have standings : left.limiter.standings = right.limiter.standings :=
    Table.ext_get? fun position =>
      (first.standings position).trans (second.standings position).symm
  exact Limiter.mk.injEq .. |>.mpr ⟨fallback, defaults, standings, authority⟩

private theorem sameGate (first : configuration.Declares left)
    (second : configuration.Declares right) : left.gate = right.gate := by
  have identity := Option.some.inj (first.identity.symm.trans second.identity)
  have authority := first.sameAuthority second .gate
  have switches := first.switches.trans second.switches.symm
  have ledger := first.ledger.trans second.ledger.symm
  exact Gate.mk.injEq .. |>.mpr ⟨identity, switches, ledger, authority⟩

/-- A configuration declares one state at most. -/
theorem unique (first : configuration.Declares left) (second : configuration.Declares right) :
    left = right :=
  Checkpoint.mk.injEq .. |>.mpr
    ⟨first.sameGate second, first.sameWhitelist second, first.sameLimiter second⟩

end Configuration.Declares

/-! ## Reading

What is read in a field is what its text stands for. Only the flaws name the field. -/

private theorem toOption_bind {First Result Fault : Type} (first : Except Fault First)
    (next : First → Except Fault Result) :
    (first >>= next).toOption = first.toOption.bind fun value => (next value).toOption := by
  cases first <;> rfl

private theorem Seeds.toOption_alone {Item : Type} (read : Except Flaw Item) :
    (alone read).toOption = read.toOption := by
  cases read <;> rfl

/-- Reading fails at one value that is not admissible. -/
private theorem toOption_excluding {Item : Type} [DecidableEq Item] (read : Except Flaw Item)
    (excluded : Item) (flaw : Flaw) :
    (read >>= fun item => if item = excluded then .error flaw else pure item).toOption =
      read.toOption.filter fun item => item ≠ excluded := by
  cases read with
  | error _ => rfl
  | ok item =>
      by_cases same : item = excluded <;>
        simp [bind, Except.bind, pure, Except.pure, Except.toOption, Option.filter, same]

private theorem toOption_readPrincipal (field text : String) :
    (readPrincipal field text).toOption = Address.principal? text := by
  rw [readPrincipal, toOption_excluding, readAddress, Address.principal?]
  cases Address.ofText? (Text.trim text.toList) <;> rfl

private theorem toOption_readPositive (field text : String) :
    (readPositive field text).toOption = Amount.positive? text := by
  rw [readPositive, toOption_excluding, readAmount, Amount.positive?]
  cases Amount.ofSetting? (Text.trim text.toList) <;> rfl

theorem LimitSettings.toOption_resolve (settings : LimitSettings) (field : String) :
    (settings.resolve field).toOption = settings.limits? := by
  rw [limits?, ← toOption_readPositive (field ++ ".max_transfer_amount"),
    ← toOption_readPositive (field ++ ".period_limit"), resolve, readPeriod]
  cases readPositive (field ++ ".max_transfer_amount") settings.cap <;>
    cases readPositive (field ++ ".period_limit") settings.quota <;>
    by_cases lasting : settings.period = 0 <;> simp [lasting, Except.toOption]

theorem principal?_of_readPrincipal {field text : String} {account : Address}
    (read : readPrincipal field text = .ok account) :
    Address.principal? text = some account := by
  rw [← toOption_readPrincipal field, read]
  rfl

theorem LimitSettings.limits?_of_resolve {settings : LimitSettings} {field : String}
    {limits : Limits} (read : settings.resolve field = .ok limits) :
    settings.limits? = some limits := by
  rw [← settings.toOption_resolve field, read]
  rfl

/-- Numbers beside the items change nothing for what does not look at them. -/
theorem map_eq_map_zipIdx {Item Result : Type} (meaning : Item → Result) (items : List Item) :
    items.map meaning = items.zipIdx.map fun item => meaning item.1 := by
  conv_lhs => rw [← List.zipIdx_map_fst 0 items, List.map_map]
  rfl

/-- A list is read item by item. -/
private theorem map_of_mapM {Item Result Fault : Type} {read : Item × Nat → Except Fault Result}
    {meaning? : Item → Option Result} (reads : ∀ item, (read item).toOption = meaning? item.1)
    {items : List Item} {results : List Result} (done : items.zipIdx.mapM read = .ok results) :
    items.map meaning? = results.map some := by
  rw [map_eq_map_zipIdx]
  generalize items.zipIdx = numbered at done ⊢
  induction numbered generalizing results with
  | nil =>
      cases done
      rfl
  | cons item rest induction =>
      rw [List.mapM_cons] at done
      rcases exists_of_bind_eq_ok done with ⟨first, here, done⟩
      rcases exists_of_bind_eq_ok done with ⟨others, later, done⟩
      cases done
      rw [List.map_cons, List.map_cons, induction later, ← reads, here]
      rfl

private theorem mem_iff_of_map {Item Result : Type} {meaning? : Item → Option Result}
    {items : List Item} {results : List Result} (meant : items.map meaning? = results.map some)
    {result : Result} : result ∈ results ↔ ∃ item ∈ items, meaning? item = some result := by
  rw [← List.mem_map, meant, List.mem_map_of_injective (Option.some_injective Result)]

namespace Seeds

section Principals

variable {field : String} {texts : List String} {accounts : List Address}

private theorem map_of_readPrincipals (read : readPrincipals field texts = .ok accounts) :
    texts.map Address.principal? = accounts.map some := by
  refine map_of_mapM (fun item => ?_) read
  rw [toOption_alone, toOption_readPrincipal]

theorem mem_readPrincipals (read : readPrincipals field texts = .ok accounts)
    {account : Address} : account ∈ accounts ↔ account.Named texts :=
  mem_iff_of_map (map_of_readPrincipals read)

theorem ne_zero_of_mem_readPrincipals (read : readPrincipals field texts = .ok accounts) :
    ∀ account ∈ accounts, account ≠ .zero := by
  intro account member
  rcases (mem_readPrincipals read).mp member with ⟨text, _, named⟩
  exact Address.ne_zero_of_principal? named

theorem readPrincipals_eq_nil_iff (read : readPrincipals field texts = .ok accounts) :
    accounts = [] ↔ texts = [] := by
  rw [← List.map_eq_nil_iff, ← map_of_readPrincipals read, List.map_eq_nil_iff]

end Principals

private theorem toOption_readExemption (entry : ExemptionSettings × Nat) :
    (readExemption entry).toOption = entry.1.position? := by
  simp only [readExemption, toOption_bind, toOption_alone, toOption_readPrincipal]
  rfl

private theorem toOption_readDefault (entry : AssetSettings × Nat) :
    (readDefault entry).toOption = entry.1.defaults? := by
  simp only [readDefault, toOption_bind, toOption_alone, toOption_readPrincipal,
    LimitSettings.toOption_resolve]
  rfl

theorem mem_readExemptions {settings : LimitsSection} {exemptions : List Position}
    (read : settings.exemptions.zipIdx.mapM readExemption = .ok exemptions)
    {position : Position} : position ∈ exemptions ↔ settings.Exempts position :=
  mem_iff_of_map (map_of_mapM toOption_readExemption read)

/-- What is found for an asset is what its first entry describes. -/
private theorem lookupRank_of_map {entries : List AssetSettings}
    {defaults : List (Address × Limits)}
    (meant : entries.map AssetSettings.defaults? = defaults.map some) (asset : Address) :
    lookupRank (rank asset) defaults =
      (entries.find? fun entry => Address.principal? entry.asset = some asset).bind
        fun entry => entry.limits.limits? := by
  induction entries generalizing defaults with
  | nil =>
      cases List.map_eq_nil_iff.mp meant.symm
      rfl
  | cons entry rest induction =>
      cases defaults with
      | nil => cases meant
      | cons first others =>
          rcases List.cons.inj meant with ⟨here, later⟩
          rcases Option.bind_eq_some_iff.mp here with ⟨named, readAsset, here⟩
          rcases Option.bind_eq_some_iff.mp here with ⟨limits, readLimits, here⟩
          cases here
          simp only [lookupRank, List.find?_cons, readAsset, Option.some.injEq, rank_eq_iff,
            induction later]
          by_cases same : named = asset
          · simp only [same, decide_true, if_true, Option.bind_some, readLimits]
          · simp only [same, decide_false, if_false]

theorem valid_of_mem_readDefaults {settings : LimitsSection}
    {defaults : List (Address × Limits)}
    (read : settings.assets.zipIdx.mapM readDefault = .ok defaults) :
    ∀ entry ∈ defaults, entry.2.Valid := by
  intro entry member
  rcases (mem_iff_of_map (map_of_mapM toOption_readDefault read)).mp member with
    ⟨settings, _, described⟩
  rcases Option.bind_eq_some_iff.mp described with ⟨asset, _, described⟩
  rcases Option.bind_eq_some_iff.mp described with ⟨limits, readLimits, described⟩
  cases described
  exact LimitSettings.valid_of_limits? readLimits

theorem get?_readDefaults {settings : LimitsSection} {defaults : List (Address × Limits)}
    (read : settings.assets.zipIdx.mapM readDefault = .ok defaults) (asset : Address) :
    (Table.ofList defaults).get? asset = settings.defaultsOf? asset := by
  have meant := map_of_mapM toOption_readDefault read
  have reversed : settings.assets.reverse.map AssetSettings.defaults? =
      defaults.reverse.map some := by
    rw [List.map_reverse, List.map_reverse, meant]
  rw [Table.get?_ofList]
  exact lookupRank_of_map reversed asset

end Seeds

end Turnstile
