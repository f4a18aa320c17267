import Turnstile.Amount.Written
import Turnstile.Configuration
import Turnstile.Text.SocketAddress

namespace Turnstile

/-! What can be wrong with a configuration whose shape is right. Every field is looked
at, and every flaw is named by its field. -/

inductive Flaw.Cause where
  | invalidAddress (value : String)
  | zeroAddress
  | invalidAmount (value : String)
  /-- An amount or a duration of zero. -/
  | zero
  | invalidSocketAddress (value : String)
  | empty
deriving DecidableEq

structure Flaw where
  field : String
  cause : Flaw.Cause
deriving DecidableEq

def Flaw.Cause.message : Flaw.Cause → String
  | .invalidAddress value => "invalid address '" ++ value ++ "'"
  | .zeroAddress => "zero address not allowed"
  | .invalidAmount value => "invalid amount '" ++ value ++ "'"
  | .zero => "must be greater than zero"
  | .invalidSocketAddress value => "invalid socket address '" ++ value ++ "'"
  | .empty => "must not be empty"

def Flaw.message (flaw : Flaw) : String :=
  flaw.field ++ ": " ++ flaw.cause.message

def Flaw.joinMessages (separator : String) (flaws : List Flaw) : String :=
  separator.intercalate (flaws.map Flaw.message)

/-! ## Single fields

White space around a value does no harm. An address that cannot be read is quoted with
it, an amount without. -/

def readAddress (field value : String) : Except Flaw Address :=
  match Address.ofText? (Text.trim value.toList) with
  | some address => .ok address
  | none => .error ⟨field, .invalidAddress value⟩

/-- An address other than the null identity. -/
def readPrincipal (field value : String) : Except Flaw Address := do
  let address ← readAddress field value
  if address = .zero then .error ⟨field, .zeroAddress⟩ else return address

def readAmount (field value : String) : Except Flaw Amount :=
  let bare := Text.trim value.toList
  match Amount.ofSetting? bare with
  | some amount => .ok amount
  | none => .error ⟨field, .invalidAmount (String.ofList bare)⟩

def readSocketAddress (field value : String) : Except Flaw Text.SocketAddress :=
  match Text.SocketAddress.ofText? value.toList with
  | some address => .ok address
  | none => .error ⟨field, .invalidSocketAddress value⟩

def readPositive (field value : String) : Except Flaw Amount := do
  let amount ← readAmount field value
  if amount = .zero then .error ⟨field, .zero⟩ else return amount

def readPeriod (field : String) (period : Seconds) : Except Flaw Seconds :=
  if period = 0 then .error ⟨field, .zero⟩ else .ok period

/-! ## Lists of flaws -/

def flawOf {Item : Type} : Except Flaw Item → List Flaw
  | .ok _ => []
  | .error flaw => [flaw]

/-- The name of an item of a list. -/
def indexed (field : String) (index : Nat) : String :=
  field ++ "[" ++ Text.decimal index ++ "]"

def flawsOfPrincipals (field : String) (values : List String) : List Flaw :=
  values.zipIdx.flatMap fun item => flawOf (readPrincipal (indexed field item.2) item.1)

namespace LimitSettings

def flaws (field : String) (settings : LimitSettings) : List Flaw :=
  flawOf (readPositive (field ++ ".max_transfer_amount") settings.cap) ++
  flawOf (readPositive (field ++ ".period_limit") settings.quota) ++
  flawOf (readPeriod (field ++ ".period_duration_secs") settings.period)

/-- The limits that the settings describe, or all that is wrong with them. -/
def resolve (field : String) (settings : LimitSettings) : Except (List Flaw) Limits :=
  match readPositive (field ++ ".max_transfer_amount") settings.cap,
      readPositive (field ++ ".period_limit") settings.quota,
      readPeriod (field ++ ".period_duration_secs") settings.period with
  | .ok cap, .ok quota, .ok period => .ok { cap, cooldown := settings.cooldown, quota, period }
  | _, _, _ => .error (settings.flaws field)

/-- The settings that describe given limits. -/
def ofLimits (limits : Limits) : LimitSettings where
  cap := limits.cap.toSetting
  cooldown := limits.cooldown
  quota := limits.quota.toSetting
  period := limits.period

end LimitSettings

namespace Configuration

def assetFlaws (entry : AssetSettings × Nat) : List Flaw :=
  let field := indexed "limits.assets" entry.2
  flawOf (readPrincipal (field ++ ".asset") entry.1.asset) ++ entry.1.limits.flaws field

def exemptionFlaws (entry : ExemptionSettings × Nat) : List Flaw :=
  let field := indexed "limits.exemptions" entry.2
  flawOf (readPrincipal (field ++ ".asset") entry.1.asset) ++
  flawOf (readPrincipal (field ++ ".account") entry.1.account)

def persistenceFlaws (settings : PersistenceSection) : List Flaw :=
  if settings.enabled && (Text.trim settings.path.toList).isEmpty then
    [⟨"persistence.snapshot_path", .empty⟩]
  else []

def adminFlaws (settings : AdminSection) : List Flaw :=
  if settings.enabled then
    flawOf (readPrincipal "admin.operator" settings.operator) ++
    flawOf (readSocketAddress "admin.bind_address" settings.bindAddress) ++
    (if settings.apiKey.isEmpty then [⟨"admin.api_key", .empty⟩] else [])
  else []

def observabilityFlaws (settings : ObservabilitySection) : List Flaw :=
  if settings.metricsEnabled then
    flawOf (readSocketAddress "observability.metrics_address" settings.metricsAddress)
  else []

/-- All flaws of a configuration. A section that is switched off has none. -/
def flaws (configuration : Configuration) : List Flaw :=
  flawOf (readPrincipal "service.identity" configuration.service.identity) ++
  flawOf (readPrincipal "service.admin" configuration.service.admin) ++
  flawsOfPrincipals "gate.minters" configuration.gate.minters ++
  flawsOfPrincipals "whitelist.members" configuration.whitelist.members ++
  flawsOfPrincipals "whitelist.whitelisters" configuration.whitelist.whitelisters ++
  flawsOfPrincipals "limits.managers" configuration.limits.managers ++
  configuration.limits.fallback.flaws "limits.fallback" ++
  configuration.limits.assets.zipIdx.flatMap assetFlaws ++
  configuration.limits.exemptions.zipIdx.flatMap exemptionFlaws ++
  persistenceFlaws configuration.persistence ++
  adminFlaws configuration.admin ++
  observabilityFlaws configuration.observability

def validate (configuration : Configuration) : Except (List Flaw) Unit :=
  match configuration.flaws with
  | [] => .ok ()
  | flaws => .error flaws

end Configuration

end Turnstile
