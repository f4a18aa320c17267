import Turnstile.Amount
import Turnstile.Clock
import Turnstile.Role

namespace Turnstile

/-! Why an operation is refused. A refusal is final for the call that met it:
nothing is tried again behind the caller's back. -/

/-- An argument that no state could make acceptable. -/
inductive Misuse where
  /-- A role or a recovery was aimed at the null identity. -/
  | zeroAddress
  /-- A cap or quota of zero would lock an account out for good. -/
  | amountTooSmall
  /-- Two parallel lists of a batch differ in length. -/
  | lengthMismatch (left right : Nat)
  /-- An accounting window without duration. -/
  | zeroPeriod
  /-- A recovery to the gate's own account. -/
  | selfRecovery
deriving DecidableEq

inductive Refusal where
  | unauthorized (role : Role) (caller : Address)
  | invalidArgument (misuse : Misuse)
  | notWhitelisted (account : Address)
  | limitExceeded (amount cap : Amount)
  | cooldownNotElapsed (nextAllowedAt : Seconds)
  | exceedsPeriodLimit (requested periodTotal periodLimit : Amount)
  | paused
  | insufficientBalance (account : Address) (balance required : Amount)
  /-- Crediting the amount would push a balance or the asset's supply past the
  largest amount. -/
  | supplyOverflow (asset : Address) (amount : Amount)
deriving DecidableEq

instance : Inhabited Refusal := ⟨.paused⟩

def Amount.toDecimal (amount : Amount) : String :=
  Text.decimal amount.toNat

def Seconds.toDecimal (seconds : Seconds) : String :=
  Text.decimal seconds.toNat

def Misuse.message : Misuse → String
  | .zeroAddress => "zero address is not a valid principal"
  | .amountTooSmall => "amount must be greater than zero"
  | .lengthMismatch left right =>
      "array length mismatch: " ++ Text.decimal left ++ " != " ++ Text.decimal right
  | .zeroPeriod => "period duration must be greater than zero"
  | .selfRecovery => "cannot recover tokens to the gate itself"

namespace Refusal

def message : Refusal → String
  | .unauthorized role caller => caller.toChecksummed ++ " lacks role " ++ role.title
  | .invalidArgument misuse => "invalid argument: " ++ misuse.message
  | .notWhitelisted account => account.toChecksummed ++ " is not whitelisted"
  | .limitExceeded amount cap =>
      "amount " ++ amount.toDecimal ++ " exceeds single-transfer cap " ++ cap.toDecimal
  | .cooldownNotElapsed nextAllowedAt =>
      "cooldown not elapsed, next transfer allowed at " ++ nextAllowedAt.toDecimal
  | .exceedsPeriodLimit requested periodTotal periodLimit =>
      "period limit exceeded: " ++ periodTotal.toDecimal ++ " + " ++ requested.toDecimal ++
        " > " ++ periodLimit.toDecimal
  | .paused => "ledger is paused"
  | .insufficientBalance account balance required =>
      "insufficient balance for " ++ account.toChecksummed ++ ": have " ++
        balance.toDecimal ++ ", need " ++ required.toDecimal
  | .supplyOverflow asset amount =>
      "crediting " ++ amount.toDecimal ++ " of " ++ asset.toChecksummed ++ " would overflow"

/-- The stable label of a kind of refusal. -/
def reason : Refusal → String
  | .unauthorized .. => "unauthorized"
  | .invalidArgument _ => "invalid_argument"
  | .notWhitelisted _ => "not_whitelisted"
  | .limitExceeded .. => "limit_exceeded"
  | .cooldownNotElapsed _ => "cooldown_not_elapsed"
  | .exceedsPeriodLimit .. => "exceeds_period_limit"
  | .paused => "paused"
  | .insufficientBalance .. => "insufficient_balance"
  | .supplyOverflow .. => "supply_overflow"

end Refusal

end Turnstile
