import Turnstile.Proofs.Checkpoint.Movement
import Turnstile.Proofs.Checkpoint.Request
import Turnstile.Proofs.Ledger.Isolation
import Turnstile.Proofs.Limiter.Isolation

namespace Turnstile

/-! Gates that count as the same, with their collaborators: equal in all but their books and
their limiters, and those the same on some assets. What is asked in these assets is answered
alike and keeps the gates the same. -/

/-! ## Assets -/

/-- The asset that a target is in. -/
def Limiter.Target.asset? : Limiter.Target → Option Address
  | .grants => none
  | .defaults asset | .exemptions asset _ => some asset
  | .standing position => some position.asset

def Gate.Command.asset? : Gate.Command → Option Address
  | .transfer asset .. | .transferFrom asset .. | .burn asset .. => some asset
  | .mint _ asset .. | .admitTransfer asset .. => some asset
  | .recordConsumption position _ => some position.asset
  | .recover _ asset .. | .deposit asset _ => some asset
  | .assignMinter .. | .setChecks .. | .setPaused .. => none
  | .replaceWhitelist .. | .replaceLimiter .. => none

theorem Movement.asset?_command (movement : Movement) :
    movement.command.asset? = some movement.posting.asset := by
  cases movement <;> rfl

namespace Checkpoint

def Command.asset? : Command → Option Address
  | .whitelist .. => none
  | .limiter _ command => command.target.asset?
  | .gate command => command.asset?

/-- The asset that a request names, if it names one. -/
def Request.asset? : Request → Option Address
  | .execute command => command.asset?
  | .regrant .. => none

end Checkpoint

private theorem Limiter.Target.within_ofAssets {target : Target} {assets : Address → Prop}
    (within : ∀ asset ∈ target.asset?, assets asset) : target.Within (.ofAssets assets) := by
  cases target with
  | grants | exemptions => trivial
  | defaults | standing => exact within _ rfl

namespace Checkpoint

/-! ## Gates that match -/

structure Matching (Books : Ledger → Ledger → Prop) (Limiters : Limiter → Limiter → Prop)
    (left right : Checkpoint) : Prop where
  identity : left.gate.identity = right.gate.identity
  switches : left.gate.switches = right.gate.switches
  authority : left.gate.authority = right.gate.authority
  ledger : Books left.gate.ledger right.gate.ledger
  whitelist : left.whitelist = right.whitelist
  limiter : Limiters left.limiter right.limiter

structure Congruence (assets : Address → Prop) (Books : Ledger → Ledger → Prop)
    (Limiters : Limiter → Limiter → Prop) : Prop where
  books : Ledger.Congruence assets Books
  limiters : Limiter.Congruence (.ofAssets assets) Limiters
  refl : ∀ limiter, Limiters limiter limiter

section Matching

variable {assets : Address → Prop} {Books : Ledger → Ledger → Prop}
  {Limiters : Limiter → Limiter → Prop} {left right : Checkpoint}

theorem Matching.checkAccess (same : Matching Books Limiters left right)
    (accounts : List Address) : left.checkAccess accounts = right.checkAccess accounts := by
  rw [Checkpoint.checkAccess, Checkpoint.checkAccess, same.switches, same.whitelist]

theorem Matching.withLedger (same : Matching Books Limiters left right)
    {first second : Ledger} (books : Books first second) :
    Matching Books Limiters (left.withLedger first) (right.withLedger second) :=
  ⟨same.identity, same.switches, same.authority, books, same.whitelist, same.limiter⟩

theorem Matching.withLimiter (same : Matching Books Limiters left right)
    {first second : Limiter} (limiters : Limiters first second) :
    Matching Books Limiters { left with limiter := first } { right with limiter := second } :=
  ⟨same.identity, same.switches, same.authority, same.ledger, same.whitelist, limiters⟩

theorem Matching.withWhitelist (same : Matching Books Limiters left right)
    (whitelist : Whitelist) :
    Matching Books Limiters { left with whitelist } { right with whitelist } :=
  ⟨same.identity, same.switches, same.authority, same.ledger, rfl, same.limiter⟩

theorem Matching.withSwitches (same : Matching Books Limiters left right)
    (switches : Switches) :
    Matching Books Limiters (left.withSwitches switches) (right.withSwitches switches) :=
  ⟨same.identity, rfl, same.authority, same.ledger, same.whitelist, same.limiter⟩

theorem Matching.withAuthority (same : Matching Books Limiters left right)
    (authority : Authority) :
    Matching Books Limiters { left with gate.authority := authority }
      { right with gate.authority := authority } :=
  ⟨same.identity, same.switches, rfl, same.ledger, same.whitelist, same.limiter⟩

/-! ## Parts of commands -/

private theorem related_limited (same : Matching Books Limiters left right)
    {act other : Limiter → Outcome Limiter}
    (acted : Outcome.Related Limiters (act left.limiter) (other right.limiter)) :
    Outcome.Related (Matching Books Limiters) (left.limited act) (right.limited other) := by
  rw [limited, limited, same.switches]
  split
  · exact acted.within fun first second limiters => same.withLimiter limiters
  · exact Outcome.related_accepted same ..

private theorem related_settle (same : Matching Books Limiters left right)
    {first second : Except Refusal Ledger} (written : Ledger.Written Books first second)
    (events : List Event) :
    Outcome.Related (Matching Books Limiters) (left.settle first events)
      (right.settle second events) := by
  cases written with
  | refused refusal => exact Outcome.related_refused same refusal
  | done books => exact Outcome.related_accepted (same.withLedger books) ..

private theorem related_asAdmin (same : Matching Books Limiters left right)
    {first second : Outcome Checkpoint}
    (related : Outcome.Related (Matching Books Limiters) first second) (caller : Address) :
    Outcome.Related (Matching Books Limiters) (left.asAdmin caller first)
      (right.asAdmin caller second) := by
  rw [asAdmin, asAdmin, same.authority]
  exact related.guarded same _

private theorem related_switches (same : Matching Books Limiters left right) (caller : Address)
    (change : Switches → Switches) (events : List Event) :
    Outcome.Related (Matching Books Limiters)
      (left.asAdmin caller (.accepted (left.withSwitches (change left.gate.switches)) events []))
      (right.asAdmin caller
        (.accepted (right.withSwitches (change right.gate.switches)) events [])) := by
  apply related_asAdmin same
  rw [same.switches]
  exact Outcome.related_accepted (same.withSwitches _) ..

private theorem related_assignMinter (same : Matching Books Limiters left right)
    (caller account : Address) (held : Bool) :
    Outcome.Related (Matching Books Limiters) (left.assignMinter caller account held)
      (right.assignMinter caller account held) := by
  rw [assignMinter, assignMinter, same.authority]
  exact Authority.related_reassign same _ same.withAuthority ..

end Matching

namespace Congruence

variable {assets : Address → Prop} {Books : Ledger → Ledger → Prop}
  {Limiters : Limiter → Limiter → Prop} {left right : Checkpoint}

private theorem related_decision (congruence : Congruence assets Books Limiters)
    (same : Matching Books Limiters left right) {charged : Position}
    (within : assets charged.asset) (now : Seconds) (operation : Operation)
    (accounts : List Address) (amount : Amount) (check : Except Refusal Unit) :
    Outcome.Related (Matching Books Limiters)
      (left.decision now operation charged accounts amount check)
      (right.decision now operation charged accounts amount check) := by
  have charges : Outcome.Related Limiters
      (left.limiter.charge now right.gate.identity charged amount)
      (right.limiter.charge now right.gate.identity charged amount) :=
    congruence.limiters.related_perform same.limiter now right.gate.identity
      (show (Limiter.Command.charge charged amount).target.Within _ from within)
  rw [decision, decision, same.checkAccess, same.identity]
  apply Outcome.Related.record
  apply Outcome.Related.guarded _ same
  apply Outcome.Related.guarded _ same
  exact related_limited same charges

private theorem related_recordConsumption (congruence : Congruence assets Books Limiters)
    (same : Matching Books Limiters left right) {position : Position}
    (within : assets position.asset) (now : Seconds) (amount : Amount) :
    Outcome.Related (Matching Books Limiters) (left.recordConsumption now position amount)
      (right.recordConsumption now position amount) := by
  have records : Outcome.Related Limiters
      (left.limiter.recordTransfer now right.gate.identity position amount)
      (right.limiter.recordTransfer now right.gate.identity position amount) :=
    congruence.limiters.related_perform same.limiter now right.gate.identity
      (show (Limiter.Command.recordTransfer position amount).target.Within _ from within)
  rw [recordConsumption, recordConsumption, same.switches, same.identity]
  apply Outcome.Related.record
  split
  · exact Outcome.related_refused same _
  · exact related_limited same records

theorem written_write (congruence : Congruence assets Books Limiters) (movement : Movement)
    (within : assets movement.posting.asset) {first second : Ledger}
    (books : Books first second) :
    Ledger.Written Books (movement.write first) (movement.write second) := by
  cases movement with
  | transfer | transferFrom => exact congruence.books.written_move books within ..
  | mint => exact congruence.books.written_credit books within _
  | burn => exact congruence.books.written_debit books within _

private theorem check_eq (congruence : Congruence assets Books Limiters) (movement : Movement)
    (within : assets movement.posting.asset) {first second : Ledger}
    (books : Books first second) : movement.check first = movement.check second := by
  cases movement with
  | transfer | transferFrom | burn => exact congruence.books.ensureBalance books within _
  | mint => exact congruence.books.ensureCredit books within _

private theorem related_movement (congruence : Congruence assets Books Limiters)
    (same : Matching Books Limiters left right) (movement : Movement)
    (within : assets movement.posting.asset) (now : Seconds) :
    Outcome.Related (Matching Books Limiters) (left.perform now movement.command)
      (right.perform now movement.command) := by
  have charged : assets movement.charged.asset := by
    rw [movement.asset_charged]
    exact within
  rw [perform_movement, perform_movement, judge, judge, same.authority,
    congruence.check_eq movement within same.ledger]
  apply Outcome.Related.guarded _ same
  apply (congruence.related_decision same charged ..).andThen
  exact fun first second decided =>
    related_settle decided (congruence.written_write movement within decided.ledger) _

private theorem related_recover (congruence : Congruence assets Books Limiters)
    (same : Matching Books Limiters left right) {asset : Address} (within : assets asset)
    (caller destination : Address) (amount : Amount) :
    Outcome.Related (Matching Books Limiters) (left.recover caller asset destination amount)
      (right.recover caller asset destination amount) := by
  apply related_asAdmin same
  rw [same.identity]
  split
  · exact Outcome.related_refused same _
  · split
    · exact Outcome.related_refused same _
    · exact related_settle same (congruence.books.written_move same.ledger within ..) _

private theorem related_deposit (congruence : Congruence assets Books Limiters)
    (same : Matching Books Limiters left right) {asset : Address} (within : assets asset)
    (amount : Amount) :
    Outcome.Related (Matching Books Limiters) (left.deposit asset amount)
      (right.deposit asset amount) := by
  have written (position : Position) (covered : assets position.asset) :=
    congruence.books.written_credit same.ledger covered amount
  rw [deposit, deposit, same.identity]
  exact related_settle same (written ⟨asset, _⟩ within) _

/-! ## Commands -/

theorem related_perform (congruence : Congruence assets Books Limiters)
    (same : Matching Books Limiters left right) (now : Seconds) {command : Gate.Command}
    (within : ∀ asset ∈ command.asset?, assets asset) :
    Outcome.Related (Matching Books Limiters) (left.perform now command)
      (right.perform now command) := by
  cases command using Gate.Command.byMovement with
  | movement movement =>
      exact congruence.related_movement same movement (within _ movement.asset?_command) now
  | admitTransfer asset source destination amount =>
      have charged : assets (Position.mk asset source).asset := within asset rfl
      exact congruence.related_decision same charged ..
  | recordConsumption position amount =>
      exact congruence.related_recordConsumption same (within _ rfl) now amount
  | assignMinter caller account held => exact related_assignMinter same caller account held
  | setChecks caller limitChecks whitelistChecks =>
      exact related_switches same caller (·.setChecks limitChecks whitelistChecks) _
  | setPaused caller paused => exact related_switches same caller (·.setPaused paused) _
  | replaceWhitelist caller whitelist =>
      exact related_asAdmin same (Outcome.related_accepted (same.withWhitelist _) ..) caller
  | replaceLimiter caller limiter =>
      have replaced := same.withLimiter (congruence.refl limiter)
      exact related_asAdmin same (Outcome.related_accepted replaced ..) caller
  | recover caller asset destination amount =>
      exact congruence.related_recover same (within asset rfl) caller destination amount
  | deposit asset amount => exact congruence.related_deposit same (within asset rfl) amount

theorem related_execute (congruence : Congruence assets Books Limiters)
    (same : Matching Books Limiters left right) (now : Seconds) {command : Command}
    (within : ∀ asset ∈ command.asset?, assets asset) :
    Outcome.Related (Matching Books Limiters) (left.execute now command)
      (right.execute now command) := by
  cases command with
  | whitelist caller command =>
      simp only [execute, same.whitelist]
      exact ⟨same.withWhitelist _, rfl, rfl⟩
  | limiter caller command =>
      have covered := Limiter.Target.within_ofAssets within
      exact (congruence.limiters.related_perform same.limiter now caller covered).within
        fun _ _ limiters => same.withLimiter limiters
  | gate command => exact congruence.related_perform same now within

theorem related_regrant (congruence : Congruence assets Books Limiters)
    (same : Matching Books Limiters left right) (component : Component) (caller : Address)
    (role : Role) (account : Address) (held : Bool) :
    Outcome.Related (Matching Books Limiters)
      (left.regrant component caller role account held)
      (right.regrant component caller role account held) := by
  have authority : left.authority component = right.authority component := by
    cases component with
    | whitelist => exact congrArg Whitelist.authority same.whitelist
    | limiter => exact congruence.limiters.authority same.limiter
    | gate => exact same.authority
  rw [regrant, regrant, authority]
  split
  next => exact Outcome.related_refused same _
  next changed _ _ =>
    refine Outcome.related_accepted ?_ [] [] []
    cases component with
    | whitelist =>
        rw [withAuthority, withAuthority, same.whitelist]
        exact same.withWhitelist _
    | limiter => exact same.withLimiter (congruence.limiters.withAuthority same.limiter changed)
    | gate => exact same.withAuthority changed

theorem related_handle (congruence : Congruence assets Books Limiters)
    (same : Matching Books Limiters left right) (now : Seconds) {request : Request}
    (within : ∀ asset ∈ request.asset?, assets asset) :
    Outcome.Related (Matching Books Limiters) (left.handle now request)
      (right.handle now request) := by
  cases request with
  | execute command => exact congruence.related_execute same now within
  | regrant component caller role account held =>
      exact congruence.related_regrant same component caller role account held

end Congruence

end Checkpoint

end Turnstile
