import Turnstile.Proofs.Checkpoint.Congruence
import Turnstile.Proofs.Checkpoint.Tally

namespace Turnstile

/-! Assets do not touch each other, and neither do the accounts of one asset as far as their
limits go. A run that leaves out what was asked in other assets, or of other accounts, goes on
in the same way for whoever looks at the one asset or the one account. -/

/-! ## Other assets -/

private theorem Limiter.Target.outside_ofAssets {target : Target} {asset other : Address}
    (named : target.asset? = some other) (apart : other ≠ asset) :
    target.Outside (.ofAssets (· = asset)) := by
  cases target with
  | grants => cases named
  | defaults set =>
      cases named
      refine ⟨nofun, ?_, fun _ _ => id⟩
      rintro _ rfl
      exact apart
  | standing struck =>
      cases named
      refine ⟨nofun, fun _ _ => id, ?_⟩
      rintro position rfl same
      exact apart (congrArg Position.asset same)
  | exemptions set accounts =>
      cases named
      refine ⟨nofun, fun _ _ => id, ?_⟩
      rintro position rfl struck
      exact apart struck.1

namespace Checkpoint

/-- In all that has to do with the asset, one is like the other. -/
def SameFor (asset : Address) : Checkpoint → Checkpoint → Prop :=
  Matching (Ledger.AgreeOn asset) (Limiter.AgreeOn (.ofAssets (· = asset)))

section SameFor

variable {asset : Address} {left middle right : Checkpoint}

theorem SameFor.refl (checkpoint : Checkpoint) : SameFor asset checkpoint checkpoint :=
  ⟨rfl, rfl, rfl, .refl _, rfl, .refl _⟩

theorem SameFor.symm (same : SameFor asset left right) : SameFor asset right left :=
  ⟨same.identity.symm, same.switches.symm, same.authority.symm, same.ledger.symm,
    same.whitelist.symm, same.limiter.symm⟩

theorem SameFor.trans (first : SameFor asset left middle) (second : SameFor asset middle right) :
    SameFor asset left right :=
  ⟨first.identity.trans second.identity, first.switches.trans second.switches,
    first.authority.trans second.authority, first.ledger.trans second.ledger,
    first.whitelist.trans second.whitelist, first.limiter.trans second.limiter⟩

theorem congruence_sameFor (asset : Address) :
    Congruence (· = asset) (Ledger.AgreeOn asset) (Limiter.AgreeOn (.ofAssets (· = asset))) where
  books := Ledger.congruence_agreeOn asset
  limiters := Limiter.congruence_agreeOn _
  refl := Limiter.AgreeOn.refl

end SameFor

section Apart

variable {start checkpoint : Checkpoint} {asset other : Address}

theorem SameFor.limits (same : SameFor asset start checkpoint) (apart : other ≠ asset)
    (now : Seconds) (caller : Address) {command : Limiter.Command}
    (named : command.target.asset? = some other) :
    (checkpoint.limiter.perform now caller command).Keeps fun limiter =>
      SameFor asset start { checkpoint with limiter } := by
  have outside := Limiter.Target.outside_ofAssets named apart
  have confined := (checkpoint.limiter.confined_perform now caller command).kept
  exact ⟨same.trans ((SameFor.refl checkpoint).withLimiter (confined.agreeOn outside))⟩

theorem SameFor.written (same : SameFor asset start checkpoint) {ledger : Ledger}
    (agrees : Ledger.AgreeOn asset checkpoint.gate.ledger ledger) :
    SameFor asset start (checkpoint.withLedger ledger) :=
  same.trans ((SameFor.refl checkpoint).withLedger agrees)

private theorem agreeOn_write {movement : Movement} (apart : movement.posting.asset ≠ asset)
    {ledger after : Ledger} (written : movement.write ledger = .ok after) :
    Ledger.AgreeOn asset ledger after := by
  cases movement with
  | transfer | transferFrom => exact Ledger.agreeOn_move apart written
  | mint => exact Ledger.agreeOn_credit apart written
  | burn => exact Ledger.agreeOn_debit apart written

theorem apart_perform (same : SameFor asset start checkpoint) (apart : other ≠ asset)
    (now : Seconds) {command : Gate.Command} (named : command.asset? = some other) :
    (checkpoint.perform now command).Keeps (SameFor asset start) := by
  have limits (command : Limiter.Command) (named : command.target.asset? = some other) :=
    same.limits apart now checkpoint.gate.identity named
  cases command using Gate.Command.byMovement with
  | movement movement =>
      rw [movement.asset?_command] at named
      cases named
      have charged := congrArg some movement.asset_charged
      refine keeps_movement same (limits (.charge ..) charged) fun _ kept ledger written => ?_
      exact kept.written (agreeOn_write apart written)
  | admitTransfer _ source =>
      exact keeps_decision same (limits (.charge ⟨_, source⟩ _) named) ..
  | recordConsumption => exact keeps_recordConsumption same (limits (.recordTransfer ..) named)
  | recover =>
      cases named
      refine keeps_recover same (fun ledger written => ?_) _
      exact same.written (Ledger.agreeOn_move apart written)
  | deposit =>
      cases named
      refine keeps_settle same (fun ledger written => ?_) _
      exact same.written (Ledger.agreeOn_credit apart written)
  | assignMinter | setChecks | setPaused | replaceWhitelist | replaceLimiter => cases named

/-- A request that names another asset leaves everything of this one as it is. -/
theorem apart_handle (same : SameFor asset start checkpoint) (apart : other ≠ asset)
    (now : Seconds) {request : Request} (named : request.asset? = some other) :
    (checkpoint.handle now request).Keeps (SameFor asset start) := by
  cases request with
  | regrant => cases named
  | execute command =>
      cases command with
      | whitelist => cases named
      | limiter caller command =>
          exact (same.limits apart now caller named).within fun _ kept => kept
      | gate command => exact apart_perform same apart now named

end Apart

/-! ## Reads -/

/-- Nothing that is read of the asset tells the two apart. -/
structure ReadAlike (asset : Address) (left right : Checkpoint) : Prop where
  balance : ∀ account,
    left.gate.ledger.balance ⟨asset, account⟩ = right.gate.ledger.balance ⟨asset, account⟩
  supply : left.gate.ledger.supply asset = right.gate.ledger.supply asset
  record : ∀ account,
    left.limiter.standing? ⟨asset, account⟩ = right.limiter.standing? ⟨asset, account⟩
  limiter : ∀ account, Limiter.ReadAlike ⟨asset, account⟩ left.limiter right.limiter
  checkTransfer : ∀ now source destination amount,
    left.checkTransfer now asset source destination amount =
      right.checkTransfer now asset source destination amount
  isAllowedTransfer : ∀ now source destination amount,
    left.isAllowedTransfer now asset source destination amount =
      right.isAllowedTransfer now asset source destination amount
  isAllowedSender : ∀ now account,
    left.isAllowedSender now ⟨asset, account⟩ = right.isAllowedSender now ⟨asset, account⟩

theorem SameFor.readAlike {asset : Address} {left right : Checkpoint}
    (same : SameFor asset left right) : ReadAlike asset left right := by
  have limits (account : Address) :
      Limiter.ReadAlike ⟨asset, account⟩ left.limiter right.limiter := by
    apply same.limiter.readAlike
    rfl
  have checks (now : Seconds) (source destination : Address) (amount : Amount) :
      left.checkTransfer now asset source destination amount =
        right.checkTransfer now asset source destination amount := by
    have shown := limits source
    simp only [checkTransfer, same.checkAccess, same.switches, shown.allowsAmount,
      shown.effectiveLimits, shown.nextValidTransferTime, shown.remainingAllowance]
  refine ⟨same.ledger.balance, same.ledger.supply, fun account => ?record, limits, checks,
    fun now source destination amount => ?transfers, fun now account => ?senders⟩
  case record => exact same.limiter.record ⟨asset, account⟩ rfl
  case transfers => rw [isAllowedTransfer, isAllowedTransfer, checks]
  case senders =>
    rw [isAllowedSender, isAllowedSender, same.checkAccess, same.switches,
      (limits account).nextValidTransferTime]

/-! ## Runs -/

/-- It names no asset but this one. -/
def Request.namesNoOther (asset : Address) (request : Request) : Bool :=
  request.asset?.all (· = asset)

section Runs

variable {asset : Address} {request : Request}

private theorem Request.eq_of_namesNoOther (named : request.namesNoOther asset = true) :
    ∀ other ∈ request.asset?, other = asset := by
  simpa [namesNoOther, Option.all_eq_true] using named

private theorem Request.exists_other (named : request.namesNoOther asset = false) :
    ∃ other, request.asset? = some other ∧ other ≠ asset := by
  simpa [namesNoOther, Option.all_eq_false] using named

/-- The two may differ in other assets from the start. -/
private theorem seen_asset {left right : Checkpoint} (same : SameFor asset left right)
    (calls : List (Timed Request)) :
    let stays (call : Timed Request) := call.command.namesNoOther asset
    (Run.trace handleAt right (calls.filter stays)).map Step.seen =
        ((Run.trace handleAt left calls).filter fun step => stays step.call).map Step.seen ∧
      SameFor asset (Run.final handleAt left calls)
        (Run.final handleAt right (calls.filter stays)) := by
  apply Run.seen_filter ?dropped ?kept same
  case dropped =>
    intro left right call leftOut same
    rcases Request.exists_other leftOut with ⟨other, named, apart⟩
    exact (apart_handle (.refl left) apart call.now named).kept.symm.trans same
  case kept =>
    intro left right call stay same
    exact (congruence_sameFor asset).related_handle same call.now
      (Request.eq_of_namesNoOther stay)

end Runs

/-- What is asked in one asset has no part in what happens in another: without it, whatever
else is asked is answered as before, and everything of the other asset is as before. At the
limiter, what is asked of one account has no part in what happens to the others of the same
asset. And calls that hold different positions to their limits can change places. -/
theorem isolated :
    (∀ asset (start : Checkpoint) (calls : List (Timed Request)),
        let stays (call : Timed Request) := call.command.namesNoOther asset
        (Run.trace handleAt start (calls.filter stays)).map Step.seen =
            ((Run.trace handleAt start calls).filter fun step => stays step.call).map
              Step.seen ∧
          SameFor asset (Run.final handleAt start calls)
            (Run.final handleAt start (calls.filter stays)) ∧
          ReadAlike asset (Run.final handleAt start calls)
            (Run.final handleAt start (calls.filter stays))) ∧
      (∀ position (start : Limiter) (calls : List (Timed Limiter.Request)),
        let stays (call : Timed Limiter.Request) := !call.command.target.neighbours position
        let full := Run.final Limiter.handle start calls
        let rest := Run.final Limiter.handle start (calls.filter stays)
        (Run.trace Limiter.handle start (calls.filter stays)).map Step.seen =
            ((Run.trace Limiter.handle start calls).filter fun step => stays step.call).map
              Step.seen ∧
          full.standing? position = rest.standing? position ∧
          Limiter.ReadAlike position full rest) ∧
      (∀ first second : Position, first ≠ second →
        ∀ (limiter : Limiter) (now : Seconds) (caller another : Address)
          (here there : Enforcement),
        let one : Timed Limiter.Request := ⟨now, .perform caller (here.command first)⟩
        let other : Timed Limiter.Request := ⟨now, .perform another (there.command second)⟩
        (Run.trace Limiter.handle limiter [one, other]).map Step.seen =
            ((Run.trace Limiter.handle limiter [other, one]).map Step.seen).reverse ∧
          Run.final Limiter.handle limiter [one, other] =
            Run.final Limiter.handle limiter [other, one]) := by
  refine ⟨?assets, ?accounts, ?commute⟩
  case assets =>
    intro asset start calls stays
    have same : SameFor asset start start := .refl start
    have seen := seen_asset same calls
    exact ⟨seen.1, seen.2, seen.2.readAlike⟩
  case accounts =>
    intro position start calls stays full rest
    have seen : _ ∧ Limiter.AgreeOn _ full rest := Limiter.seen_within
      (fun call stay => Limiter.Target.within_of_not_neighbours (by simpa [stays] using stay))
      (fun call leftOut => Limiter.Target.outside_of_neighbours (by simpa [stays] using leftOut))
      (.refl start) calls
    exact ⟨seen.1, seen.2.record position fun _ => rfl, seen.2.readAlike fun _ => rfl⟩
  case commute =>
    intro first second apart limiter now caller another here there one other
    apply Limiter.handle_comm apart limiter
    · exact Limiter.target_command here first
    · exact Limiter.target_command there second

end Checkpoint

namespace Sample

def otherAsset : Address := ⟨8, by decide⟩

/-- Something strays to the gate between two transfers. -/
def mixedCalls : List (Timed Checkpoint.Request) :=
  [⟨1000, .execute (.gate transfer.command)⟩,
    ⟨1001, .execute (.gate (.deposit otherAsset (.ofNat 5)))⟩,
    ⟨1060, .execute (.gate transfer.command)⟩]

/-- The gate charges an account of the asset. -/
def charge (account : Address) : Timed Limiter.Request :=
  ⟨1000, .perform identity (.charge ⟨asset, account⟩ (.ofNat 30))⟩

end Sample

theorem Checkpoint.isolated_sample :
    SameFor Sample.asset (Run.final handleAt Sample.checkpoint Sample.mixedCalls)
        (Run.final handleAt Sample.checkpoint (Sample.mixedCalls.eraseIdx 1)) ∧
      Position.mk Sample.asset Sample.payer ≠ ⟨Sample.asset, Sample.payee⟩ ∧
      Run.final Limiter.handle Sample.checkpoint.limiter
          [Sample.charge Sample.payer, Sample.charge Sample.payee] =
        Run.final Limiter.handle Sample.checkpoint.limiter
          [Sample.charge Sample.payee, Sample.charge Sample.payer] := by
  have apart : Position.mk Sample.asset Sample.payer ≠ ⟨Sample.asset, Sample.payee⟩ := by
    decide
  have commuted := isolated.2.2 _ _ apart Sample.checkpoint.limiter 1000 Sample.identity
    Sample.identity (.charge (.ofNat 30)) (.charge (.ofNat 30))
  exact ⟨(isolated.1 Sample.asset Sample.checkpoint Sample.mixedCalls).2.1, apart, commuted.2⟩

end Turnstile
