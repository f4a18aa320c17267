import Turnstile.Proofs.Limiter.Enforcement
import Turnstile.Proofs.Limiter.Repetition

namespace Turnstile

/-! A charge beside its three stages called one by one: is the amount allowed, enforce the
cooldown, record the transfer on what the cooldown has left. The charge is decided by the
first stage that fails and ends where the stages end, but it writes all or nothing, while
the cooldown that was enforced on its own stays started if the quota then refuses. -/

namespace Standing

/-- The quota does not look at the time of the last transfer, so it may as well be asked
after that time was written. -/
theorem charge_eq_stages (standing : Standing) (limits : Limits) (amount : Amount)
    (now : Seconds) :
    standing.charge limits amount now = (do
      checkCap limits amount
      let paced ← standing.pace limits now
      paced.consume limits amount now) := by
  rw [charge, pace]
  cases checkCap limits amount with
  | error refusal => rfl
  | ok => cases standing.checkCooldown limits.cooldown now <;> rfl

end Standing

namespace Limiter

variable {limiter : Limiter} {now : Seconds} {caller : Address} {position : Position}
  {amount : Amount}

/-! ## The first stage -/

/-- Whether the amount is allowed, with the refusal that goes with it if not. -/
def checkAmount (limiter : Limiter) (position : Position) (amount : Amount) :
    Except Refusal Unit :=
  if limiter.allowsAmount position amount then .ok ()
  else .error (.limitExceeded amount (limiter.effectiveLimits position).cap)

private theorem checkAmount_of_exempt (exempt : limiter.isExempt position = true)
    (amount : Amount) : limiter.checkAmount position amount = .ok () := by
  simp [checkAmount, allowsAmount, exempt]

private theorem checkAmount_of_counted (counted : limiter.isExempt position = false)
    (amount : Amount) :
    limiter.checkAmount position amount =
      Standing.checkCap (limiter.enforcedLimits position) amount := by
  simp only [checkAmount, allowsAmount, counted, Bool.false_or,
    effectiveLimits_of_counted counted, Standing.checkCap, Amount.le_iff, Amount.lt_iff]
  by_cases within : amount.toNat ≤ (limiter.enforcedLimits position).cap.toNat
  · simp [within]
  · simp [within, Nat.not_le.mp within]

/-! ## A charge and its stages -/

/-- What a charge has to do with the last two of its stages. A position without a record has
one after a refusal, which says what was known before. -/
structure Staged (before : Limiter) (now : Seconds) (position : Position) (amount : Amount)
    (charged paced recorded : Outcome Limiter) : Prop where
  /-- The first stage that fails decides, with its own refusal. -/
  answer : charged.answer = (do
    before.checkAmount position amount
    paced.answer
    recorded.answer)
  /-- Where no stage fails the charge ends as they end. -/
  done : charged.answer = .ok () →
    charged.world = recorded.world ∧ charged.events = paced.events ++ recorded.events
  /-- Where one fails the charge has done nothing. -/
  withdrawn : ∀ refusal, charged.answer = .error refusal → charged.events = [] ∧
    (∀ standing, before.standing? position = some standing → charged.world = before) ∧
    (before.standing? position = none →
      charged.world = before.withStanding position .fresh)
  /-- The stages leave the cooldown started, also where the quota refuses. -/
  started : before.isExempt position = false → paced.answer = .ok () →
    (recorded.world.standing position).lastTransferAt = now

theorem Staged.passes_iff {before : Limiter} {charged paced recorded : Outcome Limiter}
    (staged : before.Staged now position amount charged paced recorded) :
    charged.answer = .ok () ↔
      before.allowsAmount position amount = true ∧ paced.answer = .ok () ∧
        recorded.answer = .ok () := by
  rw [staged.answer, checkAmount]
  cases before.allowsAmount position amount <;> cases paced.answer <;>
    simp [bind, Except.bind]

private theorem staged_of_refused {paced recorded : Outcome Limiter} {refusal : Refusal}
    (decided : (do
      limiter.checkAmount position amount
      paced.answer
      recorded.answer) = .error refusal)
    (started : limiter.isExempt position = false → paced.answer = .ok () →
      (recorded.world.standing position).lastTransferAt = now) :
    limiter.Staged now position amount (.refused (limiter.touch position) refusal) paced
      recorded where
  answer := decided.symm
  done := nofun
  withdrawn _ _ := ⟨rfl, fun _ found => touch_of_standing? found, touch_of_untouched⟩
  started := started

private theorem staged_of_accepted {paced recorded : Outcome Limiter}
    (allowed : limiter.checkAmount position amount = .ok ())
    (silent : paced.answer = .ok () ∧ paced.events = [])
    (accepted : recorded.answer = .ok ())
    (started : limiter.isExempt position = false → paced.answer = .ok () →
      (recorded.world.standing position).lastTransferAt = now) :
    limiter.Staged now position amount recorded paced recorded where
  answer := by
    rw [allowed, silent.1, accepted]
    rfl
  done _ := ⟨rfl, by rw [silent.2, List.nil_append]⟩
  withdrawn refusal refused := nomatch accepted.symm.trans refused
  started := started

/-- Recording a transfer leaves the cooldown as it was started before. -/
private theorem lastTransferAt_of_stages (limiter : Limiter) (now : Seconds) (caller : Address)
    (position : Position) (amount : Amount) (counted : limiter.isExempt position = false)
    (passed : (limiter.enforceCooldown now caller position).answer = .ok ()) :
    (((limiter.enforceCooldown now caller position).world.recordTransfer now caller position
      amount).world.standing position).lastTransferAt = now := by
  let pacing : Moment := ⟨limiter, ⟨now, .perform caller (.enforceCooldown position)⟩⟩
  let recording : Moment :=
    ⟨pacing.after, ⟨now, .perform caller (.recordTransfer position amount)⟩⟩
  have accepted : pacing.accepted = true := congrArg Except.isOk passed
  have paces : pacing.paces position = true :=
    Moment.paces_iff_called.mpr ⟨accepted, counted, caller, .inl rfl⟩
  have kept : recording.paces position = false := by
    rw [Bool.eq_false_iff]
    intro contrary
    rcases Moment.paces_iff_called.mp contrary with ⟨_, _, _, paced | ⟨_, charged⟩⟩
    · cases paced
    · cases charged
  exact (Moment.lastTransferAt_kept kept).trans (Moment.lastTransferAt_of_paces paces).2

section Stages

variable (permitted : limiter.authority.holds .caller caller = true)

include permitted

private theorem staged_of_exempt (exempt : limiter.isExempt position = true) (now : Seconds)
    (amount : Amount) :
    let paced := limiter.enforceCooldown now caller position
    limiter.Staged now position amount (limiter.charge now caller position amount) paced
      (paced.world.recordTransfer now caller position amount) := by
  intro paced
  have charging : limiter.charge now caller position amount =
      .accepted (limiter.touch position) [] [] :=
    perform_of_exempt permitted exempt now (.charge amount)
  have pacing : paced = .accepted (limiter.touch position) [] [] :=
    perform_of_exempt permitted exempt now .pace
  have recording : paced.world.recordTransfer now caller position amount =
      .accepted (limiter.touch position) [] [] := by
    let touched := limiter.touch position
    have stillPermitted : touched.authority.holds .caller caller = true := permitted
    have stillExempt : touched.isExempt position = true := by
      rw [isExempt, standing_touch]
      exact exempt
    have waived := perform_of_exempt stillPermitted stillExempt now (.consume amount)
    rw [touch_touch] at waived
    rw [pacing]
    exact waived
  rw [charging, recording]
  apply staged_of_accepted (checkAmount_of_exempt exempt amount) _ rfl
  · intro counted
    cases exempt.symm.trans counted
  · exact pacing ▸ ⟨rfl, rfl⟩

private theorem enforceCooldown_of_pace (counted : limiter.isExempt position = false)
    {paced : Standing}
    (passed : (limiter.standing position).pace (limiter.enforcedLimits position) now =
      .ok paced) :
    limiter.enforceCooldown now caller position =
      .accepted (limiter.withStanding position paced) [] [] :=
  enforcement_of_ok permitted counted .pace passed

/-- What the cooldown has left is held to the same limits and is not exempt either. -/
private theorem recordTransfer_of_pace (counted : limiter.isExempt position = false)
    {paced : Standing}
    (passed : (limiter.standing position).pace (limiter.enforcedLimits position) now =
      .ok paced) (amount : Amount) :
    (limiter.enforceCooldown now caller position).world.recordTransfer now caller position
        amount =
      match paced.consume (limiter.enforcedLimits position) amount now with
      | .error refusal => .refused (limiter.withStanding position paced) refusal
      | .ok judged =>
          reportConsumption position amount (limiter.withStanding position judged) judged := by
  rw [enforceCooldown_of_pace permitted counted passed]
  let after := limiter.withStanding position paced
  have change := Enforcement.passed_pace passed
  have stillPermitted : after.authority.holds .caller caller = true := permitted
  have stillCounted : after.isExempt position = false := by
    rw [isExempt_withStanding, change.exempt]
    exact counted
  have judged : (Enforcement.consume amount).judge now (after.standing position)
      (after.enforcedLimits position) =
        paced.consume (limiter.enforcedLimits position) amount now := by
    rw [enforcedLimits_withStanding, standing_withStanding, if_pos rfl, Standing.limits,
      change.overrides]
    rfl
  cases consumed : paced.consume (limiter.enforcedLimits position) amount now with
  | error refusal =>
      have refused := enforcement_of_error stillPermitted stillCounted (.consume amount)
        (judged.trans consumed)
      rw [touch_withStanding] at refused
      exact refused
  | ok standing =>
      have recorded := enforcement_of_ok stillPermitted stillCounted (.consume amount)
        (judged.trans consumed)
      rw [withStanding_withStanding] at recorded
      exact recorded

/-- A charge that is refused, where the stages are refused alike. -/
private theorem staged_of_error (counted : limiter.isExempt position = false) {refusal : Refusal}
    (refused : (limiter.standing position).charge (limiter.enforcedLimits position) amount
      now = .error refusal)
    (decided :
      let paced := limiter.enforceCooldown now caller position
      (do
        limiter.checkAmount position amount
        paced.answer
        (paced.world.recordTransfer now caller position amount).answer) = .error refusal) :
    let paced := limiter.enforceCooldown now caller position
    limiter.Staged now position amount (limiter.charge now caller position amount) paced
      (paced.world.recordTransfer now caller position amount) := by
  intro paced
  have charged : limiter.charge now caller position amount =
      .refused (limiter.touch position) refusal :=
    enforcement_of_error permitted counted (.charge amount) refused
  rw [charged]
  exact staged_of_refused decided
    (lastTransferAt_of_stages limiter now caller position amount)

private theorem staged_of_counted (counted : limiter.isExempt position = false) (now : Seconds)
    (amount : Amount) :
    let paced := limiter.enforceCooldown now caller position
    limiter.Staged now position amount (limiter.charge now caller position amount) paced
      (paced.world.recordTransfer now caller position amount) := by
  intro paced
  have charging := (limiter.standing position).charge_eq_stages
    (limiter.enforcedLimits position) amount now
  have check := checkAmount_of_counted counted amount
  cases allowed : Standing.checkCap (limiter.enforcedLimits position) amount with
  | error refusal =>
      rw [allowed] at charging check
      apply staged_of_error permitted counted charging
      rw [check]
      rfl
  | ok =>
      rw [allowed] at charging check
      cases passed : (limiter.standing position).pace (limiter.enforcedLimits position)
        now with
      | error refusal =>
          rw [passed] at charging
          have pacing : paced = .refused (limiter.touch position) refusal :=
            enforcement_of_error permitted counted .pace passed
          apply staged_of_error permitted counted charging
          change (do
            limiter.checkAmount position amount
            paced.answer
            _) = _
          rw [check, pacing]
          rfl
      | ok standing =>
          rw [passed] at charging
          have pacing : paced = _ := enforceCooldown_of_pace permitted counted passed
          have recording := recordTransfer_of_pace permitted counted passed amount
          cases consumed : standing.consume (limiter.enforcedLimits position) amount now with
          | error refusal =>
              rw [consumed] at recording
              apply staged_of_error permitted counted (charging.trans consumed)
              change (do
                limiter.checkAmount position amount
                paced.answer
                _) = _
              rw [recording, check, pacing]
              rfl
          | ok judged =>
              rw [consumed] at recording
              have charged : limiter.charge now caller position amount =
                  paced.world.recordTransfer now caller position amount :=
                (enforcement_of_ok permitted counted (.charge amount)
                  (charging.trans consumed)).trans recording.symm
              rw [charged]
              apply staged_of_accepted check _ (congrArg Outcome.answer recording)
                (lastTransferAt_of_stages limiter now caller position amount)
              rw [enforceCooldown_of_pace permitted counted passed]
              exact ⟨rfl, rfl⟩

end Stages

/-- A charge passes where the amount is allowed, the cooldown can be enforced and the
transfer can then be recorded, and it ends as these end. Else it is refused as the first of
them that fails. It publishes nothing then and keeps the record of the position as it was,
fresh if there was none, while what was called before the failing stage has been done. -/
theorem charge_in_stages (permitted : limiter.authority.holds .caller caller = true)
    (now : Seconds) (position : Position) (amount : Amount) :
    let charged := limiter.charge now caller position amount
    let paced := limiter.enforceCooldown now caller position
    let recorded := paced.world.recordTransfer now caller position amount
    limiter.Staged now position amount charged paced recorded ∧
      (charged.answer = .ok () ↔
        limiter.allowsAmount position amount = true ∧ paced.answer = .ok () ∧
          recorded.answer = .ok ()) := by
  intro charged paced recorded
  have staged : limiter.Staged now position amount charged paced recorded := by
    cases exempt : limiter.isExempt position with
    | true => exact staged_of_exempt permitted exempt now amount
    | false => exact staged_of_counted permitted exempt now amount
  exact ⟨staged, staged.passes_iff⟩

namespace Sample

/-- The position has consumed 50 of its 80 at time 1000. -/
def spent : Limiter :=
  (prepared.charge 1000 service Sample.position (.ofNat 50)).world

/-- A charge after the end of the cooldown. -/
def charged (amount : Amount) : Outcome Limiter :=
  spent.charge 2000 service Sample.position amount

/-- The same amount, recorded after the cooldown was enforced on its own. -/
def recorded (amount : Amount) : Outcome Limiter :=
  (spent.enforceCooldown 2000 service Sample.position).world.recordTransfer 2000 service
    Sample.position amount

end Sample

theorem charge_in_stages_sample :
    Sample.spent.authority.holds .caller Sample.service = true ∧
      (Sample.charged (.ofNat 40)).answer =
        .error (.exceedsPeriodLimit (.ofNat 40) (.ofNat 50) (.ofNat 80)) ∧
      (Sample.charged (.ofNat 40)).world = Sample.spent ∧
      (Sample.spent.standing Sample.position).lastTransferAt = 1000 ∧
      ((Sample.recorded (.ofNat 40)).world.standing Sample.position).lastTransferAt = 2000 ∧
      (Sample.charged (.ofNat 30)).answer = .ok () ∧
      (Sample.charged (.ofNat 30)).world = (Sample.recorded (.ofNat 30)).world := by
  have permitted : Sample.spent.authority.holds .caller Sample.service = true := rfl
  have beyond := charge_in_stages permitted 2000 Sample.position (.ofNat 40)
  have within := charge_in_stages permitted 2000 Sample.position (.ofNat 30)
  have refused : (Sample.charged (.ofNat 40)).answer =
      .error (.exceedsPeriodLimit (.ofNat 40) (.ofNat 50) (.ofNat 80)) := rfl
  have passed : (Sample.charged (.ofNat 30)).answer = .ok () :=
    within.2.mpr ⟨rfl, rfl, rfl⟩
  have found : Sample.spent.standing? Sample.position =
      some (Sample.spent.standing Sample.position) := by decide
  exact ⟨permitted, refused, (beyond.1.withdrawn _ refused).2.1 _ found, by decide,
    beyond.1.started rfl rfl, passed, (within.1.done passed).1⟩

/-- A position without a record has one after a charge of it was refused. -/
theorem charge_leaves_record_sample :
    Sample.prepared.authority.holds .caller Sample.service = true ∧
      Sample.prepared.standing? Sample.position = none ∧
      (Sample.first 1000 Sample.position (.ofNat 51)).answer =
        .error (.limitExceeded (.ofNat 51) (.ofNat 50)) ∧
      (Sample.first 1000 Sample.position (.ofNat 51)).world.standing? Sample.position =
        some .fresh :=
  ⟨rfl, rfl, rfl, by decide⟩

end Limiter

end Turnstile
