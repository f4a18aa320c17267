import Turnstile.Proofs.Limiter.Impact

namespace Turnstile

/-! The history of a limiter: what is asked of it, at which times, and what every single
call has done to the accounting window and to the cooldown of a position. -/

namespace Limiter

/-! ## Requests -/

/-- What can be asked of a limiter: a command, or a change made directly at its table of
grants, where any role can be given and nothing is announced. -/
inductive Request where
  | perform (caller : Address) (command : Command)
  | regrant (caller : Address) (role : Role) (account : Address) (held : Bool)
deriving DecidableEq

def Request.impact (position : Position) : Request → Impact
  | .perform _ command => command.impact position
  | .regrant .. => .none

theorem Request.impact_eq_reset_iff {request : Request} {position : Position} :
    request.impact position = .reset ↔
      ∃ caller, request = .perform caller (.resetUserPeriod position) := by
  cases request with
  | perform caller command => simp [Request.impact, Command.impact_eq_reset_iff]
  | regrant => simp [Request.impact]

theorem Request.impact_eq_enforce_iff {request : Request} {position : Position}
    {enforcement : Enforcement} :
    request.impact position = .enforce enforcement ↔
      ∃ caller, request = .perform caller (enforcement.command position) := by
  cases request with
  | perform caller command => simp [Request.impact, Command.impact_eq_enforce_iff]
  | regrant => simp [Request.impact]

def regrant (limiter : Limiter) (caller : Address) (role : Role) (account : Address)
    (held : Bool) : Outcome Limiter :=
  match limiter.authority.assign caller role account held with
  | .error refusal => .refused limiter refusal
  | .ok (authority, _) => .accepted { limiter with authority } [] []

def handle (limiter : Limiter) (call : Timed Request) : Outcome Limiter :=
  match call.command with
  | .perform caller command => limiter.perform call.now caller command
  | .regrant caller role account held => limiter.regrant caller role account held

private theorem standing_regrant (limiter : Limiter) (position : Position) (caller : Address)
    (role : Role) (account : Address) (held : Bool) :
    (limiter.regrant caller role account held).world.standing position =
      limiter.standing position := by
  rw [regrant]
  split <;> rfl

private theorem atomic_regrant (limiter : Limiter) (caller : Address) (role : Role)
    (account : Address) (held : Bool) :
    (limiter.regrant caller role account held).Atomic limiter.Alike := by
  rw [regrant]
  split
  · exact Outcome.atomic_refused (.refl limiter) _
  · exact Outcome.atomic_accepted ..

theorem atomic_handle (limiter : Limiter) (call : Timed Request) :
    (limiter.handle call).Atomic limiter.Alike := by
  rcases call with ⟨now, request⟩
  cases request with
  | perform caller command => exact atomic_perform limiter now caller command
  | regrant caller role account held => exact atomic_regrant limiter caller role account held

theorem ensures_handle (limiter : Limiter) (position : Position) (call : Timed Request) :
    (limiter.handle call).Ensures fun after =>
      (call.command.impact position).Leads (limiter.enforcedLimits position) call.now
        (limiter.standing position) (after.standing position) := by
  rcases call with ⟨now, request⟩
  cases request with
  | perform caller command => exact ensures_perform limiter position now caller command
  | regrant caller role account held => exact ⟨fun _ => standing_regrant ..⟩

/-! ## Moments -/

/-- A call to a limiter, with the limiter as the call met it. -/
abbrev Moment := Run.Moment Limiter (Timed Request)

/-- The calls of a run and the limiters that they met, the latest first. -/
def past (start : Limiter) (calls : List (Timed Request)) : List Moment :=
  Run.past handle start calls

namespace Moment

variable (moment : Moment) (position : Position)

def now : Seconds := moment.call.now

def after : Limiter := (moment.world.handle moment.call).world

def accepted : Bool := (moment.world.handle moment.call).answer.isOk

/-- What the call means for a position. Refused calls mean nothing. -/
def impact : Impact :=
  if moment.accepted then moment.call.command.impact position else .none

/-- What the position has passed: an accepted call, made while it was not exempt. -/
def enforcement? : Option Enforcement :=
  match moment.impact position with
  | .enforce enforcement =>
      if moment.world.isExempt position then none else some enforcement
  | _ => none

/-- The amount that the call has taken out of the quota of the position. -/
def consumed? : Option Amount :=
  (moment.enforcement? position).bind Enforcement.amount?

/-- The call has started the cooldown of the position. -/
def paces : Bool :=
  (moment.enforcement? position).any Enforcement.paces

/-- The call has closed the window of the position by order of a limit manager. -/
def resets : Bool :=
  match moment.impact position with
  | .reset => true
  | _ => false

/-- The call has consumed something where no window was open, or where it had ended. -/
def opens : Bool :=
  let window := (moment.world.standing position).window
  (moment.consumed? position).isSome &&
    decide (window.resetAt = 0 ∨ window.resetAt ≤ moment.now)

/-- What the call adds to a total of consumed amounts. -/
def amount : Nat :=
  (moment.consumed? position).elim 0 Amount.toNat

end Moment

/-! ## Single calls -/

namespace Moment

variable {moment : Moment} {position : Position}

theorem leads (moment : Moment) (position : Position) :
    (moment.impact position).Leads (moment.world.enforcedLimits position) moment.now
      (moment.world.standing position) (moment.after.standing position) := by
  rw [impact, accepted, after]
  cases answer : (moment.world.handle moment.call).answer with
  | ok => exact (ensures_handle moment.world position moment.call).done answer
  | error refusal =>
      have same := (atomic_handle moment.world moment.call).spared refusal answer
      exact (same.standing position).symm

theorem enforcement?_eq_some_iff {enforcement : Enforcement} :
    moment.enforcement? position = some enforcement ↔
      moment.impact position = .enforce enforcement ∧
        moment.world.isExempt position = false := by
  rw [enforcement?]
  cases moment.impact position <;> cases moment.world.isExempt position <;> simp

theorem resets_eq_true_iff :
    moment.resets position = true ↔ moment.impact position = .reset := by
  rw [resets]
  cases moment.impact position <;> simp

private theorem passed_of_enforcement? {enforcement : Enforcement}
    (found : moment.enforcement? position = some enforcement) :
    enforcement.Passed (moment.world.enforcedLimits position) moment.now
      (moment.world.standing position) (moment.after.standing position) := by
  rcases enforcement?_eq_some_iff.mp found with ⟨struck, counted⟩
  have leads := moment.leads position
  rw [isExempt] at counted
  simp only [struck, Impact.Leads, counted, Bool.false_eq_true, if_false] at leads
  exact Enforcement.passed_judge leads

/-- Without an enforcement passed, window and cooldown change by a reset only. -/
theorem kept_of_enforcement? (none : moment.enforcement? position = none) :
    (moment.resets position = false →
      (moment.after.standing position).window = (moment.world.standing position).window) ∧
      (moment.after.standing position).lastTransferAt =
        (moment.world.standing position).lastTransferAt := by
  have leads := moment.leads position
  rw [enforcement?] at none
  rw [resets]
  cases struck : moment.impact position with
  | none | overrides change | exemption change =>
      rw [struck] at leads
      rw [show moment.after.standing position = _ from leads]
      exact ⟨fun _ => rfl, rfl⟩
  | reset =>
      rw [struck] at leads
      rw [show moment.after.standing position = _ from leads]
      exact ⟨nofun, rfl⟩
  | enforce enforcement =>
      rw [struck] at leads none
      cases exempt : (moment.world.standing position).exempt with
      | true =>
          simp only [Impact.Leads, exempt, if_true] at leads
          rw [leads]
          exact ⟨fun _ => rfl, rfl⟩
      | false => simp [isExempt, exempt] at none

/-! ### What was called -/

theorem impact_eq_iff (impact : Impact) (some : impact ≠ .none) :
    moment.impact position = impact ↔
      moment.accepted = true ∧ moment.call.command.impact position = impact := by
  rw [Moment.impact]
  cases moment.accepted <;> simp [some.symm]

theorem resets_iff_called :
    moment.resets position = true ↔
      moment.accepted = true ∧
        ∃ caller, moment.call.command = .perform caller (.resetUserPeriod position) := by
  rw [resets_eq_true_iff, impact_eq_iff .reset nofun, Request.impact_eq_reset_iff]

theorem enforcement?_iff_called {enforcement : Enforcement} :
    moment.enforcement? position = some enforcement ↔
      moment.accepted = true ∧ moment.world.isExempt position = false ∧
        ∃ caller, moment.call.command = .perform caller (enforcement.command position) := by
  rw [enforcement?_eq_some_iff, impact_eq_iff (.enforce enforcement) nofun,
    Request.impact_eq_enforce_iff]
  tauto

/-- Recorded and charged transfers take out of the quota, where they are accepted and the
position is not exempt. -/
theorem consumed?_iff_called {amount : Amount} :
    moment.consumed? position = some amount ↔
      moment.accepted = true ∧ moment.world.isExempt position = false ∧
        ∃ caller, moment.call.command = .perform caller (.recordTransfer position amount) ∨
          moment.call.command = .perform caller (.charge position amount) := by
  constructor
  · intro consumed
    rcases Option.bind_eq_some_iff.mp consumed with ⟨enforcement, found, taken⟩
    rcases enforcement?_iff_called.mp found with ⟨accepted, counted, caller, called⟩
    refine ⟨accepted, counted, caller, ?_⟩
    cases enforcement with
    | pace => cases taken
    | consume => cases taken; exact .inl called
    | charge => cases taken; exact .inr called
  · rintro ⟨accepted, counted, caller, called⟩
    rw [consumed?, Option.bind_eq_some_iff]
    rcases called with recorded | charged
    · exact ⟨.consume amount,
        enforcement?_iff_called.mpr ⟨accepted, counted, caller, recorded⟩, rfl⟩
    · exact ⟨.charge amount,
        enforcement?_iff_called.mpr ⟨accepted, counted, caller, charged⟩, rfl⟩

/-- Enforced cooldowns and charged transfers start the cooldown. -/
theorem paces_iff_called :
    moment.paces position = true ↔
      moment.accepted = true ∧ moment.world.isExempt position = false ∧
        ∃ caller, moment.call.command = .perform caller (.enforceCooldown position) ∨
          ∃ amount, moment.call.command = .perform caller (.charge position amount) := by
  rw [paces, Option.any_eq_true]
  constructor
  · rintro ⟨enforcement, found, paced⟩
    rcases enforcement?_iff_called.mp found with ⟨accepted, counted, caller, called⟩
    refine ⟨accepted, counted, caller, ?_⟩
    cases enforcement with
    | pace => exact .inl called
    | consume => cases paced
    | charge amount => exact .inr ⟨amount, called⟩
  · rintro ⟨accepted, counted, caller, paced | ⟨amount, charged⟩⟩
    · exact ⟨.pace, enforcement?_iff_called.mpr ⟨accepted, counted, caller, paced⟩, rfl⟩
    · exact ⟨.charge amount,
        enforcement?_iff_called.mpr ⟨accepted, counted, caller, charged⟩, rfl⟩

/-! ### Windows -/

theorem window_of_consumed? {amount : Amount}
    (consumed : moment.consumed? position = some amount) :
    ((moment.world.standing position).quotaCondition
        (moment.world.enforcedLimits position) amount moment.now).holds = true ∧
      Standing.Window.Fuller amount
        ((moment.world.standing position).windowAt
          (moment.world.enforcedLimits position).period moment.now)
        (moment.after.standing position).window := by
  rcases Option.bind_eq_some_iff.mp consumed with ⟨enforcement, found, taken⟩
  exact (passed_of_enforcement? found).consumed amount taken

theorem window_of_resets (resets : moment.resets position = true) :
    (moment.after.standing position).window = ⟨.zero, 0⟩ := by
  have leads := moment.leads position
  rw [resets_eq_true_iff.mp resets] at leads
  rw [show moment.after.standing position = _ from leads]
  rfl

theorem window_kept (unconsumed : moment.consumed? position = none)
    (unreset : moment.resets position = false) :
    (moment.after.standing position).window = (moment.world.standing position).window := by
  cases found : moment.enforcement? position with
  | none => exact (kept_of_enforcement? found).1 unreset
  | some enforcement =>
      rw [consumed?, found] at unconsumed
      exact (passed_of_enforcement? found).unconsumed unconsumed

/-! ### Cooldowns -/

theorem lastTransferAt_of_paces (paces : moment.paces position = true) :
    ((moment.world.standing position).cooldownCondition
        (moment.world.enforcedLimits position) moment.now).holds = true ∧
      (moment.after.standing position).lastTransferAt = moment.now := by
  rw [Moment.paces, Option.any_eq_true] at paces
  rcases paces with ⟨enforcement, found, paced⟩
  exact (passed_of_enforcement? found).paced paced

theorem lastTransferAt_kept (unpaced : moment.paces position = false) :
    (moment.after.standing position).lastTransferAt =
      (moment.world.standing position).lastTransferAt := by
  cases found : moment.enforcement? position with
  | none => exact (kept_of_enforcement? found).2
  | some enforcement =>
      rw [paces, found] at unpaced
      exact (passed_of_enforcement? found).unpaced unpaced

end Moment

/-! ## Runs -/

/-- What holds of a limiter without a past and is kept from every moment to the next, holds
after any run. -/
theorem final_past_of_moment (Holds : Limiter → List Moment → Prop) {start : Limiter}
    (first : Holds start [])
    (step : ∀ (moment : Moment) past, Holds moment.world past →
      Holds moment.after (moment :: past))
    (calls : List (Timed Request)) :
    Holds (Run.final handle start calls) (start.past calls) :=
  Run.final_past_of_step Holds first (fun limiter past call => step ⟨limiter, call⟩ past) calls

theorem standing_of_founded {admin : Address} {fallback : Limits} {limiter : Limiter}
    (founded : Limiter.founded admin fallback = .ok limiter) (position : Position) :
    limiter.standing position = .fresh := by
  rcases exists_of_bind_eq_ok founded with ⟨_, _, rest⟩
  rcases exists_of_bind_eq_ok rest with ⟨_, _, done⟩
  cases done
  rfl

theorem effectiveLimits_of_counted {limiter : Limiter} {position : Position}
    (counted : limiter.isExempt position = false) :
    limiter.effectiveLimits position = limiter.enforcedLimits position := by
  simp [effectiveLimits, counted]

theorem effectiveLimits_of_exempt {limiter : Limiter} {position : Position}
    (exempt : limiter.isExempt position = true) :
    limiter.effectiveLimits position =
      { Limits.unlimited with period := (limiter.enforcedLimits position).period } :=
  if_pos exempt

/-! ### A new limiter

It allows 50 at once, 80 an hour and a minute between two transfers. -/

namespace Sample

def address (number : Nat) : Address :=
  (Address.ofNat? number).getD .zero

def service : Address := address 1

def admin : Address := address 2

def manager : Address := address 5

def position : Position := ⟨address 7, address 3⟩

def fallback : Limits := ⟨.ofNat 50, 60, .ofNat 80, 3600⟩

def start : Limiter where
  fallback := fallback
  defaults := .empty
  standings := .empty
  authority := .ofGrants [⟨.admin, admin⟩]

theorem founded : Limiter.founded admin fallback = .ok start := rfl

def authorize : Request := .perform admin (.assignCaller service true)

def charge (amount : Amount) : Request := .perform service (.charge position amount)

def record (amount : Amount) : Request := .perform service (.recordTransfer position amount)

end Sample

end Limiter

end Turnstile
