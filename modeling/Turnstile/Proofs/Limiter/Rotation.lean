import Turnstile.Proofs.Limiter.History
import Turnstile.Proofs.Table

namespace Turnstile

/-! Windows closed on time. A limiter lets a window that has ended stand until something is
consumed again, and works out what it would be. Beside it stands a limiter whose windows are
all closed as soon as the clock is read at or after their end. As long as the clock does not
go back, neither the answers, the events nor anything that is shown tells which of the two is
at work. -/

/-! ## Standings -/

namespace Standing

/-- Close the window if it has ended. -/
def closed (standing : Standing) (now : Seconds) : Standing :=
  if standing.window.resetAt ≤ now then standing.resetWindow else standing

section Closed

variable (standing : Standing) (now : Seconds)

@[simp] theorem closed_fresh : fresh.closed now = fresh := by
  rw [closed]
  split <;> rfl

@[simp] theorem overrides_closed : (standing.closed now).overrides = standing.overrides := by
  rw [closed]
  split <;> rfl

@[simp] theorem exempt_closed : (standing.closed now).exempt = standing.exempt := by
  rw [closed]
  split <;> rfl

@[simp] theorem lastTransferAt_closed :
    (standing.closed now).lastTransferAt = standing.lastTransferAt := by
  rw [closed]
  split <;> rfl

@[simp] theorem limits_closed (defaults : Limits) :
    (standing.closed now).limits defaults = standing.limits defaults := by
  rw [limits, limits, overrides_closed]

/-- After it was closed, a window either has not ended or is not open at all. -/
private theorem window_closed :
    (standing.closed now).window = ⟨.zero, 0⟩ ∨ now < (standing.closed now).window.resetAt := by
  rw [closed]
  split
  next => exact .inl rfl
  next open_ => exact .inr (UInt64.not_le.mp open_)

/-- What a consumption finds does not depend on whether the window was closed before. -/
@[simp] theorem windowAt_closed (period : Seconds) :
    (standing.closed now).windowAt period now = standing.windowAt period now := by
  rw [closed]
  split
  next ended =>
    rw [windowAt, windowAt, if_pos (.inl rfl), if_pos (.inr ended)]
  next => rfl

/-- A closed window needs no rotation. -/
private theorem total_windowAt (period : Seconds) :
    (standing.windowAt period now).total = (standing.closed now).window.total := by
  rw [windowAt, closed]
  by_cases ended : standing.window.resetAt ≤ now
  · rw [if_pos (.inr ended), if_pos ended]
    rfl
  · have opened : standing.window.resetAt ≠ 0 := by
      intro never
      rw [never] at ended
      exact ended UInt64.zero_le
    rw [if_neg (not_or.mpr ⟨opened, ended⟩), if_neg ended]

@[simp] theorem closed_resetWindow :
    standing.resetWindow.closed now = standing.resetWindow := by
  rw [closed]
  split <;> rfl

@[simp] theorem resetWindow_closed :
    (standing.closed now).resetWindow = standing.resetWindow := by
  rw [closed]
  split <;> rfl

/-- What was closed early is closed later as well. -/
private theorem closed_closed {earlier later : Seconds} (ordered : earlier ≤ later) :
    (standing.closed earlier).closed later = standing.closed later := by
  by_cases ended : standing.window.resetAt ≤ earlier
  · have endedLater := UInt64.le_trans ended ordered
    rw [show standing.closed earlier = standing.resetWindow from if_pos ended,
      closed_resetWindow, closed, if_pos endedLater]
  · rw [show standing.closed earlier = standing from if_neg ended]

private theorem closed_withOverrides (overrides : Overrides) :
    ({ standing with overrides } : Standing).closed now =
      { standing.closed now with overrides } := by
  rw [closed, closed]
  split <;> rfl

private theorem closed_withExempt (exempt : Bool) :
    ({ standing with exempt } : Standing).closed now =
      { standing.closed now with exempt } := by
  rw [closed, closed]
  split <;> rfl

private theorem clearOverrides_closed :
    (standing.closed now).clearOverrides = standing.clearOverrides.closed now := by
  rw [clearOverrides, overrides_closed]
  exact (closed_withOverrides ..).symm

/-! ### Decisions -/

private theorem waitUntil?_closed (cooldown : Seconds) :
    (standing.closed now).waitUntil? cooldown now = standing.waitUntil? cooldown now := by
  rw [waitUntil?, waitUntil?, nextAllowedAt?, nextAllowedAt?, lastTransferAt_closed]

private theorem checkCooldown_closed (cooldown : Seconds) :
    (standing.closed now).checkCooldown cooldown now = standing.checkCooldown cooldown now := by
  rw [checkCooldown, checkCooldown, waitUntil?_closed]

private theorem planConsumption_closed (limits : Limits) (amount : Amount) :
    (standing.closed now).planConsumption limits amount now =
      standing.planConsumption limits amount now := by
  rw [planConsumption, planConsumption, windowAt_closed]

/-! What is enforced of a closed window is what is enforced of the same window left open; only
a cooldown that starts leaves the window as it finds it. -/

private theorem pace_closed (limits : Limits) :
    (standing.closed now).pace limits now = (standing.pace limits now).map (·.closed now) := by
  have written : ({ standing.closed now with lastTransferAt := now } : Standing) =
      ({ standing with lastTransferAt := now } : Standing).closed now := by
    rw [closed, closed]
    split <;> rfl
  rw [pace, pace, checkCooldown_closed]
  cases standing.checkCooldown limits.cooldown now with
  | error refusal => rfl
  | ok => exact congrArg Except.ok written

private theorem withWindow_closed (window : Window) :
    ({ standing.closed now with window } : Standing) = { standing with window } := by
  rw [closed]
  split <;> rfl

private theorem consume_closed (limits : Limits) (amount : Amount) :
    (standing.closed now).consume limits amount now = standing.consume limits amount now := by
  rw [consume, consume, planConsumption_closed]
  simp only [withWindow_closed]

private theorem charge_closed (limits : Limits) (amount : Amount) :
    (standing.closed now).charge limits amount now = standing.charge limits amount now := by
  have written (window : Window) :
      ({ standing.closed now with lastTransferAt := now, window } : Standing) =
        { standing with lastTransferAt := now, window } := by
    rw [closed]
    split <;> rfl
  rw [charge, charge, planConsumption_closed, checkCooldown_closed]
  simp only [written]

end Closed

end Standing

/-! ## Limiters -/

namespace Limiter

/-- Close every window that has ended. -/
def swept (limiter : Limiter) (now : Seconds) : Limiter :=
  { limiter with standings := limiter.standings.map (·.closed now) }

section Swept

variable (limiter : Limiter) (now : Seconds) (position : Position)

@[simp] theorem standing?_swept :
    (limiter.swept now).standing? position =
      (limiter.standing? position).map (·.closed now) :=
  limiter.standings.get?_map ..

@[simp] theorem standing_swept :
    (limiter.swept now).standing position = (limiter.standing position).closed now := by
  rw [Limiter.standing, standing?_swept, Limiter.standing]
  cases limiter.standing? position with
  | none => exact (Standing.closed_fresh now).symm
  | some standing => rfl

@[simp] theorem authority_swept : (limiter.swept now).authority = limiter.authority := rfl

theorem swept_swept {earlier later : Seconds} (ordered : earlier ≤ later) :
    (limiter.swept earlier).swept later = limiter.swept later := by
  have standings : (limiter.standings.map (·.closed earlier)).map (·.closed later) =
      limiter.standings.map (·.closed later) := by
    refine Table.ext_get? fun key => ?_
    rw [Table.get?_map, Table.get?_map, Table.get?_map, Option.map_map]
    exact congrArg (fun change => (limiter.standings.get? key).map change)
      (funext fun standing => standing.closed_closed ordered)
  rw [swept, swept, swept, standings]

/-! ### Reads -/

@[simp] theorem isExempt_swept :
    (limiter.swept now).isExempt position = limiter.isExempt position := by
  rw [isExempt, isExempt, standing_swept, Standing.exempt_closed]

@[simp] theorem defaultLimits_swept (asset : Address) :
    (limiter.swept now).defaultLimits asset = limiter.defaultLimits asset := rfl

@[simp] theorem enforcedLimits_swept :
    (limiter.swept now).enforcedLimits position = limiter.enforcedLimits position := by
  rw [enforcedLimits, enforcedLimits, standing_swept, Standing.limits_closed,
    defaultLimits_swept]

theorem effectiveLimits_swept :
    (limiter.swept now).effectiveLimits position = limiter.effectiveLimits position := by
  rw [effectiveLimits, effectiveLimits, enforcedLimits_swept, isExempt_swept]

theorem remainingAllowance_swept :
    (limiter.swept now).remainingAllowance position now =
      limiter.remainingAllowance position now := by
  simp only [remainingAllowance, Standing.remaining, isExempt_swept, enforcedLimits_swept,
    standing_swept, Standing.windowAt_closed]

theorem nextValidTransferTime_swept :
    (limiter.swept now).nextValidTransferTime position now =
      limiter.nextValidTransferTime position now := by
  rw [nextValidTransferTime, nextValidTransferTime, isExempt_swept, enforcedLimits_swept,
    standing_swept, Standing.waitUntil?_closed]

theorem view_swept : (limiter.swept now).view position now = limiter.view position now := by
  simp only [view, remainingAllowance_swept, nextValidTransferTime_swept,
    effectiveLimits_swept, isExempt_swept]

/-! ### Writes -/

private theorem swept_withStanding (standing : Standing) :
    (limiter.withStanding position standing).swept now =
      (limiter.swept now).withStanding position (standing.closed now) := by
  simp only [swept, withStanding, Table.map_insert]

private theorem swept_touch :
    (limiter.touch position).swept now = (limiter.swept now).touch position := by
  rw [touch, touch, swept_withStanding, standing_swept]

private theorem swept_amend {change : Standing → Standing}
    (closes : ∀ standing, change (standing.closed now) = (change standing).closed now) :
    (limiter.amend position change).swept now = (limiter.swept now).amend position change := by
  rw [amend, amend, standing?_swept]
  cases limiter.standing? position with
  | none => rfl
  | some standing =>
      simp only [Option.map_some, closes]
      exact swept_withStanding ..

private theorem swept_withOverrides (overrides : Overrides) :
    (limiter.withStanding position { limiter.standing position with overrides }).swept now =
      (limiter.swept now).withStanding position
        { (limiter.standing position).closed now with overrides } := by
  rw [swept_withStanding, Standing.closed_withOverrides]

private theorem swept_withExemption (exempt : Bool) :
    (limiter.withExemption position exempt).swept now =
      (limiter.swept now).withExemption position exempt := by
  rw [withExemption, withExemption, swept_withStanding, Standing.closed_withExempt,
    standing_swept]

private theorem swept_withExemptions (asset : Address) (changes : List (Address × Bool)) :
    (changes.foldl (fun limiter change => limiter.withExemption ⟨asset, change.1⟩ change.2)
        limiter).swept now =
      changes.foldl (fun limiter change => limiter.withExemption ⟨asset, change.1⟩ change.2)
        (limiter.swept now) := by
  induction changes generalizing limiter with
  | nil => rfl
  | cons change rest induction =>
      rw [List.foldl_cons, List.foldl_cons, induction, swept_withExemption]

end Swept

/-! ## Calls

A call to a limiter whose ended windows were closed before is answered alike and publishes
the same, and the two limiters are equal again once their ended windows are closed. -/

/-- The limiters differ in ended windows at most. -/
def SameAt (now : Seconds) (left right : Limiter) : Prop :=
  left.swept now = right.swept now

section Calls

variable {now : Seconds}

theorem sameAt_swept (limiter : Limiter) : SameAt now (limiter.swept now) limiter :=
  limiter.swept_swept UInt64.le_rfl

theorem SameAt.later {left right : Limiter} {later : Seconds} (same : SameAt now left right)
    (ordered : now ≤ later) : SameAt later left right := by
  rw [SameAt, ← left.swept_swept ordered, ← right.swept_swept ordered, same]

variable (limiter : Limiter)

private theorem related_assignRole_swept (caller : Address) (role : Role) (account : Address)
    (held : Bool) :
    Outcome.Related (SameAt now) ((limiter.swept now).assignRole caller role account held)
      (limiter.assignRole caller role account held) := by
  apply Authority.related_reassign (sameAt_swept limiter)
  exact fun authority => sameAt_swept { limiter with authority }

private theorem related_updateDefaults_swept (caller asset : Address) (change : Limits → Limits) :
    Outcome.Related (SameAt now) ((limiter.swept now).updateDefaults caller asset change)
      (limiter.updateDefaults caller asset change) := by
  apply Outcome.Related.guarded _ (sameAt_swept limiter)
  apply Outcome.related_accepted
  exact sameAt_swept { limiter with defaults := _ }

private theorem related_updateOverrides_swept (caller : Address) (position : Position)
    (change : Overrides → Overrides) :
    Outcome.Related (SameAt now) ((limiter.swept now).updateOverrides caller position change)
      (limiter.updateOverrides caller position change) := by
  simp only [updateOverrides, standing_swept, Standing.overrides_closed,
    ← swept_withOverrides]
  apply Outcome.Related.guarded _ (sameAt_swept limiter)
  apply Outcome.related_accepted
  exact sameAt_swept _

private theorem related_amend_swept (caller : Address) (position : Position)
    {change : Standing → Standing}
    (closes : ∀ standing, change (standing.closed now) = (change standing).closed now)
    (events : List Event) :
    Outcome.Related (SameAt now)
      (.guarded (limiter.swept now) (limiter.authority.require .limitManager caller) <|
        .accepted ((limiter.swept now).amend position change) events [])
      (.guarded limiter (limiter.authority.require .limitManager caller) <|
        .accepted (limiter.amend position change) events []) := by
  rw [← swept_amend limiter now position closes]
  apply Outcome.Related.guarded _ (sameAt_swept limiter)
  apply Outcome.related_accepted
  exact sameAt_swept _

private theorem related_setExemptions_swept (caller asset : Address) (accounts : List Address)
    (exempt : List Bool) :
    Outcome.Related (SameAt now)
      ((limiter.swept now).setExemptions caller asset accounts exempt)
      (limiter.setExemptions caller asset accounts exempt) := by
  simp only [setExemptions, ← swept_withExemptions]
  apply Outcome.Related.guarded _ (sameAt_swept limiter)
  apply Outcome.Related.guarded _ (sameAt_swept limiter)
  apply Outcome.related_accepted
  exact sameAt_swept _

/-- What is decided on a closed window may differ from what is decided on the same window left
open as far as closing it makes no difference, and as far as no event tells. -/
private theorem related_commit_swept {position : Position} {defaults : Limits}
    {judge : Standing → Limits → Except Refusal Standing}
    {report : Limiter → Standing → Outcome Limiter} (change : Standing → Standing)
    (judges : ∀ standing limits,
      judge (standing.closed now) limits = (judge standing limits).map change)
    (closes : ∀ standing, (change standing).closed now = standing.closed now)
    (reported : ∀ left right standing, SameAt now left right →
      Outcome.Related (SameAt now) (report left (change standing)) (report right standing)) :
    Outcome.Related (SameAt now) ((limiter.swept now).commit position defaults judge report)
      (limiter.commit position defaults judge report) := by
  have touched : SameAt now ((limiter.swept now).touch position) (limiter.touch position) := by
    rw [← swept_touch]
    exact sameAt_swept _
  simp only [commit, standing_swept, Standing.exempt_closed, Standing.limits_closed, judges]
  split
  · exact Outcome.related_accepted touched [] [] []
  · cases judge (limiter.standing position) ((limiter.standing position).limits defaults) with
    | error refusal => exact Outcome.related_refused touched refusal
    | ok judged =>
        refine reported _ _ judged ?_
        rw [SameAt, swept_withStanding, swept_withStanding, closes,
          limiter.swept_swept UInt64.le_rfl]

/-- What a consumption writes is the same for a closed window and for one left open. -/
private theorem related_consumption_swept {position : Position} {defaults : Limits}
    {judge : Standing → Limits → Except Refusal Standing} (amount : Amount)
    (judges : ∀ standing limits,
      judge (standing.closed now) limits = judge standing limits) :
    Outcome.Related (SameAt now)
      ((limiter.swept now).commit position defaults judge
        (reportConsumption position amount))
      (limiter.commit position defaults judge (reportConsumption position amount)) := by
  refine limiter.related_commit_swept id ?judges ?closes ?reported
  case judges =>
    intro standing limits
    rw [judges]
    exact (id_map _).symm
  case closes => exact fun _ => rfl
  case reported => exact fun _ _ _ same => Outcome.related_accepted same ..

private theorem related_enforceCooldown_swept (caller : Address) (position : Position) :
    Outcome.Related (SameAt now) ((limiter.swept now).enforceCooldown now caller position)
      (limiter.enforceCooldown now caller position) := by
  apply Outcome.Related.guarded _ (sameAt_swept limiter)
  refine limiter.related_commit_swept (·.closed now) ?judges ?closes ?reported
  case judges => exact fun standing limits => standing.pace_closed now limits
  case closes => exact fun standing => standing.closed_closed UInt64.le_rfl
  case reported => exact fun _ _ _ same => Outcome.related_accepted same ..

private theorem related_recordTransfer_swept (caller : Address) (position : Position)
    (amount : Amount) :
    Outcome.Related (SameAt now)
      ((limiter.swept now).recordTransfer now caller position amount)
      (limiter.recordTransfer now caller position amount) := by
  apply Outcome.Related.guarded _ (sameAt_swept limiter)
  apply related_consumption_swept
  exact fun standing limits => standing.consume_closed now limits amount

private theorem related_charge_swept (caller : Address) (position : Position) (amount : Amount) :
    Outcome.Related (SameAt now) ((limiter.swept now).charge now caller position amount)
      (limiter.charge now caller position amount) := by
  apply Outcome.Related.guarded _ (sameAt_swept limiter)
  apply related_consumption_swept
  exact fun standing limits => standing.charge_closed now limits amount

theorem related_perform_swept (caller : Address) (command : Command) :
    Outcome.Related (SameAt now) ((limiter.swept now).perform now caller command)
      (limiter.perform now caller command) := by
  have same : SameAt now (limiter.swept now) limiter := sameAt_swept limiter
  cases command with
  | assignManager account held => exact limiter.related_assignRole_swept ..
  | assignCaller account held => exact limiter.related_assignRole_swept ..
  | setDefaultCap asset cap => exact (limiter.related_updateDefaults_swept ..).guarded same _
  | setDefaultCooldown asset cooldown =>
      exact limiter.related_updateDefaults_swept caller asset fun limits =>
        { limits with cooldown }
  | setDefaultPeriod asset quota period =>
      exact (limiter.related_updateDefaults_swept ..).guarded same _
  | setDefaultLimits asset limits =>
      exact (limiter.related_updateDefaults_swept ..).guarded same _
  | setUserCap position cap => exact (limiter.related_updateOverrides_swept ..).guarded same _
  | setUserCooldown position cooldown =>
      exact limiter.related_updateOverrides_swept caller position (·.setCooldown cooldown)
  | setUserPeriod position quota period =>
      exact (limiter.related_updateOverrides_swept ..).guarded same _
  | setUserLimits position limits =>
      exact (limiter.related_updateOverrides_swept ..).guarded same _
  | resetUserLimits position =>
      exact limiter.related_amend_swept caller position
        (fun standing => standing.clearOverrides_closed now) _
  | resetUserPeriod position =>
      refine limiter.related_amend_swept caller position (fun standing => ?_) _
      rw [standing.resetWindow_closed, standing.closed_resetWindow]
  | setExemptions asset accounts exempt => exact limiter.related_setExemptions_swept ..
  | enforceCooldown position => exact limiter.related_enforceCooldown_swept caller position
  | recordTransfer position amount =>
      exact limiter.related_recordTransfer_swept caller position amount
  | charge position amount => exact limiter.related_charge_swept caller position amount

private theorem related_regrant_swept (caller : Address) (role : Role) (account : Address)
    (held : Bool) :
    Outcome.Related (SameAt now) ((limiter.swept now).regrant caller role account held)
      (limiter.regrant caller role account held) := by
  simp only [regrant, authority_swept]
  split
  next refusal _ => exact Outcome.related_refused (sameAt_swept limiter) refusal
  next authority _ _ =>
    have same : SameAt now ({ limiter with authority }.swept now) { limiter with authority } :=
      sameAt_swept _
    exact Outcome.related_accepted same [] [] []

theorem related_handle_swept (request : Request) :
    Outcome.Related (SameAt now) ((limiter.swept now).handle ⟨now, request⟩)
      (limiter.handle ⟨now, request⟩) := by
  cases request with
  | perform caller command => exact limiter.related_perform_swept caller command
  | regrant caller role account held =>
      exact limiter.related_regrant_swept caller role account held

/-- A call is a request, or no more than a look at what the limiter shows. -/
def attend (call : Timed (Option Request)) : Outcome Limiter :=
  match call.command with
  | none => .accepted limiter [] []
  | some request => limiter.handle ⟨call.now, request⟩

/-- The clock is read, the windows that have ended are closed, and then the call is carried
out as ever. -/
def attendOnTime (call : Timed (Option Request)) : Outcome Limiter :=
  (limiter.swept call.now).attend call

theorem related_attend_swept (call : Timed (Option Request)) :
    Outcome.Related (SameAt call.now) ((limiter.swept call.now).attend call)
      (limiter.attend call) := by
  rcases call with ⟨now, command⟩
  cases command with
  | none => exact Outcome.related_accepted (sameAt_swept limiter) [] [] []
  | some request => exact limiter.related_handle_swept request

end Calls

/-! ## Runs -/

section Runs

variable {left right : Limiter} {before : Seconds}

theorem related_attendOnTime (same : SameAt before left right)
    {call : Timed (Option Request)} (ordered : before ≤ call.now) :
    Outcome.Related (SameAt call.now) (left.attendOnTime call) (right.attend call) := by
  have closed : left.swept call.now = right.swept call.now := same.later ordered
  rw [attendOnTime, closed]
  exact right.related_attend_swept call

theorem seen_attendOnTime (same : SameAt before left right)
    {calls : List (Timed (Option Request))} (future : ∀ call ∈ calls, before ≤ call.now)
    (ordered : calls.Pairwise fun earlier later => earlier.now ≤ later.now) :
    (Run.trace attendOnTime left calls).map Step.seen =
        (Run.trace attend right calls).map Step.seen ∧
      ∀ now, before ≤ now → (∀ call ∈ calls, call.now ≤ now) →
        SameAt now (Run.final attendOnTime left calls) (Run.final attend right calls) := by
  -- After each call the two are the same at its time, which is where the rest begins.
  induction calls generalizing left right before with
  | nil => exact ⟨rfl, fun now later _ => same.later later⟩
  | cons call rest induction =>
      rcases List.pairwise_cons.mp ordered with ⟨first, ordered⟩
      have related := related_attendOnTime same (future call List.mem_cons_self)
      have further := induction related.world first ordered
      refine ⟨?_, ?_⟩
      · have head : Step.seen ⟨call, left.attendOnTime call⟩ =
            Step.seen ⟨call, right.attend call⟩ := by
          rw [Step.seen, Step.seen, related.answer, related.events]
        rw [Run.trace, Run.trace, List.map_cons, List.map_cons, head, further.1]
      · intro now _ passed
        exact further.2 now (passed call List.mem_cons_self)
          fun other member => passed other (.tail call member)

end Runs

/-- As long as the clock does not go back, nothing tells a limiter that works out ended
windows when they matter from one that closes them on time: every call has the same answer and
publishes the same events, and whenever the clock is read after them, all that is asked of any
position has the same reply. On the one side a window is then closed or has not ended, and its
total is the one worked out on the other. -/
theorem closed_on_time (start : Limiter) {calls : List (Timed (Option Request))}
    (ordered : calls.Pairwise fun earlier later => earlier.now ≤ later.now) :
    (Run.trace attendOnTime start calls).map Step.seen =
        (Run.trace attend start calls).map Step.seen ∧
      ∀ now, (∀ call ∈ calls, call.now ≤ now) → ∀ position,
        let onTime := (Run.final attendOnTime start calls).swept now
        let limiter := Run.final attend start calls
        ((onTime.standing position).window = ⟨.zero, 0⟩ ∨
            now < (onTime.standing position).window.resetAt) ∧
          (∀ period, (onTime.standing position).window.total =
            ((limiter.standing position).windowAt period now).total) ∧
          onTime.remainingAllowance position now = limiter.remainingAllowance position now ∧
          onTime.nextValidTransferTime position now =
            limiter.nextValidTransferTime position now ∧
          onTime.effectiveLimits position = limiter.effectiveLimits position ∧
          onTime.view position now = limiter.view position now := by
  have same : SameAt 0 start start := rfl
  have run := seen_attendOnTime same (fun _ _ => UInt64.zero_le) ordered
  refine ⟨run.1, fun now passed position => ?_⟩
  intro onTime limiter
  have swept : onTime = limiter.swept now := run.2 now UInt64.zero_le passed
  rw [swept, standing_swept]
  refine ⟨Standing.window_closed .., ?_, ?_, ?_, ?_, ?_⟩
  · exact fun period => (Standing.total_windowAt ..).symm
  · exact limiter.remainingAllowance_swept now position
  · exact limiter.nextValidTransferTime_swept now position
  · exact limiter.effectiveLimits_swept now position
  · exact limiter.view_swept now position

namespace Sample

/-- The window that the charge opens ends at 4600. Nothing is consumed after that: one call
is refused, one passes the cooldown only. -/
def rotatedCalls : List (Timed (Option Request)) :=
  [⟨1000, some authorize⟩,
    ⟨1000, some (charge (.ofNat 50))⟩,
    ⟨4600, none⟩,
    ⟨5000, some (record (.ofNat 90))⟩,
    ⟨5000, some (.perform service (.enforceCooldown position))⟩]

end Sample

theorem closed_on_time_sample :
    let limiter := Run.final attend Sample.start Sample.rotatedCalls
    let onTime := (Run.final attendOnTime Sample.start Sample.rotatedCalls).swept 6000
    (limiter.standing Sample.position).window = ⟨.ofNat 50, 4600⟩ ∧
      (onTime.standing Sample.position).window = ⟨.zero, 0⟩ ∧
      (Run.trace attendOnTime Sample.start Sample.rotatedCalls).map Step.seen =
        (Run.trace attend Sample.start Sample.rotatedCalls).map Step.seen ∧
      onTime.view Sample.position 6000 = limiter.view Sample.position 6000 := by
  have ordered : Sample.rotatedCalls.Pairwise fun earlier later => earlier.now ≤ later.now := by
    decide
  have passed : ∀ call ∈ Sample.rotatedCalls, call.now ≤ 6000 := by decide
  have run := closed_on_time Sample.start ordered
  refine ⟨rfl, rfl, run.1, ?_⟩
  exact (run.2 6000 passed Sample.position).2.2.2.2.2

end Limiter

end Turnstile
