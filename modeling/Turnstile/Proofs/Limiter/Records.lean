import Turnstile.Proofs.Limiter.Validity
import Turnstile.Proofs.Limiter.Window

namespace Turnstile

/-! The records that a limiter keeps. Limits are checked before they are stored, so every
limit leaves room, and zero, which stands for "never", is never the end of a window that
something is counted in. Stored times only move forward, whatever the clock does; a reset by
a limit manager is the one way back. -/

namespace Seconds

private theorem le_deadline (start delay : Seconds) : start ≤ deadline start delay := by
  have bound : start.toNat < UInt64.size := start.toNat_lt
  rw [UInt64.le_iff_toNat_le, toNat_deadline]
  omega

private theorem deadline_ne_zero (start : Seconds) {delay : Seconds} (lasting : delay ≠ 0) :
    deadline start delay ≠ 0 := by
  have positive : delay.toNat ≠ 0 := fun zero => lasting (UInt64.toNat_inj.mp zero)
  have bound : delay.toNat < UInt64.size := delay.toNat_lt
  intro never
  have least := toNat_deadline start delay
  rw [never, UInt64.toNat_zero] at least
  omega

end Seconds

/-! ## Windows -/

/-- Where no end is stored, nothing is counted. -/
def Window.Closed (window : Window) : Prop :=
  window.resetAt = 0 → window.total = .zero

private theorem Window.closed_of_resetAt {window : Window} (opened : window.resetAt ≠ 0) :
    window.Closed :=
  fun never => absurd never opened

namespace Standing

private theorem resetAt_le_windowAt (standing : Standing) (period now : Seconds) :
    standing.window.resetAt ≤ (standing.windowAt period now).resetAt := by
  rw [windowAt]
  split
  next ended =>
    rcases ended with never | past
    · rw [never]
      exact UInt64.zero_le
    · exact UInt64.le_trans past (Seconds.le_deadline now period)
  next => exact UInt64.le_refl _

private theorem resetAt_windowAt_ne_zero (standing : Standing) {period : Seconds}
    (lasting : period ≠ 0) (now : Seconds) : (standing.windowAt period now).resetAt ≠ 0 := by
  rw [windowAt]
  split
  next => exact Seconds.deadline_ne_zero now lasting
  next running => exact fun never => running (.inl never)

end Standing

namespace Limiter

section

variable {limiter : Limiter} {position : Position} {moment : Moment}

/-! ## Single calls -/

namespace Moment

theorem resetAt_ne_zero {amount : Amount} (limited : moment.world.WellLimited)
    (consumed : moment.consumed? position = some amount) :
    (moment.after.standing position).window.resetAt ≠ 0 := by
  have lasting := (limited.enforcedLimits position).2.2
  rw [(window_of_consumed? consumed).2.resetAt]
  exact Standing.resetAt_windowAt_ne_zero _ lasting moment.now

theorem closed_after (moment : Moment) (limited : moment.world.WellLimited)
    (closed : (moment.world.standing position).window.Closed) :
    (moment.after.standing position).window.Closed := by
  cases resets : moment.resets position with
  | true =>
      rw [window_of_resets resets]
      exact fun _ => rfl
  | false =>
      cases consumed : moment.consumed? position with
      | none =>
          rw [window_kept consumed resets]
          exact closed
      | some amount => exact Window.closed_of_resetAt (resetAt_ne_zero limited consumed)

theorem resetAt_le (unreset : moment.resets position = false) :
    (moment.world.standing position).window.resetAt ≤
      (moment.after.standing position).window.resetAt := by
  cases consumed : moment.consumed? position with
  | none =>
      rw [window_kept consumed unreset]
      exact UInt64.le_refl _
  | some amount =>
      rw [(window_of_consumed? consumed).2.resetAt]
      exact Standing.resetAt_le_windowAt ..

theorem lastTransferAt_le (moment : Moment) (position : Position) :
    (moment.world.standing position).lastTransferAt ≤
      (moment.after.standing position).lastTransferAt := by
  cases paces : moment.paces position with
  | false =>
      rw [lastTransferAt_kept paces]
      exact UInt64.le_refl _
  | true =>
      have ⟨elapsed, started⟩ := lastTransferAt_of_paces paces
      simp only [Standing.cooldownCondition, decide_eq_true_eq] at elapsed
      rw [started]
      rcases elapsed with never | passed
      · rw [never]
        exact UInt64.zero_le
      · exact UInt64.le_trans (Seconds.le_deadline ..) passed

end Moment

/-! ## Limiters -/

theorem valid_effectiveLimits (limited : limiter.WellLimited) (position : Position) :
    (limiter.effectiveLimits position).Valid := by
  have enforced := limited.enforcedLimits position
  cases exempt : limiter.isExempt position with
  | false =>
      rw [effectiveLimits_of_counted exempt]
      exact enforced
  | true =>
      have unlimited : Limits.unlimited.Valid := by decide
      rw [effectiveLimits_of_exempt exempt]
      exact ⟨unlimited.1, unlimited.2.1, enforced.2.2⟩

/-- All that is stored or in force leaves room, and no record counts in a closed window. -/
structure WellKept (limiter : Limiter) : Prop where
  fallback : limiter.fallback.Valid
  defaults : ∀ asset limits, limiter.defaults.get? asset = some limits → limits.Valid
  effective : ∀ position, (limiter.effectiveLimits position).Valid
  records : ∀ position standing, limiter.standing? position = some standing →
    standing.overrides.values.Valid ∧ standing.window.Closed

theorem WellLimited.wellKept (limited : limiter.WellLimited)
    (closed : ∀ position, (limiter.standing position).window.Closed) : limiter.WellKept where
  fallback := limited.fallback
  defaults asset limits found := by
    have valid := limited.defaults asset
    rw [defaultLimits, found] at valid
    exact valid
  effective := valid_effectiveLimits limited
  records position standing found := by
    have valid := limited.overrides position
    have shut := closed position
    rw [Limiter.standing, found] at valid shut
    exact ⟨valid, shut⟩

/-! ## Runs -/

theorem Reachable.closed (reachable : limiter.Reachable) (position : Position) :
    (limiter.standing position).window.Closed := by
  rcases reachable with ⟨admin, fallback, start, founded, calls, rfl⟩
  have first : start.WellLimited ∧ (start.standing position).window.Closed := by
    refine ⟨wellLimited_of_founded founded, ?_⟩
    rw [standing_of_founded founded]
    exact fun _ => rfl
  refine (Run.final_of_step
    (fun limiter : Limiter => limiter.WellLimited ∧ (limiter.standing position).window.Closed)
    (fun limiter call good => ?_) first calls).2
  exact ⟨good.1.handle call, Moment.closed_after ⟨limiter, call⟩ good.1 good.2⟩

theorem lastTransferAt_le_final (limiter : Limiter) (position : Position)
    (later : List (Timed Request)) :
    (limiter.standing position).lastTransferAt ≤
      ((Run.final handle limiter later).standing position).lastTransferAt := by
  refine Run.final_of_step
    (fun after : Limiter => (limiter.standing position).lastTransferAt ≤
      (after.standing position).lastTransferAt)
    (fun after call sofar => ?_) (UInt64.le_refl _) later
  exact UInt64.le_trans sofar (Moment.lastTransferAt_le ⟨after, call⟩ position)

theorem resetAt_le_final {later : List (Timed Request)}
    (unreset : ∀ moment ∈ limiter.past later, moment.resets position = false) :
    (limiter.standing position).window.resetAt ≤
      ((Run.final handle limiter later).standing position).window.resetAt := by
  refine (Run.met_of_step
    (fun after : Limiter => (limiter.standing position).window.resetAt ≤
      (after.standing position).window.resetAt) (UInt64.le_refl _)
    fun moment member sofar => ?_).2
  exact UInt64.le_trans sofar (Moment.resetAt_le (unreset moment member))

/-- In every limiter that a run leads to, whatever was asked of it and however the clock
moved, all limits leave room and no record counts in a closed window. From there on the times
stored for a position never move back, unless its window is reset; a transfer that counts
leaves a window open, and a reset empties the window as it closes it. -/
theorem records_wellKept (reachable : limiter.Reachable) :
    limiter.WellKept ∧
      ∀ (position : Position) (later : List (Timed Request)),
        let after := Run.final handle limiter later
        (limiter.standing position).lastTransferAt ≤
            (after.standing position).lastTransferAt ∧
          ((∀ moment ∈ limiter.past later, moment.resets position = false) →
            (limiter.standing position).window.resetAt ≤
              (after.standing position).window.resetAt) ∧
          ∀ moment ∈ limiter.past later,
            (∀ amount, moment.consumed? position = some amount →
              (moment.after.standing position).window.resetAt ≠ 0) ∧
            (moment.resets position = true →
              (moment.after.standing position).window = ⟨.zero, 0⟩) := by
  have limited := reachable.wellLimited
  refine ⟨limited.wellKept reachable.closed, fun position later => ?_⟩
  have met : ∀ moment ∈ limiter.past later, moment.world.WellLimited :=
    (Run.met_of_step WellLimited limited fun moment _ sound => sound.handle moment.call).1
  refine ⟨lastTransferAt_le_final limiter position later, resetAt_le_final, ?_⟩
  intro moment member
  exact ⟨fun amount => Moment.resetAt_ne_zero (met moment member), Moment.window_of_resets⟩

end

namespace Sample

/-- After the first five sample calls the window of the position is open. -/
def opened : Limiter := Run.final handle start (calls.take 5)

private theorem reachable_opened : opened.Reachable :=
  ⟨admin, fallback, start, founded, calls.take 5, rfl⟩

/-- The clock was set back to before the window was opened. -/
def earlier : Moment := ⟨opened, ⟨900, record (.ofNat 20)⟩⟩

def reset : Moment := ⟨opened, ⟨1030, .perform manager (.resetUserPeriod position)⟩⟩

end Sample

theorem records_wellKept_sample :
    Sample.opened.Reachable ∧ Sample.opened.WellKept ∧
      (Sample.earlier.consumed? Sample.position = some (.ofNat 20) ∧
        (Sample.earlier.after.standing Sample.position).window.resetAt ≠ 0) ∧
      (Sample.earlier.resets Sample.position = false ∧
        (Sample.opened.standing Sample.position).window.resetAt ≤
          (Sample.earlier.after.standing Sample.position).window.resetAt) ∧
      (Sample.reset.resets Sample.position = true ∧
        (Sample.reset.after.standing Sample.position).window = ⟨.zero, 0⟩) := by
  have ⟨kept, stays⟩ := records_wellKept Sample.reachable_opened
  have consumed : Sample.earlier.consumed? Sample.position = some (.ofNat 20) := by decide
  have unreset : Sample.earlier.resets Sample.position = false := by decide
  have resets : Sample.reset.resets Sample.position = true := by decide
  have recorded := stays Sample.position [Sample.earlier.call]
  have closed := stays Sample.position [Sample.reset.call]
  refine ⟨Sample.reachable_opened, kept, ⟨consumed, ?_⟩, ⟨unreset, ?_⟩, resets, ?_⟩
  · exact (recorded.2.2 Sample.earlier List.mem_cons_self).1 _ consumed
  · exact recorded.2.1 fun moment member => by rwa [List.mem_singleton.mp member]
  · exact (closed.2.2 Sample.reset List.mem_cons_self).2 resets

end Limiter

end Turnstile
