import Turnstile.Proofs.Limiter.Isolation
import Turnstile.Proofs.Limiter.Window

namespace Turnstile.Limiter

/-! Exemptions. A position that is exempt is let pass by every caller, for any amount at any
time, and nothing of it is kept: whatever is asked before and after, and however often the
exemption is given and taken back, goes as if those calls had not been made. -/

section Waived

variable {limiter : Limiter}

theorem perform_of_exempt {caller : Address} {position : Position}
    (authorized : limiter.authority.holds .caller caller = true)
    (exempt : limiter.isExempt position = true) (now : Seconds) (enforcement : Enforcement) :
    limiter.perform now caller (enforcement.command position) =
      .accepted (limiter.touch position) [] [] := by
  have granted : limiter.authority.require .caller caller = .ok () := if_pos authorized
  cases enforcement with
  | pace =>
      change limiter.enforceCooldown now caller position = _
      rw [enforceCooldown, granted, Outcome.guarded_ok, commit_of_exempt exempt]
  | consume amount =>
      change limiter.recordTransfer now caller position amount = _
      rw [recordTransfer, granted, Outcome.guarded_ok, commit_of_exempt exempt]
  | charge amount =>
      change limiter.charge now caller position amount = _
      rw [charge, granted, Outcome.guarded_ok, commitCharge, commit_of_exempt exempt]

/-- A caller holds a position to its limits, but it is exempt. -/
def Waived (limiter : Limiter) (call : Timed Request) : Prop :=
  ∃ caller position enforcement,
    call.command = .perform caller (Enforcement.command position enforcement) ∧
      limiter.authority.holds .caller caller = true ∧ limiter.isExempt position = true

theorem Waived.alike {call : Timed Request} (waived : limiter.Waived call) :
    limiter.Alike (limiter.handle call).world := by
  rcases call with ⟨now, _⟩
  rcases waived with ⟨caller, position, enforcement, rfl, authorized, exempt⟩
  change limiter.Alike (limiter.perform now caller (enforcement.command position)).world
  rw [perform_of_exempt authorized exempt]
  exact .touch limiter position

end Waived

/-- Callers hold an exempt position to no limits: they are let pass in silence and leave
nothing behind. Of a run, such calls can be left out, all of them or any, and everything else
is answered as before. In the end, no standing and no limit tells the difference, and nothing
that is read of them; a read on the way is one at the end of the calls before it. -/
theorem exempt_untraced :
    (∀ (limiter : Limiter) caller position,
        limiter.authority.holds .caller caller = true → limiter.isExempt position = true →
          ∀ now (enforcement : Enforcement),
            let outcome := limiter.perform now caller (enforcement.command position)
            outcome.answer = .ok () ∧ outcome.events = [] ∧ limiter.Alike outcome.world) ∧
      (∀ (start : Limiter) calls steps, Run.Thinned handle Waived start calls steps →
        let rest := steps.map Step.call
        (Run.trace handle start rest).map Step.seen = steps.map Step.seen ∧
          (Run.final handle start calls).Alike (Run.final handle start rest) ∧
          ∀ position, ReadAlike position (Run.final handle start calls)
            (Run.final handle start rest)) := by
  constructor
  · intro limiter caller position authorized exempt now enforcement outcome
    have accepted : outcome = .accepted (limiter.touch position) [] [] :=
      perform_of_exempt authorized exempt now enforcement
    rw [accepted]
    exact ⟨rfl, rfl, .touch limiter position⟩
  · intro start calls steps thinned rest
    have dropped (left right : Limiter) (call : Timed Request) (waived : left.Waived call)
        (alike : left.Alike right) : (left.handle call).world.Alike right :=
      waived.alike.symm.trans alike
    have kept (step : Step Limiter (Timed Request)) (_ : step ∈ steps) (left right : Limiter)
        (alike : left.Alike right) :
        Outcome.Related Alike (left.handle step.call) (right.handle step.call) :=
      congruence_alike.related_handle alike step.call.command.target.within_everything
    have seen := Run.seen_thinned thinned dropped kept (.refl start)
    exact ⟨seen.1, seen.2, seen.2.readAlike⟩

/-! ### An account that is exempt for a while -/

namespace Sample

/-- What is charged under the exemption is far beyond the cap. -/
def waivedCalls : List (Timed Request) :=
  [⟨1000, authorize⟩, ⟨1000, exempt true⟩, ⟨1001, charge (.ofNat 1000)⟩, ⟨1002, exempt false⟩,
    ⟨1003, charge (.ofNat 40)⟩]

private theorem thinned_waivedCalls :
    Run.Thinned handle Waived start waivedCalls
      ((Run.trace handle start waivedCalls).eraseIdx 2) := by
  have waived : Waived (Run.final handle start (waivedCalls.take 2))
      ⟨1001, charge (.ofNat 1000)⟩ := ⟨service, position, .charge (.ofNat 1000), rfl, rfl, rfl⟩
  exact .keep (.keep (.drop waived (.keep (.keep (.nil _)))))

end Sample

theorem exempt_untraced_sample :
    (Run.final handle Sample.start (Sample.waivedCalls.take 2)).isExempt Sample.position = true ∧
      (Run.final handle Sample.start Sample.waivedCalls).Alike
        (Run.final handle Sample.start (Sample.waivedCalls.eraseIdx 2)) :=
  ⟨rfl, (exempt_untraced.2 _ _ _ Sample.thinned_waivedCalls).2.1⟩

end Turnstile.Limiter
