import Turnstile.Proofs.Service.Restart

namespace Turnstile

/-! Restarts after the limiter was exchanged. What assets without defaults of their own fall
back to belongs to the limiter in use, but it is not in its snapshot: a service that is started
again takes it from its configuration. A restart therefore keeps all limits that were set for
assets and for accounts. The others it keeps only if the limiter that was put in place last
falls back to what is configured. -/

/-! ## Other defaults -/

/-- Either defaults leave the limits in force the same. What is overridden does not matter,
and of an exempt account only the period does. -/
structure Standing.Indifferent (standing : Standing) (first second : Limits) : Prop where
  period : standing.overrides.hasPeriod = false → first.period = second.period
  quota : standing.exempt = false → standing.overrides.hasPeriod = false →
    first.quota = second.quota
  cap : standing.exempt = false → standing.overrides.hasCap = false → first.cap = second.cap
  cooldown : standing.exempt = false → standing.overrides.hasCooldown = false →
    first.cooldown = second.cooldown

private theorem ite_left_inj {Item : Type} (chosen : Bool) (item first second : Item) :
    ((if chosen then item else first) = if chosen then item else second) ↔
      (chosen = false → first = second) := by
  cases chosen <;> simp

theorem Overrides.apply_eq_apply_iff {overrides : Overrides} {first second : Limits} :
    overrides.apply first = overrides.apply second ↔
      (overrides.hasCap = false → first.cap = second.cap) ∧
        (overrides.hasCooldown = false → first.cooldown = second.cooldown) ∧
          (overrides.hasPeriod = false → first.quota = second.quota) ∧
            (overrides.hasPeriod = false → first.period = second.period) := by
  simp only [apply, Limits.mk.injEq, ite_left_inj]

namespace Limiter

def withFallback (limiter : Limiter) (fallback : Limits) : Limiter :=
  { limiter with fallback }

theorem ofSnapshot_of_snapshot (limiter : Limiter) (fallback : Limits) :
    ofSnapshot fallback limiter.snapshot = limiter.withFallback fallback := by
  simp only [ofSnapshot, snapshot, withFallback, Table.ofList_entries, Authority.ofGrants_toList]

variable {limiter : Limiter} {fallback : Limits}

private theorem defaultLimits_of_contains {asset : Address}
    (set : limiter.defaults.contains asset = true) :
    (limiter.withFallback fallback).defaultLimits asset = limiter.defaultLimits asset := by
  rcases Option.isSome_iff_exists.mp set with ⟨limits, found⟩
  simp only [defaultLimits, withFallback, found, Option.getD_some]

private theorem defaultLimits_of_not_contains {asset : Address}
    (unset : limiter.defaults.contains asset = false) :
    limiter.defaultLimits asset = limiter.fallback := by
  rw [defaultLimits, Option.isSome_eq_false_iff.mp unset |> Option.isNone_iff_eq_none.mp]
  rfl

theorem defaultLimits_withFallback_iff {asset : Address} :
    (limiter.withFallback fallback).defaultLimits asset = limiter.defaultLimits asset ↔
      limiter.defaults.contains asset = true ∨ fallback = limiter.fallback := by
  cases set : limiter.defaults.contains asset with
  | true => exact iff_of_true (defaultLimits_of_contains set) (.inl rfl)
  | false =>
      have unset : (limiter.withFallback fallback).defaults.contains asset = false := set
      rw [defaultLimits_of_not_contains set, defaultLimits_of_not_contains unset]
      exact ⟨.inr, fun cases => cases.resolve_left Bool.false_ne_true⟩

private theorem effectiveLimits_eq_iff {left right : Limiter} {position : Position}
    (same : left.standing position = right.standing position) :
    left.effectiveLimits position = right.effectiveLimits position ↔
      (right.standing position).Indifferent (left.defaultLimits position.asset)
        (right.defaultLimits position.asset) := by
  have alike : left.isExempt position = right.isExempt position := congrArg Standing.exempt same
  simp only [effectiveLimits, alike, enforcedLimits, Standing.limits, same]
  cases exempt : right.isExempt position with
  | true =>
      have uncounted : (right.standing position).exempt ≠ false := fun counted =>
        nomatch exempt.symm.trans counted
      simp only [if_true, Limits.mk.injEq, true_and, Overrides.apply, ite_left_inj]
      exact ⟨fun period => ⟨period, (absurd · uncounted), (absurd · uncounted),
        (absurd · uncounted)⟩, Standing.Indifferent.period⟩
  | false =>
      have counted : (right.standing position).exempt = false := exempt
      simp only [Bool.false_eq_true, if_false, Overrides.apply_eq_apply_iff]
      constructor
      · rintro ⟨cap, cooldown, quota, period⟩
        exact ⟨period, fun _ => quota, fun _ => cap, fun _ => cooldown⟩
      · intro indifferent
        exact ⟨indifferent.cap counted, indifferent.cooldown counted,
          indifferent.quota counted, indifferent.period⟩

theorem effectiveLimits_withFallback_iff {position : Position} :
    (limiter.withFallback fallback).effectiveLimits position = limiter.effectiveLimits position ↔
      limiter.defaults.contains position.asset = true ∨
        (limiter.standing position).Indifferent fallback limiter.fallback := by
  have same : (limiter.withFallback fallback).standing position = limiter.standing position := rfl
  rw [effectiveLimits_eq_iff same]
  cases set : limiter.defaults.contains position.asset with
  | true =>
      rw [defaultLimits_of_contains set]
      exact iff_of_true ⟨fun _ => rfl, fun _ _ => rfl, fun _ _ => rfl, fun _ _ => rfl⟩ (.inl rfl)
  | false =>
      have unset : (limiter.withFallback fallback).defaults.contains position.asset = false := set
      rw [defaultLimits_of_not_contains set, defaultLimits_of_not_contains unset]
      exact ⟨.inr, fun cases => cases.resolve_left Bool.false_ne_true⟩

end Limiter

/-! ## Exchanges -/

namespace Checkpoint

def withFallback (checkpoint : Checkpoint) (fallback : Limits) : Checkpoint :=
  { checkpoint with limiter := checkpoint.limiter.withFallback fallback }

/-- The limiter that the request puts in place, if it is accepted. -/
def Request.limiter? : Request → Option Limiter
  | .execute (.gate (.replaceLimiter _ limiter)) => some limiter
  | _ => none

section Exchange

variable {checkpoint : Checkpoint} {identity : Address} {fallback : Limits}

/-- What is given anew need not be what there was. -/
theorem Restorable.ofSnapshot_of_snapshot
    (restorable : checkpoint.Restorable identity fallback) (other : Limits) (now : Seconds) :
    ofSnapshot identity other (checkpoint.snapshot now) = .ok (checkpoint.withFallback other) := by
  have gate := Gate.ofSnapshot_snapshot restorable.canonical
  rw [restorable.identity] at gate
  rw [ofSnapshot, snapshot, gate]
  simp only [Limiter.ofSnapshot_of_snapshot, Whitelist.ofSnapshot_snapshot]
  rfl

/-- What the limiter falls back to that the step has put in place, if it has. -/
def exchanged? {World : Type} (step : Step World (Timed Request)) : Option Limits :=
  if step.accepted then step.call.command.limiter?.map Limiter.fallback else none

/-- Another whitelist changes nothing of what has to be given anew. -/
private theorem keeps_of_limiter?_eq_none (restorable : checkpoint.Restorable identity fallback)
    (now : Seconds) {request : Request} (other : request.limiter? = none) :
    (checkpoint.handle now request).Keeps (Restorable identity fallback) := by
  cases replaces : request.replaces with
  | false => exact keeps_handle restorable now fun holds => nomatch replaces.symm.trans holds
  | true =>
      unfold Request.replaces at replaces
      split at replaces
      · exact Outcome.Keeps.guarded
          ⟨restorable.identity, restorable.fallback, restorable.canonical⟩ restorable _
      · cases other
      · cases replaces

/-- Only another limiter that is put in place brings other limits to fall back to. -/
theorem restorable_handle (restorable : checkpoint.Restorable identity fallback)
    (call : Timed Request) :
    let outcome := checkpoint.handle call.now call.command
    outcome.world.Restorable identity ((exchanged? ⟨call, outcome⟩).getD fallback) := by
  intro outcome
  rcases call with ⟨now, request⟩
  unfold exchanged?
  cases exchange : request.limiter? with
  | none =>
      have kept := keeps_of_limiter?_eq_none restorable now exchange
      simp only [Option.map_none, ite_self, Option.getD_none]
      exact kept.kept
  | some limiter =>
      unfold Request.limiter? at exchange
      split at exchange
      next caller limiter =>
          cases exchange
          have shape : outcome = .guarded checkpoint
              (checkpoint.gate.authority.require .admin caller)
              (.accepted { checkpoint with limiter } [.collaboratorReplaced .limiter] []) := rfl
          rw [shape]
          cases checkpoint.gate.authority.require .admin caller with
          | ok => exact ⟨restorable.identity, rfl, restorable.canonical⟩
          | error refusal => exact restorable
      next => cases exchange

end Exchange

end Checkpoint

theorem Site.Restorable.checkpoint {identity : Address} {fallback : Limits} {site : Site}
    (restorable : site.Restorable identity fallback) :
    site.checkpoint.Restorable identity fallback := by
  cases restorable with
  | single _ restorable => exact restorable

/-! ## Restarts -/

namespace Service

open Checkpoint (exchanged?)

variable {identity : Address} {fallback : Limits} {service running : Service}

def limiter (service : Service) : Limiter :=
  service.site.checkpoint.limiter

/-- What the limiter falls back to that was put in place last. -/
def lastExchanged? (steps : List (Step Service (Timed Checkpoint.Request))) : Option Limits :=
  steps.reverse.findSome? exchanged?

private theorem lastExchanged?_cons (step : Step Service (Timed Checkpoint.Request))
    (rest : List (Step Service (Timed Checkpoint.Request))) :
    lastExchanged? (step :: rest) = (lastExchanged? rest).or (exchanged? step) := by
  have single : [step].findSome? exchanged? = exchanged? step := by
    cases found : exchanged? step <;> simp [found]
  rw [lastExchanged?, List.reverse_cons, List.findSome?_append, single]
  rfl

private theorem path_final (service : Service) (calls : List (Timed Checkpoint.Request)) :
    (Run.final handle service calls).path = service.path :=
  Run.final_of_step (fun other : Service => other.path = service.path) (fun _ _ same => same) rfl
    calls

theorem restorable_lastExchanged
    (restorable : service.site.checkpoint.Restorable identity fallback)
    (calls : List (Timed Checkpoint.Request)) :
    (Run.final handle service calls).site.checkpoint.Restorable identity
      ((lastExchanged? (Run.trace handle service calls)).getD fallback) := by
  induction calls generalizing service fallback with
  | nil => exact restorable
  | cons call rest induction =>
      have place : (service.handle call).world.site.checkpoint =
          (service.site.checkpoint.handle call.now call.command).world :=
        Site.checkpoint_withCheckpoint ..
      have step : (service.handle call).world.site.checkpoint.Restorable identity
          ((exchanged? ⟨call, service.handle call⟩).getD fallback) := by
        rw [place]
        exact Checkpoint.restorable_handle restorable call
      rw [Run.trace, lastExchanged?_cons, Option.getD_or]
      exact induction step

private theorem exists_save {place : String} (path : running.path = some place) {present : Storage}
    (free : present ≠ .blocked) :
    running.save? present = some (.holding running.snapshot.toText) := by
  rw [save?, path]
  cases present with
  | vacant | holding => rfl
  | blocked => exact absurd rfl free

section Restarted

variable {configuration : Configuration} {seeds : Seeds} {storage present : Storage}
  {began : Seconds} {started : Service} {place : String}

private theorem restorable_of_bootstrapped (read : Seeds.ofConfiguration configuration = .ok seeds)
    (bootstrapped : (start configuration storage began).answer = .ok started)
    (calls : List (Timed Checkpoint.Request)) :
    (Run.final handle started calls).site.checkpoint.Restorable seeds.identity
      ((lastExchanged? (Run.trace handle started calls)).getD seeds.fallback) :=
  restorable_lastExchanged (restorable_of_start read bootstrapped).site.checkpoint calls

/-- Of the limiter that was in use, all but what it falls back to is there again. -/
theorem exists_restarted (read : Seeds.ofConfiguration configuration = .ok seeds)
    (bootstrapped : (start configuration storage began).answer = .ok started)
    (persistent : configuration.persistence.path? = some place) (free : present ≠ .blocked)
    (calls : List (Timed Checkpoint.Request)) (restart : Seconds) :
    let running := Run.final handle started calls
    ∃ stored, running.save? present = some stored ∧
      (start configuration stored restart).answer =
        .ok ⟨.ofCheckpoint restart (running.site.checkpoint.withFallback seeds.fallback),
          some place⟩ := by
  intro running
  have path : running.path = some place :=
    (path_final started calls).trans
      ((restorable_of_start read bootstrapped).path.trans persistent)
  have saved := exists_save path free
  refine ⟨_, saved, ?_⟩
  rw [save?, path] at saved
  rw [start_of_load read persistent (Storage.load_of_store? saved rfl)]
  have restorable := restorable_of_bootstrapped read bootstrapped calls
  exact answer_ofSnapshot (restorable.ofSnapshot_of_snapshot _ _) (some place) restart

end Restarted

/-- A service that is saved and started again under its configuration has the limits that it
had, apart from those that assets without defaults of their own fall back to: these are the
configured ones again, whatever limiter was put in place last. -/
theorem limits_restarted {configuration : Configuration} {storage : Storage} {began : Seconds}
    {started : Service} {place : String}
    (bootstrapped : (start configuration storage began).answer = .ok started)
    (persistent : configuration.persistence.path? = some place) {present : Storage}
    (free : present ≠ .blocked) (calls : List (Timed Checkpoint.Request)) (restart : Seconds) :
    let running := Run.final handle started calls
    ∃ stored restored fallback, running.save? present = some stored ∧
      (start configuration stored restart).answer = .ok restored ∧
      configuration.limits.fallback.resolve "limits.fallback" = .ok fallback ∧
      running.limiter.fallback =
        (lastExchanged? (Run.trace handle started calls)).getD fallback ∧
      (∀ asset, restored.limiter.defaultLimits asset = running.limiter.defaultLimits asset ↔
        running.limiter.defaults.contains asset = true ∨ fallback = running.limiter.fallback) ∧
      ∀ position,
        restored.limiter.effectiveLimits position = running.limiter.effectiveLimits position ↔
          running.limiter.defaults.contains position.asset = true ∨
            (running.limiter.standing position).Indifferent fallback running.limiter.fallback := by
  intro running
  rcases exists_seeds_of_start bootstrapped with ⟨seeds, read⟩
  rcases exists_restarted read bootstrapped persistent free calls restart with
    ⟨stored, saved, restarted⟩
  have restorable := restorable_of_bootstrapped read bootstrapped calls
  refine ⟨stored, _, seeds.fallback, saved, restarted,
    (Seeds.readFrom_of_ofConfiguration read).fallback, restorable.fallback, ?defaults,
    ?effective⟩
  case defaults => exact fun asset => Limiter.defaultLimits_withFallback_iff
  case effective => exact fun position => Limiter.effectiveLimits_withFallback_iff

namespace Sample

/-- A limiter with a cap for everything. -/
def capped : Limiter :=
  (Limiter.founded (address 2) { Limits.unlimited with cap := .ofNat 10 }).toOption.get rfl

def exchange : List (Timed Checkpoint.Request) :=
  [⟨5, .execute (.gate (.replaceLimiter (address 2) capped))⟩]

/-- Then one asset is given defaults of its own, one account a cap of its own, and another
account is exempted. -/
def settled : List (Timed Checkpoint.Request) :=
  exchange ++
    [⟨5, .execute (.limiter (address 2) (.assignManager (address 2) true))⟩,
      ⟨6, .execute (.limiter (address 2) (.setDefaultCooldown (address 6) 30))⟩,
      ⟨7, .execute (.limiter (address 2) (.setUserCap ⟨address 5, address 4⟩ (.ofNat 20)))⟩,
      ⟨8, .execute (.limiter (address 2) (.setExemptions (address 5) [address 7] [true]))⟩]

end Sample

/-- The asset with its own defaults keeps the limits of all its accounts. Of the other asset,
the account with its own cap keeps its limits, and so does the exempt one. Everyone else there
had the cap of the limiter that was put in place, and loses it. -/
theorem limits_restarted_sample :
    let running := Run.final handle Sample.started Sample.settled
    let own := Sample.address 6
    let other := Sample.address 5
    ∃ stored restored, running.save? .vacant = some stored ∧
      (start Sample.first stored 9).answer = .ok restored ∧
      running.limiter.fallback.cap = .ofNat 10 ∧
      restored.limiter.defaultLimits own = running.limiter.defaultLimits own ∧
      restored.limiter.defaultLimits other ≠ running.limiter.defaultLimits other ∧
      (∀ account, restored.limiter.effectiveLimits ⟨own, account⟩ =
        running.limiter.effectiveLimits ⟨own, account⟩) ∧
      restored.limiter.effectiveLimits ⟨other, Sample.address 4⟩ =
        running.limiter.effectiveLimits ⟨other, Sample.address 4⟩ ∧
      restored.limiter.effectiveLimits ⟨other, Sample.address 7⟩ =
        running.limiter.effectiveLimits ⟨other, Sample.address 7⟩ ∧
      restored.limiter.effectiveLimits ⟨other, Sample.address 3⟩ ≠
        running.limiter.effectiveLimits ⟨other, Sample.address 3⟩ := by
  intro running own other
  rcases limits_restarted Sample.bootstrapped rfl (nofun : Storage.vacant ≠ .blocked)
      Sample.settled 9 with
    ⟨stored, restored, fallback, saved, restarted, configured, -, defaults, effective⟩
  cases (Except.ok.inj configured : Limits.unlimited = fallback)
  have set : running.limiter.defaults.contains own = true := by decide +kernel
  have unset : running.limiter.defaults.contains other ≠ true := by decide +kernel
  refine ⟨stored, restored, saved, restarted, ?cap, ?kept, ?changed, ?all, ?overridden,
    ?exempt, ?bare⟩
  case cap => decide +kernel
  case kept => exact (defaults own).mpr (.inl set)
  case changed =>
    have differs : Limits.unlimited ≠ running.limiter.fallback := by decide +kernel
    exact fun same => ((defaults other).mp same).elim unset differs
  case all => exact fun account => (effective ⟨own, account⟩).mpr (.inl set)
  case overridden =>
    refine (effective ⟨other, Sample.address 4⟩).mpr (.inr ⟨?_, ?_, ?_, ?_⟩)
    all_goals decide +kernel
  case exempt =>
    refine (effective ⟨other, Sample.address 7⟩).mpr (.inr ⟨?_, ?_, ?_, ?_⟩)
    all_goals decide +kernel
  case bare =>
    intro same
    have indifferent := ((effective ⟨other, Sample.address 3⟩).mp same).resolve_left unset
    have counted : (running.limiter.standing ⟨other, Sample.address 3⟩).exempt = false := by
      decide +kernel
    have differs : Limits.unlimited.cap ≠ running.limiter.fallback.cap := by decide +kernel
    exact differs (indifferent.cap counted (by decide +kernel))

/-- The cap is gone after the restart. -/
theorem limits_lost_sample :
    let running := Run.final handle Sample.started Sample.exchange
    ∃ stored restored, running.save? .vacant = some stored ∧
      (start Sample.first stored 9).answer = .ok restored ∧
      restored.limiter.defaultLimits (Sample.address 5) ≠
        running.limiter.defaultLimits (Sample.address 5) ∧
      restored.limiter.effectiveLimits ⟨Sample.address 5, Sample.address 3⟩ ≠
        running.limiter.effectiveLimits ⟨Sample.address 5, Sample.address 3⟩ := by
  intro running
  rcases exists_seeds_of_start Sample.bootstrapped with ⟨seeds, read⟩
  rcases exists_restarted read Sample.bootstrapped rfl (nofun : Storage.vacant ≠ .blocked)
    Sample.exchange 9 with ⟨stored, saved, restarted⟩
  have configured : seeds.fallback = .unlimited :=
    (Except.ok.inj (Seeds.readFrom_of_ofConfiguration read).fallback).symm
  rw [configured] at restarted
  refine ⟨stored, _, saved, restarted, ?_, ?_⟩
  · decide +kernel
  · decide +kernel

end Service

end Turnstile
