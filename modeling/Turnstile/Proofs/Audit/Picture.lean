import Mathlib.Data.List.Chain
import Mathlib.Logic.Function.Basic
import Turnstile.Proofs.Authority
import Turnstile.Proofs.Run
import Turnstile.Whitelist

namespace Turnstile

/-! What an auditor knows who sees nothing but events. From the first event on, each is noted
in a picture of the component that publishes it: the settings, the flags and the totals that
it tells, and every grant and revocation. -/

structure Audit where
  /-- The grants (`true`) and revocations of a role, the latest first. -/
  flags : Grant → List Bool
  member : Address → Bool
  enabled : Bool
  defaults : Address → Option Limits
  exempt : Position → Bool
  total : Position → Amount
  paused : Bool
  whitelistChecks : Bool
  limitChecks : Bool
  /-- How often the switches of a gate were set. -/
  revisions : Nat

namespace Audit

/-- What is known of new components. -/
def new : Audit where
  flags _ := []
  member _ := false
  enabled := true
  defaults _ := none
  exempt _ := false
  total _ := .zero
  paused := false
  whitelistChecks := true
  limitChecks := true
  revisions := 0

def assign (audit : Audit) (role : Role) (account : Address) (held : Bool) : Audit :=
  { audit with
    flags := Function.update audit.flags ⟨role, account⟩ (held :: audit.flags ⟨role, account⟩) }

def withTotal (audit : Audit) (position : Position) (total : Amount) : Audit :=
  { audit with total := Function.update audit.total position total }

def note (audit : Audit) : Event → Audit
  | .whitelistUpdated account whitelisted =>
      { audit with member := Function.update audit.member account whitelisted }
  | .whitelistingToggled enabled => { audit with enabled }
  | .roleGranted role account _ => audit.assign role account true
  | .roleRevoked role account _ => audit.assign role account false
  | .defaultLimitsUpdated asset limits =>
      { audit with defaults := Function.update audit.defaults asset (some limits) }
  | .exemptionUpdated asset account exempt =>
      { audit with exempt := Function.update audit.exempt ⟨asset, account⟩ exempt }
  | .transferRecorded asset account _ total => audit.withTotal ⟨asset, account⟩ total
  | .userPeriodReset asset account => audit.withTotal ⟨asset, account⟩ .zero
  | .configUpdated limitChecks whitelistChecks =>
      { audit with limitChecks, whitelistChecks, revisions := audit.revisions + 1 }
  | .paused _ => { audit with paused := true, revisions := audit.revisions + 1 }
  | .unpaused _ => { audit with paused := false, revisions := audit.revisions + 1 }
  | .userLimitsUpdated .. | .userLimitsReset .. => audit
  | .collaboratorReplaced .. | .tokensRecovered .. | .transfer .. => audit

def ofEvents (events : List Event) : Audit :=
  events.foldl note new

/-- What the latest flag of a grant says, if there is one. -/
def holds (audit : Audit) (role : Role) (account : Address) : Bool :=
  (audit.flags ⟨role, account⟩).headD false

end Audit

theorem update_eq_ite {Key Value : Type} [DecidableEq Key] (values : Key → Value)
    (key sought : Key) (value : Value) :
    Function.update values key value sought = if key = sought then value else values sought := by
  rw [Function.update_apply]
  simp only [eq_comm]

/-! ## Calls -/

/-- Who hears the events of the call, and knew how things were before, knows how they are. -/
structure Outcome.Informs {World : Type} (Informed : Audit → World → Prop) (audit : Audit)
    (outcome : Outcome World) : Prop where
  informed : Informed (outcome.events.foldl Audit.note audit) outcome.world

namespace Outcome

variable {World : Type} {Informed : Audit → World → Prop} {audit : Audit} {world : World}

theorem informs_refused (informed : Informed audit world) (refusal : Refusal) :
    (refused world refusal).Informs Informed audit :=
  ⟨informed⟩

theorem Informs.guarded {outcome : Outcome World} (informs : outcome.Informs Informed audit)
    (informed : Informed audit world) (check : Except Refusal Unit) :
    (Outcome.guarded world check outcome).Informs Informed audit := by
  cases check with
  | ok => exact informs
  | error refusal => exact informs_refused informed refusal

end Outcome

/-! ## Flags and revisions in the events -/

/-- What the event says of a grant. -/
def Event.flag? (grant : Grant) : Event → Option Bool
  | .roleGranted role account _ => if (⟨role, account⟩ : Grant) = grant then some true else none
  | .roleRevoked role account _ => if (⟨role, account⟩ : Grant) = grant then some false else none
  | _ => none

/-- The event tells that the switches of a gate were set. -/
def Event.revises : Event → Bool
  | .configUpdated .. | .paused _ | .unpaused _ => true
  | _ => false

namespace Audit

private theorem flags_assign (audit : Audit) (role : Role) (account : Address) (held : Bool)
    (grant : Grant) :
    (audit.assign role account held).flags grant =
      (if (⟨role, account⟩ : Grant) = grant then some held else none).toList ++
        audit.flags grant := by
  by_cases same : (⟨role, account⟩ : Grant) = grant
  · subst same
    simp [assign]
  · simp [assign, Function.update_of_ne (Ne.symm same), same]

private theorem flags_note (audit : Audit) (event : Event) (grant : Grant) :
    (audit.note event).flags grant = (event.flag? grant).toList ++ audit.flags grant := by
  cases event with
  | roleGranted role account => exact audit.flags_assign role account true grant
  | roleRevoked role account => exact audit.flags_assign role account false grant
  | _ => rfl

theorem flags_foldl (audit : Audit) (events : List Event) (grant : Grant) :
    (events.foldl note audit).flags grant =
      (events.filterMap (Event.flag? grant)).reverse ++ audit.flags grant := by
  induction events generalizing audit with
  | nil => rfl
  | cons event rest induction =>
      rw [List.foldl_cons, induction, flags_note]
      cases flag : event.flag? grant with
      | none => rw [List.filterMap_cons_none flag]; rfl
      | some held => rw [List.filterMap_cons_some flag]; simp

theorem revisions_foldl (audit : Audit) (events : List Event) :
    (events.foldl note audit).revisions = audit.revisions + events.countP Event.revises := by
  induction events generalizing audit with
  | nil => rfl
  | cons event rest induction =>
      rw [List.foldl_cons, induction, List.countP_cons]
      cases event <;> simp [note, assign, withTotal, Event.revises] <;> omega

end Audit

/-! ## Grants -/

/-- The flags tell the grants of a table, except those of administrators, and each flag of a
grant turns over what the one before it has left. -/
structure Authority.Told (flags : Grant → List Bool) (authority : Authority) : Prop where
  held : ∀ role account, role ≠ .admin →
    (flags ⟨role, account⟩).headD false = authority.holds role account
  turns : ∀ grant, (flags grant ++ [false]).IsChain (· ≠ ·)

namespace Authority

variable {authority changed : Authority} {caller account : Address} {role : Role}
  {held turns : Bool} {audit : Audit}

/-- A new table has one administrator and nobody else. -/
theorem told_of_founded {admin : Address}
    (founded : Authority.founded admin = .ok authority) : authority.Told Audit.new.flags where
  held role account named := by
    have other : ¬rank (⟨.admin, admin⟩ : Grant) = rank (⟨role, account⟩ : Grant) := by
      intro same
      cases rank_eq_iff.mp same
      exact named rfl
    rw [Authority.founded] at founded
    split at founded
    next => cases founded
    next =>
      cases founded
      rw [holds, ofGrants, KeySet.ofKeys, Table.contains, List.map_singleton, Table.ofList,
        List.foldl_cons, List.foldl_nil, Table.get?_insert, if_neg other]
      rfl
  turns _ := .singleton _

theorem Told.kept (told : authority.Told audit.flags)
    (assigned : authority.assign caller role account held = .ok (changed, false)) :
    changed.Told audit.flags := by
  refine ⟨fun other who named => ?_, told.turns⟩
  rw [told.held other who named, holds_of_assign assigned]
  split
  next same =>
    cases same
    simpa using turns_of_assign assigned
  next => rfl

theorem Told.turned (told : authority.Told audit.flags) (named : role ≠ .admin)
    (assigned : authority.assign caller role account held = .ok (changed, true)) :
    changed.Told (audit.assign role account held).flags := by
  have before := told.held role account named
  have turns := turns_of_assign assigned
  refine ⟨fun other who unnamed => ?_, fun grant => ?_⟩
  · rw [holds_of_assign assigned, Audit.flags_assign]
    by_cases same : (⟨role, account⟩ : Grant) = ⟨other, who⟩
    · simp [same]
    · simpa [same] using told.held other who unnamed
  · rw [Audit.flags_assign]
    by_cases same : (⟨role, account⟩ : Grant) = grant
    · -- The grant has turned, so the new flag is not what the latest one has left.
      subst same
      have latest : (audit.flags ⟨role, account⟩ ++ [false]).head? =
          some (authority.holds role account) := by
        rw [← before]
        cases audit.flags ⟨role, account⟩ <;> rfl
      rw [if_pos rfl, Option.toList_some, List.append_assoc, List.singleton_append,
        List.isChain_cons]
      refine ⟨fun other found => ?_, told.turns _⟩
      rw [latest] at found
      cases found
      exact (bne_iff_ne.mp turns.symm).symm
    · simpa [same] using told.turns grant

/-- A table is told all along by the events that announce its changes. -/
theorem informs_reassign {World : Type} {Informed : Audit → World → Prop} {world : World}
    (told : authority.Told audit.flags) (informed : Informed audit world)
    {install : Authority → World} (named : role ≠ .admin)
    (installed : ∀ flags changed, changed.Told flags →
      Informed { audit with flags } (install changed)) :
    (authority.reassign world install caller role account held).Informs Informed audit := by
  rw [reassign]
  split
  next => exact Outcome.informs_refused informed _
  next changed assigned => exact ⟨installed audit.flags changed (told.kept assigned)⟩
  next changed assigned =>
    refine ⟨?_⟩
    have noted := installed _ changed (told.turned named assigned)
    cases held <;> exact noted

end Authority

end Turnstile
