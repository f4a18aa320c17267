import Turnstile.Proofs.Checkpoint.Tally
import Turnstile.Proofs.Ledger.Rebuilding

namespace Turnstile

/-! Snapshots in any shape and their normal form. Lists of a snapshot may repeat entries and
stand in any order. What is captured of components restored from it says the same with every
list in order and no entry too many, so it is determined by the content of the components,
however they came by it. -/

private theorem Authority.lists_ofGrants (grants : List Grant) :
    Lists rank (· ∈ grants) (ofGrants grants).toList :=
  KeySet.lists_ofKeys grants

/-! ## Components -/

namespace Whitelist

/-- The members and the grants are sets. -/
structure Snapshot.Normalizes (normal given : Snapshot) : Prop where
  enabled : normal.enabled = given.enabled
  members : Lists rank (· ∈ given.members) normal.members
  roles : Lists rank (· ∈ given.roles) normal.roles

theorem normalizes_ofSnapshot (given : Snapshot) :
    (ofSnapshot given).snapshot.Normalizes given where
  enabled := rfl
  members := KeySet.lists_ofKeys given.members
  roles := Authority.lists_ofGrants given.roles

namespace Snapshot.Normalizes

variable {given normal other : Snapshot}

theorem again (normalizes : normal.Normalizes given) : normal.Normalizes normal :=
  ⟨rfl, normalizes.members.again, normalizes.roles.again⟩

theorem unique (normalizes : normal.Normalizes given) (same : other.Normalizes given) :
    normal = other := by
  cases normal
  cases other
  rw [Snapshot.mk.injEq]
  exact ⟨normalizes.enabled.trans same.enabled.symm, normalizes.members.unique same.members,
    normalizes.roles.unique same.roles⟩

end Snapshot.Normalizes

end Whitelist

namespace Limiter

/-- The last entry counts for every asset and for every position. -/
structure Snapshot.Normalizes (normal given : Snapshot) : Prop where
  defaults : Lists placeOf (LastOf given.defaults) normal.defaults
  standings : Lists placeOf (LastOf given.standings) normal.standings
  roles : Lists rank (· ∈ given.roles) normal.roles

theorem normalizes_ofSnapshot (fallback : Limits) (given : Snapshot) :
    (ofSnapshot fallback given).snapshot.Normalizes given where
  defaults := Table.lists_ofList given.defaults
  standings := Table.lists_ofList given.standings
  roles := Authority.lists_ofGrants given.roles

namespace Snapshot.Normalizes

variable {given normal other : Snapshot}

theorem again (normalizes : normal.Normalizes given) : normal.Normalizes normal where
  defaults := normalizes.defaults.again.congr fun _ =>
    (lastOf_iff_mem normalizes.defaults.ascending).symm
  standings := normalizes.standings.again.congr fun _ =>
    (lastOf_iff_mem normalizes.standings.ascending).symm
  roles := normalizes.roles.again

theorem unique (normalizes : normal.Normalizes given) (same : other.Normalizes given) :
    normal = other := by
  cases normal
  cases other
  rw [Snapshot.mk.injEq]
  exact ⟨normalizes.defaults.unique same.defaults, normalizes.standings.unique same.standings,
    normalizes.roles.unique same.roles⟩

end Snapshot.Normalizes

end Limiter

namespace Gate

/-- There is one record for every position of which the records say more than zero in all. -/
structure Snapshot.Normalizes (normal given : Snapshot) : Prop where
  switches : normal.switches = given.switches
  roles : Lists rank (· ∈ given.roles) normal.roles
  balances : Lists placeOf (Ledger.Sums given.balances) normal.balances

theorem exists_ofSnapshot_iff {identity : Address} {given : Snapshot} :
    (∃ gate, ofSnapshot identity given = .ok gate) ↔
      ∀ asset, Ledger.amountOf asset given.balances < Amount.count := by
  rw [← Ledger.exists_ofRecords_iff, ofSnapshot]
  constructor
  · rintro ⟨gate, restored⟩
    rcases exists_of_bind_eq_ok restored with ⟨ledger, rebuilt, _⟩
    exact ⟨ledger, rebuilt⟩
  · rintro ⟨ledger, rebuilt⟩
    rw [rebuilt]
    exact ⟨_, rfl⟩

variable {identity : Address} {given : Snapshot} {gate : Gate}

theorem normalizes_ofSnapshot (restored : ofSnapshot identity given = .ok gate) :
    gate.snapshot.Normalizes given := by
  rcases exists_of_bind_eq_ok restored with ⟨ledger, rebuilt, done⟩
  cases done
  exact ⟨rfl, Authority.lists_ofGrants given.roles, Ledger.lists_records rebuilt⟩

theorem ofSnapshot_of_perm (restored : ofSnapshot identity given = .ok gate)
    {balances : List (Position × Amount)} (perm : given.balances.Perm balances) :
    ofSnapshot identity { given with balances } = .ok gate := by
  rcases exists_of_bind_eq_ok restored with ⟨ledger, rebuilt, done⟩
  cases done
  rw [ofSnapshot, Ledger.ofRecords_of_perm perm rebuilt]
  rfl

theorem supply_ofSnapshot (restored : ofSnapshot identity given = .ok gate) (asset : Address) :
    (gate.ledger.supply asset).toNat = Ledger.amountOf asset given.balances := by
  rcases exists_of_bind_eq_ok restored with ⟨ledger, rebuilt, done⟩
  cases done
  exact Ledger.supply_ofRecords rebuilt asset

namespace Snapshot.Normalizes

variable {normal other : Snapshot}

theorem again (normalizes : normal.Normalizes given) : normal.Normalizes normal :=
  ⟨rfl, normalizes.roles.again, Ledger.lists_sums_again normalizes.balances⟩

theorem unique (normalizes : normal.Normalizes given) (same : other.Normalizes given) :
    normal = other := by
  cases normal
  cases other
  rw [Snapshot.mk.injEq]
  exact ⟨normalizes.switches.trans same.switches.symm, normalizes.roles.unique same.roles,
    normalizes.balances.unique same.balances⟩

end Snapshot.Normalizes

end Gate

/-! ## All three -/

/-- One snapshot says of the components what the other one says, in the normal form. -/
structure Snapshot.Normalizes (normal given : Snapshot) : Prop where
  whitelist : normal.whitelist.Normalizes given.whitelist
  limiter : normal.limiter.Normalizes given.limiter
  gate : normal.gate.Normalizes given.gate

/-- Two snapshots say the same of the components, in the same form. -/
structure Snapshot.SameParts (left right : Snapshot) : Prop where
  whitelist : left.whitelist = right.whitelist
  limiter : left.limiter = right.limiter
  gate : left.gate = right.gate

namespace Snapshot.Normalizes

variable {given normal other : Snapshot}

theorem again (normalizes : normal.Normalizes given) : normal.Normalizes normal :=
  ⟨normalizes.whitelist.again, normalizes.limiter.again, normalizes.gate.again⟩

theorem unique (normalizes : normal.Normalizes given) (same : other.Normalizes given) :
    normal.SameParts other :=
  ⟨normalizes.whitelist.unique same.whitelist, normalizes.limiter.unique same.limiter,
    normalizes.gate.unique same.gate⟩

end Snapshot.Normalizes

namespace Checkpoint

/-- What the stores of a gate and its collaborators hold, however they are written down. What
is not part of a snapshot is left out. -/
structure SameContent (left right : Checkpoint) : Prop where
  enabled : left.whitelist.enabled = right.whitelist.enabled
  members : ∀ account, left.whitelist.isMember account = right.whitelist.isMember account
  defaults : ∀ asset, left.limiter.defaults.get? asset = right.limiter.defaults.get? asset
  standings : ∀ position, left.limiter.standing? position = right.limiter.standing? position
  switches : left.gate.switches = right.gate.switches
  balances : ∀ position,
    left.gate.ledger.balance position = right.gate.ledger.balance position
  grants : ∀ component role account,
    (left.authority component).holds role account =
      (right.authority component).holds role account

section

variable {left right : Checkpoint} {identity : Address} {fallback : Limits} {given : Snapshot}
  {rebuilt : Checkpoint}

theorem SameContent.snapshot (same : left.SameContent right) (leftBook : left.KeepsBook)
    (rightBook : right.KeepsBook) (now : Seconds) : left.snapshot now = right.snapshot now := by
  have authority (component : Component) :
      left.authority component = right.authority component :=
    Authority.ext_holds (same.grants component)
  have members : left.whitelist.members = right.whitelist.members :=
    KeySet.ext_contains same.members
  have defaults : left.limiter.defaults = right.limiter.defaults :=
    Table.ext_get? same.defaults
  have standings : left.limiter.standings = right.limiter.standings :=
    Table.ext_get? same.standings
  have ledger : left.gate.ledger = right.gate.ledger :=
    leftBook.ext rightBook same.balances
  have whitelistAuthority := authority .whitelist
  have limiterAuthority := authority .limiter
  have gateAuthority := authority .gate
  simp only [Checkpoint.authority] at whitelistAuthority limiterAuthority gateAuthority
  simp only [Checkpoint.snapshot, Whitelist.snapshot, Limiter.snapshot, Gate.snapshot,
    same.enabled, same.switches, members, defaults, standings, ledger, whitelistAuthority,
    limiterAuthority, gateAuthority]

private theorem keepsBook_of_origin (origin : left.gate.Origin) : left.KeepsBook := by
  rw [KeepsBook]
  cases origin with
  | founded founded =>
      rw [(Gate.fields_of_founded founded).2]
      exact Ledger.canonical_empty
  | restored restored =>
      rcases exists_of_bind_eq_ok restored with ⟨ledger, rebuilt, done⟩
      rw [← Except.ok.inj done]
      exact Ledger.canonical_ofRecords rebuilt

theorem keepsBook_final (origin : left.gate.Origin) (calls : List (Timed Request)) :
    (Run.final handleAt left calls).KeepsBook :=
  Run.final_of_step KeepsBook (fun _ call kept => (kept.handle call.now call.command).kept)
    (keepsBook_of_origin origin) calls

/-! ## Restoring -/

theorem ofSnapshot_eq_ok_iff :
    ofSnapshot identity fallback given = .ok rebuilt ↔
      Gate.ofSnapshot identity given.gate = .ok rebuilt.gate ∧
        rebuilt.whitelist = Whitelist.ofSnapshot given.whitelist ∧
        rebuilt.limiter = Limiter.ofSnapshot fallback given.limiter := by
  rw [ofSnapshot]
  constructor
  · intro restored
    rcases exists_of_bind_eq_ok restored with ⟨gate, rebuilt, done⟩
    cases done
    exact ⟨rebuilt, rfl, rfl⟩
  · rintro ⟨restored, whitelist, limiter⟩
    cases rebuilt
    cases whitelist
    cases limiter
    rw [restored]
    rfl

theorem exists_ofSnapshot_iff :
    (∃ rebuilt, ofSnapshot identity fallback given = .ok rebuilt) ↔
      ∀ asset, Ledger.amountOf asset given.gate.balances < Amount.count := by
  rw [← Gate.exists_ofSnapshot_iff]
  constructor
  · rintro ⟨rebuilt, restored⟩
    exact ⟨rebuilt.gate, (ofSnapshot_eq_ok_iff.mp restored).1⟩
  · rintro ⟨gate, restored⟩
    exact ⟨⟨gate, _, _⟩, ofSnapshot_eq_ok_iff.mpr ⟨restored, rfl, rfl⟩⟩

theorem ofSnapshot_of_perm (restored : ofSnapshot identity fallback given = .ok rebuilt)
    {balances : List (Position × Amount)} (perm : given.gate.balances.Perm balances) :
    ofSnapshot identity fallback { given with gate.balances := balances } = .ok rebuilt := by
  rcases ofSnapshot_eq_ok_iff.mp restored with ⟨gate, others⟩
  exact ofSnapshot_eq_ok_iff.mpr ⟨Gate.ofSnapshot_of_perm gate perm, others⟩

theorem normalizes_ofSnapshot (restored : ofSnapshot identity fallback given = .ok rebuilt)
    (now : Seconds) : (rebuilt.snapshot now).Normalizes given := by
  rcases ofSnapshot_eq_ok_iff.mp restored with ⟨gate, whitelist, limiter⟩
  refine ⟨?_, ?_, Gate.normalizes_ofSnapshot gate⟩
  · rw [snapshot, whitelist]
    exact Whitelist.normalizes_ofSnapshot given.whitelist
  · rw [snapshot, limiter]
    exact Limiter.normalizes_ofSnapshot fallback given.limiter

end

/-- A gate is restored from a snapshot just where a supply can hold the sum of the records of
every asset, and in every order of them alike. Its supplies are these sums. What is captured of
it and of its collaborators is the normal form of the snapshot, and they are restored from that
as they were. There is one normal form, and it is its own. Wherever runs since the origins of
two gates have led, the same content is captured in the same way. -/
theorem capture_normalized (identity : Address) (fallback : Limits) (given : Snapshot)
    (now : Seconds) :
    ((∃ rebuilt, ofSnapshot identity fallback given = .ok rebuilt) ↔
        ∀ asset, Ledger.amountOf asset given.gate.balances < Amount.count) ∧
      (∀ rebuilt, ofSnapshot identity fallback given = .ok rebuilt →
        (∀ balances, given.gate.balances.Perm balances →
          ofSnapshot identity fallback { given with gate.balances := balances } =
            .ok rebuilt) ∧
        (∀ asset, (rebuilt.gate.ledger.supply asset).toNat =
          Ledger.amountOf asset given.gate.balances) ∧
        (rebuilt.snapshot now).Normalizes given ∧
        ofSnapshot identity fallback (rebuilt.snapshot now) = .ok rebuilt) ∧
      (∀ normal : Snapshot, normal.Normalizes given →
        normal.Normalizes normal ∧
          ∀ other : Snapshot, other.Normalizes given → normal.SameParts other) ∧
      (∀ left right : Checkpoint, left.gate.Origin → right.gate.Origin →
        ∀ leftCalls rightCalls,
          let leftFinal := Run.final handleAt left leftCalls
          let rightFinal := Run.final handleAt right rightCalls
          leftFinal.SameContent rightFinal →
            leftFinal.snapshot now = rightFinal.snapshot now) := by
  refine ⟨exists_ofSnapshot_iff, ?rebuilt, ?normal, ?reached⟩
  case rebuilt =>
    intro rebuilt restored
    refine ⟨fun balances => ofSnapshot_of_perm restored, ?_, ?_, ?_⟩
    · exact Gate.supply_ofSnapshot (ofSnapshot_eq_ok_iff.mp restored).1
    · exact normalizes_ofSnapshot restored now
    · exact (restorable_ofSnapshot restored).ofSnapshot_snapshot now
  case normal =>
    intro normal normalizes
    exact ⟨normalizes.again, fun other => normalizes.unique⟩
  case reached =>
    intro left right leftOrigin rightOrigin leftCalls rightCalls leftFinal rightFinal same
    exact same.snapshot (keepsBook_final leftOrigin leftCalls)
      (keepsBook_final rightOrigin rightCalls) now

end Checkpoint

namespace Sample

/-- Nothing is in order, and one of the members and two of the positions come twice. -/
def untidy : Snapshot where
  version := Snapshot.currentVersion
  takenAt := 900
  whitelist := ⟨true, [payee, payer, payee], [⟨.admin, admin⟩]⟩
  limiter :=
    { defaults := [(asset, .unlimited), (asset, checkpoint.limiter.fallback)]
      standings := []
      roles := [⟨.caller, identity⟩, ⟨.admin, admin⟩] }
  gate :=
    { switches := .initial
      roles := grants
      balances :=
        [(⟨asset, payee⟩, .ofNat 5), (⟨asset, payer⟩, .ofNat 60), (⟨asset, payee⟩, .zero),
          (⟨asset, payer⟩, .ofNat 30), (⟨asset, admin⟩, .zero)] }

def tidy : Snapshot where
  version := Snapshot.currentVersion
  takenAt := 1000
  whitelist := ⟨true, [payer, payee], [⟨.admin, admin⟩]⟩
  limiter :=
    { defaults := [(asset, checkpoint.limiter.fallback)]
      standings := []
      roles := [⟨.admin, admin⟩, ⟨.caller, identity⟩] }
  gate :=
    { switches := .initial
      roles := grants
      balances := [(⟨asset, payer⟩, .ofNat 90), (⟨asset, payee⟩, .ofNat 5)] }

end Sample

theorem Checkpoint.capture_normalized_sample :
    ∃ rebuilt,
      ofSnapshot Sample.identity .unlimited Sample.untidy = .ok rebuilt ∧
        rebuilt.snapshot 1000 = Sample.tidy ∧ Sample.tidy.Normalizes Sample.untidy ∧
        (rebuilt.gate.ledger.supply Sample.asset).toNat =
          Ledger.amountOf Sample.asset Sample.untidy.gate.balances := by
  have captured :
      (ofSnapshot Sample.identity .unlimited Sample.untidy).map
        (fun rebuilt => rebuilt.snapshot 1000) = .ok Sample.tidy := by
    decide +kernel
  cases restored : ofSnapshot Sample.identity .unlimited Sample.untidy with
  | error refusal =>
      rw [restored] at captured
      cases captured
  | ok rebuilt =>
      rw [restored] at captured
      have tidied : rebuilt.snapshot 1000 = Sample.tidy := Except.ok.inj captured
      have normalized := capture_normalized Sample.identity .unlimited Sample.untidy 1000
      have ⟨_, supplies, normalizes, _⟩ := normalized.2.1 rebuilt restored
      exact ⟨rebuilt, rfl, tidied, tidied ▸ normalizes, supplies Sample.asset⟩

end Turnstile
