import Turnstile.Proofs.Ledger.Entry

namespace Turnstile.Ledger

/-! Books and the records that are kept of them. Records do not say supplies, and a balance
of zero leaves none; but supplies are the sums of balances and no book writes a zero down,
so a book is determined by its balances and rebuilt exactly from its records. -/

/-! ## Canonical books -/

/-- No entry of the table says zero. -/
structure Sparse {Key : Type} [Ranked Key] (table : Table Key Amount) : Prop where
  nonzero : ∀ key, table.get? key ≠ some .zero

section Sparse

variable {Key : Type} [Ranked Key] {table left right : Table Key Amount}

private theorem sparse_empty : Sparse (Table.empty : Table Key Amount) :=
  ⟨fun _ => nofun⟩

theorem Sparse.enter (sparse : Sparse table) (key : Key) (amount : Amount) :
    Sparse (enter table key amount) := by
  refine ⟨fun sought => ?_⟩
  rw [Ledger.enter]
  split
  next =>
    rw [Table.get?_erase]
    split
    · nofun
    · exact sparse.nonzero sought
  next some =>
    rw [Table.get?_insert]
    split
    · exact fun zero => some (Option.some.inj zero)
    · exact sparse.nonzero sought

/-- Where zero is not written down, tables are equal if they mean the same. -/
theorem Sparse.ext (leftSparse : Sparse left) (rightSparse : Sparse right)
    (agree : ∀ key, (left.get? key).getD .zero = (right.get? key).getD .zero) :
    left = right := by
  refine Table.ext_get? fun key => ?_
  have same := agree key
  have inLeft := leftSparse.nonzero key
  have inRight := rightSparse.nonzero key
  cases leftFound : left.get? key <;> cases rightFound : right.get? key <;>
    simp_all

end Sparse

structure Bare (ledger : Ledger) : Prop where
  balances : Sparse ledger.balances
  supplies : Sparse ledger.supplies

theorem Bare.setBalance {ledger : Ledger} (bare : ledger.Bare) (position : Position)
    (amount : Amount) : (ledger.setBalance position amount).Bare :=
  ⟨bare.balances.enter position amount, bare.supplies⟩

theorem Bare.setSupply {ledger : Ledger} (bare : ledger.Bare) (asset : Address)
    (amount : Amount) : (ledger.setSupply asset amount).Bare :=
  ⟨bare.balances, bare.supplies.enter asset amount⟩

structure Canonical (ledger : Ledger) : Prop where
  balanced : ledger.Balanced
  bare : ledger.Bare

section Canonical

variable {ledger after left right : Ledger} {position : Position} {amount : Amount}

theorem canonical_empty : empty.Canonical :=
  ⟨balanced_empty, sparse_empty, sparse_empty⟩

/-- The balances say all that a canonical book says. -/
theorem Canonical.ext (leftCanonical : left.Canonical) (rightCanonical : right.Canonical)
    (agree : ∀ position, left.balance position = right.balance position) : left = right := by
  have balances : left.balances = right.balances :=
    leftCanonical.bare.balances.ext rightCanonical.bare.balances agree
  have supplies : left.supplies = right.supplies := by
    refine leftCanonical.bare.supplies.ext rightCanonical.bare.supplies fun asset => ?_
    apply Amount.ext_toNat
    have leftSupply := leftCanonical.balanced asset
    have rightSupply := rightCanonical.balanced asset
    rw [held] at leftSupply rightSupply
    simp only [agree] at leftSupply
    exact leftSupply.trans rightSupply.symm
  cases left
  cases right
  simp only at balances supplies
  rw [balances, supplies]

/-! ### Entries -/

theorem Canonical.credit (canonical : ledger.Canonical)
    (credited : ledger.credit position amount = .ok after) : after.Canonical := by
  have posted := (credited ▸ follows_credit ledger position amount).described
  rcases exists_of_bind_eq_ok credited with ⟨_, _, done⟩
  cases done
  exact ⟨posted.balanced canonical.balanced, (canonical.bare.setBalance _ _).setSupply _ _⟩

theorem Canonical.debit (canonical : ledger.Canonical)
    (debited : ledger.debit position amount = .ok after) : after.Canonical := by
  have posted := (debited ▸ follows_debit canonical.balanced position amount).described
  rcases exists_of_bind_eq_ok debited with ⟨_, _, done⟩
  cases done
  exact ⟨posted.balanced canonical.balanced, (canonical.bare.setBalance _ _).setSupply _ _⟩

theorem Canonical.move (canonical : ledger.Canonical) {asset source destination : Address}
    (moved : ledger.move asset source destination amount = .ok after) : after.Canonical := by
  have posted :=
    (moved ▸ follows_move canonical.balanced asset source destination amount).described
  rcases exists_of_bind_eq_ok moved with ⟨_, _, rest⟩
  split at rest
  next =>
    cases rest
    exact canonical
  next =>
    split at rest
    next => cases rest
    next =>
      cases rest
      exact ⟨posted.balanced canonical.balanced,
        (canonical.bare.setBalance _ _).setBalance _ _⟩

theorem canonical_ofRecords {records : List (Position × Amount)}
    (rebuilt : ofRecords records = .ok ledger) : ledger.Canonical :=
  holds_of_ofRecords Canonical canonical_empty (fun canonical => canonical.credit) rebuilt

end Canonical

/-! ## Sums of records -/

def amountAt (position : Position) : List (Position × Amount) → Nat
  | [] => 0
  | record :: rest =>
      (if record.1 = position then record.2.toNat else 0) + amountAt position rest

def amountOf (asset : Address) : List (Position × Amount) → Nat
  | [] => 0
  | record :: rest =>
      (if record.1.asset = asset then record.2.toNat else 0) + amountOf asset rest

theorem sum_amountAt (asset : Address) (records : List (Position × Amount)) :
    ∑ account, amountAt ⟨asset, account⟩ records = amountOf asset records := by
  induction records with
  | nil => exact Finset.sum_const_zero
  | cons record rest induction =>
      have head : (∑ account, if record.1 = ⟨asset, account⟩ then record.2.toNat else 0) =
          if record.1.asset = asset then record.2.toNat else 0 := by
        by_cases same : record.1.asset = asset
        · simp [same, Position.ext_iff]
        · simp [same, Position.ext_iff]
      simp only [amountAt, amountOf]
      rw [Finset.sum_add_distrib, head, induction]

private theorem amountAt_eq_zero {position : Position} {records : List (Position × Amount)}
    (absent : ∀ record ∈ records, record.1 ≠ position) : amountAt position records = 0 := by
  induction records with
  | nil => rfl
  | cons record rest induction =>
      rw [amountAt, if_neg (absent record List.mem_cons_self), Nat.zero_add]
      exact induction fun other member => absent other (.tail record member)

/-- A book has at most one record of a position. -/
theorem amountAt_of_ascending {records : List (Position × Amount)}
    (ascending : Ascending records) (position : Position) :
    amountAt position records =
      ((lookupRank (rank position) records).getD .zero).toNat := by
  induction records with
  | nil => rfl
  | cons record rest induction =>
      have parts := List.pairwise_cons.mp ascending
      rw [amountAt, lookupRank]
      by_cases same : record.1 = position
      · have later : amountAt position rest = 0 := by
          refine amountAt_eq_zero fun other member equal => ?_
          have above := parts.1 other member
          rw [equal, same] at above
          exact Nat.lt_irrefl _ above
        rw [if_pos same, if_pos (congrArg rank same), later]
        rfl
      · rw [if_neg same, if_neg (mt rank_injective same), Nat.zero_add, induction parts.2]

theorem amountAt_records (ledger : Ledger) (position : Position) :
    amountAt position ledger.records = (ledger.balance position).toNat :=
  amountAt_of_ascending ledger.balances.ascending position

/-- Records that say of every position what it holds add up to the supplies. -/
theorem amountOf_eq_supply {ledger : Ledger} (balanced : ledger.Balanced)
    {records : List (Position × Amount)}
    (same : ∀ position, amountAt position records = (ledger.balance position).toNat)
    (asset : Address) : amountOf asset records = (ledger.supply asset).toNat := by
  rw [← sum_amountAt, balanced asset, held]
  exact Finset.sum_congr rfl fun account _ => same ⟨asset, account⟩

/-! ## Rebuilding -/

section Rebuilding

variable {ledger after : Ledger} {position : Position} {amount : Amount}
  {records : List (Position × Amount)}

private theorem balance_of_credit (credited : ledger.credit position amount = .ok after)
    (sought : Position) :
    (after.balance sought).toNat =
      (ledger.balance sought).toNat + if position = sought then amount.toNat else 0 := by
  have balance := (credited ▸ follows_credit ledger position amount).described.balances sought
  rw [Posting.debit_none, Posting.credit_some] at balance
  exact balance

private theorem supply_of_credit (credited : ledger.credit position amount = .ok after)
    (asset : Address) :
    (after.supply asset).toNat =
      (ledger.supply asset).toNat + if position.asset = asset then amount.toNat else 0 := by
  have supply := (credited ▸ follows_credit ledger position amount).described.supplies asset
  simpa [Posting.created, Posting.destroyed] using supply

theorem balance_of_foldlM {start : Ledger}
    (rebuilt : records.foldlM (fun ledger record => ledger.credit record.1 record.2) start =
      .ok ledger) (position : Position) :
    (ledger.balance position).toNat =
      (start.balance position).toNat + amountAt position records := by
  induction records generalizing start with
  | nil =>
      cases rebuilt
      rfl
  | cons record rest induction =>
      rw [List.foldlM_cons] at rebuilt
      rcases exists_of_bind_eq_ok rebuilt with ⟨next, credited, later⟩
      rw [induction later, balance_of_credit credited, amountAt, Nat.add_assoc]

theorem balance_ofRecords (rebuilt : ofRecords records = .ok ledger) (position : Position) :
    (ledger.balance position).toNat = amountAt position records := by
  rw [balance_of_foldlM rebuilt, balance_empty, Amount.toNat_zero, Nat.zero_add]

theorem supply_ofRecords (rebuilt : ofRecords records = .ok ledger) (asset : Address) :
    (ledger.supply asset).toNat = amountOf asset records := by
  refine (amountOf_eq_supply (balanced_ofRecords rebuilt) (fun position => ?_) asset).symm
  exact (balance_ofRecords rebuilt position).symm

private theorem credit_of_room (balanced : ledger.Balanced)
    (room : (ledger.supply position.asset).toNat + amount.toNat < Amount.count) :
    ∃ after, ledger.credit position amount = .ok after ∧ after.Balanced := by
  have share := Amount.le_iff.mp (balance_le_supply balanced position)
  have check := ensureCredit_eq_ok_iff.mpr ⟨room, by omega⟩
  have follows := follows_credit ledger position amount
  rw [check] at follows
  generalize ledger.credit position amount = credited at follows
  cases follows with
  | done posted => exact ⟨_, rfl, posted.balanced balanced⟩

/-- Records whose sums can be represented are credited one after the other. -/
theorem exists_foldlM_credit {start : Ledger} (balanced : start.Balanced)
    (records : List (Position × Amount))
    (room : ∀ asset,
      (start.supply asset).toNat + amountOf asset records < Amount.count) :
    ∃ ledger,
      records.foldlM (fun ledger record => ledger.credit record.1 record.2) start =
        .ok ledger := by
  induction records generalizing start with
  | nil => exact ⟨start, rfl⟩
  | cons record rest induction =>
      have here : (start.supply record.1.asset).toNat + record.2.toNat < Amount.count := by
        have bound := room record.1.asset
        rw [amountOf, if_pos rfl] at bound
        omega
      rcases credit_of_room balanced here with ⟨next, credited, nextBalanced⟩
      have later (asset : Address) :
          (next.supply asset).toNat + amountOf asset rest < Amount.count := by
        rw [supply_of_credit credited, Nat.add_assoc]
        exact room asset
      rw [List.foldlM_cons, credited]
      exact induction nextBalanced later

/-- A book is rebuilt just where a supply can hold the sum of every asset. -/
theorem exists_ofRecords_iff :
    (∃ ledger, ofRecords records = .ok ledger) ↔
      ∀ asset, amountOf asset records < Amount.count := by
  constructor
  · rintro ⟨ledger, rebuilt⟩ asset
    rw [← supply_ofRecords rebuilt]
    exact (ledger.supply asset).isLt
  · intro room
    refine exists_foldlM_credit balanced_empty records fun asset => ?_
    rw [supply_empty, Amount.toNat_zero, Nat.zero_add]
    exact room asset

/-- A canonical book is rebuilt from all records that say of every position what it holds. -/
theorem ofRecords_of_amountAt (canonical : ledger.Canonical)
    (same : ∀ position, amountAt position records = (ledger.balance position).toNat) :
    ofRecords records = .ok ledger := by
  have room (asset : Address) : amountOf asset records < Amount.count := by
    rw [amountOf_eq_supply canonical.balanced same]
    exact (ledger.supply asset).isLt
  rcases exists_ofRecords_iff.mpr room with ⟨again, rebuilt⟩
  have equal : again = ledger := by
    refine (canonical_ofRecords rebuilt).ext canonical fun position => ?_
    apply Amount.ext_toNat
    rw [balance_ofRecords rebuilt, same]
  exact rebuilt.trans (congrArg Except.ok equal)

theorem ofRecords_records (canonical : ledger.Canonical) :
    ofRecords ledger.records = .ok ledger :=
  ofRecords_of_amountAt canonical ledger.amountAt_records

end Rebuilding

end Turnstile.Ledger
