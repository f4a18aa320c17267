import Turnstile.Proofs.Ledger.Records
import Turnstile.Proofs.Listing

namespace Turnstile.Ledger

/-! Books rebuilt from records in any order. Whether that succeeds depends on the sum of each
asset, and what comes of it on the sum of each position. The records of the new book are these
sums, but for those that are zero. -/

/-! ## Order -/

section Order

variable {left right : List (Position × Amount)}

theorem amountAt_perm (perm : left.Perm right) (position : Position) :
    amountAt position left = amountAt position right := by
  induction perm with
  | nil => rfl
  | cons record _ induction => rw [amountAt, amountAt, induction]
  | swap first second rest =>
      simp only [amountAt]
      exact Nat.add_left_comm ..
  | trans _ _ before after => exact before.trans after

/-- Records give the same book in every order. Where they are refused, it may be for another
record. -/
theorem ofRecords_of_perm {ledger : Ledger} (perm : left.Perm right)
    (rebuilt : ofRecords left = .ok ledger) : ofRecords right = .ok ledger := by
  refine ofRecords_of_amountAt (canonical_ofRecords rebuilt) fun position => ?_
  rw [← amountAt_perm perm, balance_ofRecords rebuilt]

end Order

/-! ## Sums as records -/

/-- The record says what the records say of its position in all, and that is not zero. -/
def Sums (records : List (Position × Amount)) (record : Position × Amount) : Prop :=
  record.2 ≠ .zero ∧ record.2.toNat = amountAt record.1 records

private theorem sums_congr {left right : List (Position × Amount)}
    (same : ∀ position, amountAt position left = amountAt position right)
    (record : Position × Amount) : Sums left record ↔ Sums right record := by
  rw [Sums, Sums, same]

/-- Without a zero, the entries of a table are the sums of themselves. -/
theorem Sparse.lists {table : Table Position Amount} (sparse : Sparse table) :
    Lists placeOf (Sums table.entries) table.entries := by
  refine table.lists.congr fun record => ?_
  have nonzero := sparse.nonzero record.1
  rw [Sums, amountAt_of_ascending table.ascending, ← Table.get?]
  constructor
  · intro found
    rw [found] at nonzero ⊢
    exact ⟨fun zero => nonzero (congrArg some zero), rfl⟩
  · rintro ⟨some, same⟩
    have value := Amount.ext_toNat same
    cases found : table.get? record.1 with
    | none =>
        rw [found] at value
        exact absurd value some
    | some amount =>
        rw [found] at value
        exact congrArg _ value.symm

theorem lists_records {records : List (Position × Amount)} {ledger : Ledger}
    (rebuilt : ofRecords records = .ok ledger) :
    Lists placeOf (Sums records) ledger.records := by
  refine (canonical_ofRecords rebuilt).bare.balances.lists.congr (sums_congr fun position => ?_)
  exact (amountAt_records ledger position).trans (balance_ofRecords rebuilt position)

/-- What lists sums is its own list of sums. -/
theorem lists_sums_again {records sums : List (Position × Amount)}
    (lists : Lists placeOf (Sums records) sums) : Lists placeOf (Sums sums) sums := by
  let table : Table Position Amount := ⟨sums, lists.ascending⟩
  have sparse : Sparse table := by
    refine ⟨fun position zero => ?_⟩
    exact ((lists.mem_iff _).mp (Table.get?_eq_some_iff.mp zero)).1 rfl
  exact sparse.lists

end Turnstile.Ledger
