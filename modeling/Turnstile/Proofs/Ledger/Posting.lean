import Mathlib.Algebra.BigOperators.Group.Finset.Piecewise
import Mathlib.Algebra.Order.BigOperators.Group.Finset
import Mathlib.Data.Fintype.EquivFin
import Turnstile.Ledger

namespace Turnstile

/-! Double entry. Every entry that the book can take is a posting: an amount of an asset
that leaves an account, reaches an account, or both. What all accounts hold of an asset
then changes by what leaves no account, less what reaches none, and so does its supply. -/

/-! ## All accounts -/

namespace Address

def equivFin : Address ≃ Fin count where
  toFun address := ⟨address.toNat, address.isLt⟩
  invFun index := ⟨index.val, index.isLt⟩
  left_inv _ := rfl
  right_inv _ := rfl

instance : Fintype Address := .ofEquiv (Fin count) equivFin.symm

end Address

theorem Position.ext_iff {left right : Position} :
    left = right ↔ left.asset = right.asset ∧ left.account = right.account := by
  cases left
  cases right
  simp

/-! ## Postings -/

/-- An amount on its way. Without a source it is created, without a destination it is
destroyed. -/
structure Posting where
  asset : Address
  source : Option Address
  destination : Option Address
  amount : Amount
deriving DecidableEq

namespace Posting

/-- What a position gives. -/
def debit (posting : Posting) (position : Position) : Nat :=
  if posting.asset = position.asset ∧ posting.source = some position.account then
    posting.amount.toNat
  else 0

/-- What a position receives. -/
def credit (posting : Posting) (position : Position) : Nat :=
  if posting.asset = position.asset ∧ posting.destination = some position.account then
    posting.amount.toNat
  else 0

def created (posting : Posting) (asset : Address) : Nat :=
  if posting.asset = asset ∧ posting.source = none then posting.amount.toNat else 0

def destroyed (posting : Posting) (asset : Address) : Nat :=
  if posting.asset = asset ∧ posting.destination = none then posting.amount.toNat else 0

section

variable {asset account : Address} {source destination : Option Address} {amount : Amount}

@[simp] theorem debit_some (position : Position) :
    (Posting.mk asset (some account) destination amount).debit position =
      if (⟨asset, account⟩ : Position) = position then amount.toNat else 0 := by
  simp [debit, Position.ext_iff]

@[simp] theorem debit_none (position : Position) :
    (Posting.mk asset none destination amount).debit position = 0 := by
  simp [debit]

@[simp] theorem credit_some (position : Position) :
    (Posting.mk asset source (some account) amount).credit position =
      if (⟨asset, account⟩ : Position) = position then amount.toNat else 0 := by
  simp [credit, Position.ext_iff]

@[simp] theorem credit_none (position : Position) :
    (Posting.mk asset source none amount).credit position = 0 := by
  simp [credit]

end

/-- An amount with a holder at one end is counted at exactly one account. -/
private theorem sum_holder (holder : Option Address) (amount : Nat) :
    (∑ account : Address, if holder = some account then amount else 0) +
      (if holder = none then amount else 0) = amount := by
  cases holder with
  | none => simp
  | some holder => simp

private theorem sum_debit (posting : Posting) (asset : Address) :
    (∑ account, posting.debit ⟨asset, account⟩) + posting.created asset =
      if posting.asset = asset then posting.amount.toNat else 0 := by
  by_cases same : posting.asset = asset
  · simpa [debit, created, same] using sum_holder posting.source posting.amount.toNat
  · simp [debit, created, same]

private theorem sum_credit (posting : Posting) (asset : Address) :
    (∑ account, posting.credit ⟨asset, account⟩) + posting.destroyed asset =
      if posting.asset = asset then posting.amount.toNat else 0 := by
  by_cases same : posting.asset = asset
  · simpa [credit, destroyed, same] using
      sum_holder posting.destination posting.amount.toNat
  · simp [credit, destroyed, same]

end Posting

namespace Ledger

/-- One book is another with a posting entered, in exact numbers. -/
structure Posted (posting : Posting) (before after : Ledger) : Prop where
  balances : ∀ position,
    (after.balance position).toNat + posting.debit position =
      (before.balance position).toNat + posting.credit position
  supplies : ∀ asset,
    (after.supply asset).toNat + posting.destroyed asset =
      (before.supply asset).toNat + posting.created asset

/-! ## Balanced books -/

/-- What all accounts hold of an asset. -/
def held (ledger : Ledger) (asset : Address) : Nat :=
  ∑ account : Address, (ledger.balance ⟨asset, account⟩).toNat

/-- The supply of every asset is what all accounts hold of it. -/
def Balanced (ledger : Ledger) : Prop :=
  ∀ asset, (ledger.supply asset).toNat = ledger.held asset

theorem balanced_empty : empty.Balanced := by
  intro asset
  simp [held]

theorem Posted.balanced {posting : Posting} {before after : Ledger}
    (posted : Posted posting before after) (balanced : before.Balanced) :
    after.Balanced := by
  intro asset
  have supply := posted.supplies asset
  have holdings : after.held asset + (∑ account, posting.debit ⟨asset, account⟩) =
      before.held asset + ∑ account, posting.credit ⟨asset, account⟩ := by
    rw [held, held, ← Finset.sum_add_distrib, ← Finset.sum_add_distrib]
    exact Finset.sum_congr rfl fun account _ => posted.balances ⟨asset, account⟩
  have given := posting.sum_debit asset
  have received := posting.sum_credit asset
  have start := balanced asset
  omega

theorem balance_le_supply {ledger : Ledger} (balanced : ledger.Balanced)
    (position : Position) :
    ledger.balance position ≤ ledger.supply position.asset := by
  rw [Amount.le_iff, balanced position.asset]
  exact Finset.single_le_sum
    (f := fun account => (ledger.balance ⟨position.asset, account⟩).toNat)
    (fun _ _ => Nat.zero_le _) (Finset.mem_univ position.account)

/-- Two accounts together hold no more than there is. -/
theorem add_balance_le_supply {ledger : Ledger} (balanced : ledger.Balanced)
    {asset first second : Address} (different : first ≠ second) :
    (ledger.balance ⟨asset, first⟩).toNat + (ledger.balance ⟨asset, second⟩).toNat ≤
      (ledger.supply asset).toNat := by
  have pair := Finset.sum_pair different
    (f := fun account => (ledger.balance ⟨asset, account⟩).toNat)
  rw [balanced asset, held, ← pair]
  exact Finset.sum_le_sum_of_subset (Finset.subset_univ _)

end Ledger

end Turnstile
