import Turnstile.Ledger
import Turnstile.Proofs.Verdict

namespace Turnstile.Ledger

/-! Books that count as the same. If they agree on some assets, and entries in both keep it
so, then what is asked for in these assets is entered in both or refused by both. One asset
has nothing to do with another. -/

/-- Books that are the same agree on the assets, and stay the same when the same is entered
in both. -/
structure Congruence (assets : Address → Prop) (Same : Ledger → Ledger → Prop) : Prop where
  balance : ∀ {left right}, Same left right → ∀ position, assets position.asset →
    left.balance position = right.balance position
  supply : ∀ {left right}, Same left right → ∀ asset, assets asset →
    left.supply asset = right.supply asset
  setBalance : ∀ {left right}, Same left right → ∀ position amount,
    Same (left.setBalance position amount) (right.setBalance position amount)
  setSupply : ∀ {left right}, Same left right → ∀ asset amount,
    Same (left.setSupply asset amount) (right.setSupply asset amount)

/-- The same is refused in both books, or both are written and stay the same. -/
inductive Written (Same : Ledger → Ledger → Prop) :
    Except Refusal Ledger → Except Refusal Ledger → Prop
  | refused (refusal : Refusal) : Written Same (.error refusal) (.error refusal)
  | done {left right : Ledger} : Same left right → Written Same (.ok left) (.ok right)

namespace Congruence

variable {assets : Address → Prop} {Same : Ledger → Ledger → Prop} {left right : Ledger}

theorem ensureBalance (congruence : Congruence assets Same) (same : Same left right)
    {position : Position} (within : assets position.asset) (amount : Amount) :
    left.ensureBalance position amount = right.ensureBalance position amount := by
  rw [Ledger.ensureBalance, Ledger.ensureBalance, congruence.balance same position within]

theorem ensureCredit (congruence : Congruence assets Same) (same : Same left right)
    {position : Position} (within : assets position.asset) (amount : Amount) :
    left.ensureCredit position amount = right.ensureCredit position amount := by
  rw [Ledger.ensureCredit, Ledger.ensureCredit, congruence.balance same position within,
    congruence.supply same position.asset within]

theorem written_credit (congruence : Congruence assets Same) (same : Same left right)
    {position : Position} (within : assets position.asset) (amount : Amount) :
    Written Same (left.credit position amount) (right.credit position amount) := by
  rw [credit, credit, congruence.ensureCredit same within,
    congruence.balance same position within, congruence.supply same position.asset within]
  cases right.ensureCredit position amount with
  | error refusal => exact .refused refusal
  | ok => exact .done (congruence.setSupply (congruence.setBalance same _ _) _ _)

theorem written_debit (congruence : Congruence assets Same) (same : Same left right)
    {position : Position} (within : assets position.asset) (amount : Amount) :
    Written Same (left.debit position amount) (right.debit position amount) := by
  rw [debit, debit, congruence.ensureBalance same within,
    congruence.balance same position within, congruence.supply same position.asset within]
  cases right.ensureBalance position amount with
  | error refusal => exact .refused refusal
  | ok => exact .done (congruence.setSupply (congruence.setBalance same _ _) _ _)

theorem written_move (congruence : Congruence assets Same) (same : Same left right)
    {asset : Address} (within : assets asset) (source destination : Address)
    (amount : Amount) :
    Written Same (left.move asset source destination amount)
      (right.move asset source destination amount) := by
  have checked : left.ensureBalance ⟨asset, source⟩ amount =
      right.ensureBalance ⟨asset, source⟩ amount := congruence.ensureBalance same within amount
  have paying := congruence.balance same ⟨asset, source⟩ within
  have receiving := congruence.balance same ⟨asset, destination⟩ within
  simp only [move]
  rw [checked, paying, receiving]
  cases right.ensureBalance ⟨asset, source⟩ amount with
  | error refusal => exact .refused refusal
  | ok =>
      by_cases self : source = destination
      · simp only [self, if_true]
        exact .done same
      · simp only [self, if_false]
        cases (right.balance ⟨asset, destination⟩).checkedAdd amount with
        | none => exact .refused _
        | some received => exact .done (congruence.setBalance (congruence.setBalance same _ _) _ _)

end Congruence

theorem congruence_eq (assets : Address → Prop) : Congruence assets Eq where
  balance same position _ := congrArg (·.balance position) same
  supply same asset _ := congrArg (·.supply asset) same
  setBalance same position amount := congrArg (·.setBalance position amount) same
  setSupply same asset amount := congrArg (·.setSupply asset amount) same

/-! ## One asset -/

structure AgreeOn (asset : Address) (left right : Ledger) : Prop where
  balance : ∀ account, left.balance ⟨asset, account⟩ = right.balance ⟨asset, account⟩
  supply : left.supply asset = right.supply asset

section AgreeOn

variable {asset : Address} {left middle right : Ledger}

theorem AgreeOn.refl (ledger : Ledger) : AgreeOn asset ledger ledger :=
  ⟨fun _ => rfl, rfl⟩

theorem AgreeOn.symm (agree : AgreeOn asset left right) : AgreeOn asset right left :=
  ⟨fun account => (agree.balance account).symm, agree.supply.symm⟩

theorem AgreeOn.trans (first : AgreeOn asset left middle) (second : AgreeOn asset middle right) :
    AgreeOn asset left right :=
  ⟨fun account => (first.balance account).trans (second.balance account),
    first.supply.trans second.supply⟩

theorem congruence_agreeOn (asset : Address) : Congruence (· = asset) (AgreeOn asset) where
  balance := by
    rintro left right agree position rfl
    exact agree.balance position.account
  supply := by
    rintro left right agree _ rfl
    exact agree.supply
  setBalance agree position amount := by
    refine ⟨fun account => ?_, ?_⟩
    · rw [balance_setBalance, balance_setBalance, agree.balance]
    · rw [supply_setBalance, supply_setBalance, agree.supply]
  setSupply agree other amount := by
    refine ⟨fun account => ?_, ?_⟩
    · rw [balance_setSupply, balance_setSupply, agree.balance]
    · rw [supply_setSupply, supply_setSupply, agree.supply]

/-! ### Entries in another asset -/

variable {ledger after : Ledger}

theorem agreeOn_setBalance {position : Position} (other : position.asset ≠ asset)
    (ledger : Ledger) (amount : Amount) :
    AgreeOn asset ledger (ledger.setBalance position amount) where
  balance account := by
    rw [balance_setBalance, if_neg fun same => other (congrArg Position.asset same)]
  supply := (supply_setBalance ..).symm

theorem agreeOn_setSupply {named : Address} (other : named ≠ asset) (ledger : Ledger)
    (amount : Amount) : AgreeOn asset ledger (ledger.setSupply named amount) where
  balance account := (balance_setSupply ..).symm
  supply := by
    rw [supply_setSupply, if_neg other]

theorem agreeOn_credit {position : Position} (other : position.asset ≠ asset)
    {amount : Amount} (written : ledger.credit position amount = .ok after) :
    AgreeOn asset ledger after := by
  rcases exists_of_bind_eq_ok written with ⟨_, _, done⟩
  cases done
  exact (agreeOn_setBalance other _ _).trans (agreeOn_setSupply other _ _)

theorem agreeOn_debit {position : Position} (other : position.asset ≠ asset)
    {amount : Amount} (written : ledger.debit position amount = .ok after) :
    AgreeOn asset ledger after := by
  rcases exists_of_bind_eq_ok written with ⟨_, _, done⟩
  cases done
  exact (agreeOn_setBalance other _ _).trans (agreeOn_setSupply other _ _)

theorem agreeOn_move {named source destination : Address} (other : named ≠ asset)
    {amount : Amount} (written : ledger.move named source destination amount = .ok after) :
    AgreeOn asset ledger after := by
  rcases exists_of_bind_eq_ok written with ⟨_, _, done⟩
  split at done
  next =>
    cases done
    exact .refl ledger
  next =>
    split at done
    next => cases done
    next =>
      cases done
      exact (agreeOn_setBalance other _ _).trans (agreeOn_setBalance other _ _)

end AgreeOn

end Turnstile.Ledger
