import Turnstile.Proofs.Ledger.Posting
import Turnstile.Proofs.Verdict

namespace Turnstile

/-! What credits, debits and moves do to a balanced book: each enters its posting if the
check made before it passes, and refuses as the check does if not. Nothing that is written
wraps around, saturates or is refused halfway. -/

namespace Ledger

variable {ledger : Ledger} {position : Position} {amount : Amount}

/-! ## Checks -/

def balanceCondition (ledger : Ledger) (position : Position) (amount : Amount) :
    Condition where
  holds := amount ≤ ledger.balance position
  refusal := .insufficientBalance position.account (ledger.balance position) amount

def supplyCondition (ledger : Ledger) (asset : Address) (amount : Amount) :
    Condition where
  holds := (ledger.supply asset).toNat + amount.toNat < Amount.count
  refusal := .supplyOverflow asset amount

theorem ensureBalance_eq_verdict (ledger : Ledger) (position : Position)
    (amount : Amount) :
    ledger.ensureBalance position amount =
      verdict [ledger.balanceCondition position amount] := by
  simp only [ensureBalance, verdict, balanceCondition, Amount.le_iff, Amount.lt_iff,
    decide_eq_true_eq]
  split
  next less => rw [if_neg (Nat.not_le.mpr less)]
  next enough => rw [if_pos (Nat.not_lt.mp enough)]

theorem ensureBalance_eq_ok_iff :
    ledger.ensureBalance position amount = .ok () ↔ amount ≤ ledger.balance position := by
  rw [ensureBalance_eq_verdict]
  simp [verdict, balanceCondition]

theorem ensureCredit_eq_ok_iff :
    ledger.ensureCredit position amount = .ok () ↔
      (ledger.supply position.asset).toNat + amount.toNat < Amount.count ∧
      (ledger.balance position).toNat + amount.toNat < Amount.count := by
  simp only [ensureCredit, Amount.checkedAdd, Amount.ofNat?]
  by_cases supply : (ledger.supply position.asset).toNat + amount.toNat < Amount.count <;>
    by_cases balance : (ledger.balance position).toNat + amount.toNat < Amount.count <;>
    simp [supply, balance]

private theorem ensureCredit_eq_ok_or (ledger : Ledger) (position : Position) (amount : Amount) :
    ledger.ensureCredit position amount = .ok () ∨
      ledger.ensureCredit position amount = .error (.supplyOverflow position.asset amount) := by
  rw [ensureCredit]
  split <;> simp

/-- In a balanced book, room in the supply is room in every balance. -/
theorem ensureCredit_eq_verdict (balanced : ledger.Balanced) (position : Position)
    (amount : Amount) :
    ledger.ensureCredit position amount =
      verdict [ledger.supplyCondition position.asset amount] := by
  have share : (ledger.balance position).toNat ≤ (ledger.supply position.asset).toNat :=
    balance_le_supply balanced position
  simp only [verdict, supplyCondition, decide_eq_true_eq]
  split
  next room => exact ensureCredit_eq_ok_iff.mpr ⟨room, by omega⟩
  next full =>
    rcases ensureCredit_eq_ok_or ledger position amount with passed | refused
    · exact absurd (ensureCredit_eq_ok_iff.mp passed).1 full
    · exact refused

/-! ## Arithmetic -/

/-- Room for an amount makes the sum exact, its lack is noticed. -/
private theorem toNat_add_of_ensureCredit (passed : ledger.ensureCredit position amount = .ok ()) :
    (ledger.balance position + amount).toNat =
        (ledger.balance position).toNat + amount.toNat ∧
      (ledger.supply position.asset + amount).toNat =
        (ledger.supply position.asset).toNat + amount.toNat := by
  have room := ensureCredit_eq_ok_iff.mp passed
  exact ⟨Amount.toNat_add_of_lt room.2, Amount.toNat_add_of_lt room.1⟩

/-- What an account can pay is there to be destroyed. -/
private theorem le_supply_of_ensureBalance (balanced : ledger.Balanced)
    (passed : ledger.ensureBalance position amount = .ok ()) :
    amount ≤ ledger.supply position.asset :=
  Nat.le_trans (ensureBalance_eq_ok_iff.mp passed) (balance_le_supply balanced position)

/-- What one account can pay, another one has room for. -/
theorem checkedAdd_of_ensureBalance (balanced : ledger.Balanced)
    {asset source destination : Address} (different : source ≠ destination)
    (passed : ledger.ensureBalance ⟨asset, source⟩ amount = .ok ()) :
    ∃ received, (ledger.balance ⟨asset, destination⟩).checkedAdd amount = some received := by
  have enough : amount.toNat ≤ (ledger.balance ⟨asset, source⟩).toNat :=
    ensureBalance_eq_ok_iff.mp passed
  have both : (ledger.balance ⟨asset, source⟩).toNat +
      (ledger.balance ⟨asset, destination⟩).toNat ≤ (ledger.supply asset).toNat :=
    add_balance_le_supply balanced different
  have bound := (ledger.supply asset).isLt
  cases sum : (ledger.balance ⟨asset, destination⟩).checkedAdd amount with
  | some received => exact ⟨received, rfl⟩
  | none =>
      have overflow := Amount.checkedAdd_eq_none_iff.mp sum
      omega

/-! ## Entries -/

theorem follows_credit (ledger : Ledger) (position : Position) (amount : Amount) :
    Follows (Posted ⟨position.asset, none, some position.account, amount⟩ ledger)
      (ledger.ensureCredit position amount) (ledger.credit position amount) := by
  rw [credit]
  cases check : ledger.ensureCredit position amount with
  | error refusal => exact .refused refusal
  | ok =>
      have sums := toNat_add_of_ensureCredit check
      refine .done ⟨fun sought => ?_, fun asset => ?_⟩
      · by_cases same : position = sought
        · subst same
          simp [balance_setBalance, sums.1]
        · simp [balance_setBalance, same]
      · by_cases same : position.asset = asset
        · subst same
          simp [supply_setSupply, Posting.created, Posting.destroyed, sums.2]
        · simp [supply_setSupply, Posting.created, Posting.destroyed, same]

theorem follows_debit (balanced : ledger.Balanced) (position : Position)
    (amount : Amount) :
    Follows (Posted ⟨position.asset, some position.account, none, amount⟩ ledger)
      (ledger.ensureBalance position amount) (ledger.debit position amount) := by
  rw [debit]
  cases check : ledger.ensureBalance position amount with
  | error refusal => exact .refused refusal
  | ok =>
      have enough := ensureBalance_eq_ok_iff.mp check
      have rest := Amount.toNat_sub_add_of_le enough
      have supplied := Amount.le_iff.mp (le_supply_of_ensureBalance balanced check)
      refine .done ⟨fun sought => ?_, fun asset => ?_⟩
      · by_cases same : position = sought
        · subst same
          simpa [balance_setBalance] using rest
        · simp [balance_setBalance, same]
      · by_cases same : position.asset = asset
        · subst same
          simpa [supply_setSupply, Posting.created, Posting.destroyed] using
            Nat.sub_add_cancel supplied
        · simp [supply_setSupply, Posting.created, Posting.destroyed, same]

theorem posted_move {asset source destination : Address} (different : source ≠ destination)
    (enough : amount ≤ ledger.balance ⟨asset, source⟩) {received : Amount}
    (sum : (ledger.balance ⟨asset, destination⟩).checkedAdd amount = some received) :
    Posted ⟨asset, some source, some destination, amount⟩ ledger
      ((ledger.setBalance ⟨asset, source⟩ (ledger.balance ⟨asset, source⟩ - amount)).setBalance
        ⟨asset, destination⟩ received) where
  balances sought := by
    have rest := Amount.toNat_sub_add_of_le enough
    have total := Amount.checkedAdd_eq_some_iff.mp sum
    have apart : (⟨asset, destination⟩ : Position) ≠ ⟨asset, source⟩ := by
      simpa [Position.ext_iff] using Ne.symm different
    by_cases paying : (⟨asset, source⟩ : Position) = sought
    · subst paying
      simpa [balance_setBalance, apart] using rest
    · by_cases receiving : (⟨asset, destination⟩ : Position) = sought
      · subst receiving
        simpa [balance_setBalance, paying] using total.symm
      · simp [balance_setBalance, paying, receiving]
  supplies sought := by simp [Posting.created, Posting.destroyed]

/-- What goes back to where it came from leaves the book as it was. -/
private theorem posted_self (ledger : Ledger) (asset account : Address) (amount : Amount) :
    Posted ⟨asset, some account, some account, amount⟩ ledger ledger where
  balances sought := by simp
  supplies sought := by simp [Posting.created, Posting.destroyed]

theorem follows_move (balanced : ledger.Balanced) (asset source destination : Address)
    (amount : Amount) :
    Follows (Posted ⟨asset, some source, some destination, amount⟩ ledger)
      (ledger.ensureBalance ⟨asset, source⟩ amount)
      (ledger.move asset source destination amount) := by
  simp only [move]
  cases check : ledger.ensureBalance ⟨asset, source⟩ amount with
  | error refusal => exact .refused refusal
  | ok =>
      by_cases same : source = destination
      · subst same
        simp only [bind, Except.bind]
        exact .done (posted_self ledger asset source amount)
      · rcases checkedAdd_of_ensureBalance balanced same check with ⟨received, sum⟩
        have enough := ensureBalance_eq_ok_iff.mp check
        simp only [bind, Except.bind, if_neg same, sum]
        exact .done (posted_move same enough sum)

/-- What holds of the empty book and is kept by credits holds of every book rebuilt from
records. -/
theorem holds_of_ofRecords (Holds : Ledger → Prop) (first : Holds empty)
    (step : ∀ {before after : Ledger} {position : Position} {amount : Amount},
      Holds before → before.credit position amount = .ok after → Holds after)
    {records : List (Position × Amount)} (rebuilt : ofRecords records = .ok ledger) :
    Holds ledger := by
  rw [ofRecords] at rebuilt
  -- The fold goes on from books that are no longer empty, so it may start from any.
  generalize empty = start at first rebuilt
  induction records generalizing start with
  | nil =>
      rw [List.foldlM_nil] at rebuilt
      cases rebuilt
      exact first
  | cons record rest induction =>
      rw [List.foldlM_cons] at rebuilt
      rcases exists_of_bind_eq_ok rebuilt with ⟨next, credited, later⟩
      exact induction next (step first credited) later

/-- Credits alone build a balanced book. -/
theorem balanced_ofRecords {records : List (Position × Amount)}
    (rebuilt : ofRecords records = .ok ledger) : ledger.Balanced := by
  refine holds_of_ofRecords Balanced balanced_empty ?_ rebuilt
  intro before after position amount balanced credited
  exact (credited ▸ follows_credit before position amount).described.balanced balanced

/-! ## Exactness -/

/-- Behind every check that passes, sums and differences are those of the numbers. -/
structure Exact (ledger : Ledger) : Prop where
  paid : ∀ position amount, ledger.ensureBalance position amount = .ok () →
    (ledger.balance position - amount).toNat + amount.toNat = (ledger.balance position).toNat
  destroyed : ∀ position amount, ledger.ensureBalance position amount = .ok () →
    ((ledger.supply position.asset).saturatingSub amount).toNat + amount.toNat =
      (ledger.supply position.asset).toNat
  received : ∀ asset source destination amount, source ≠ destination →
    ledger.ensureBalance ⟨asset, source⟩ amount = .ok () →
    ∃ sum, (ledger.balance ⟨asset, destination⟩).checkedAdd amount = some sum ∧
      sum.toNat = (ledger.balance ⟨asset, destination⟩).toNat + amount.toNat
  moved : ∀ asset source destination amount overflowing,
    ledger.move asset source destination amount ≠ .error (.supplyOverflow asset overflowing)
  credited : ∀ position amount, ledger.ensureCredit position amount = .ok () →
    (ledger.balance position + amount).toNat =
        (ledger.balance position).toNat + amount.toNat ∧
      (ledger.supply position.asset + amount).toNat =
        (ledger.supply position.asset).toNat + amount.toNat

private theorem move_ne_supplyOverflow (balanced : ledger.Balanced)
    (asset source destination : Address) (amount overflowing : Amount) :
    ledger.move asset source destination amount ≠
      .error (.supplyOverflow asset overflowing) := by
  have follows := follows_move balanced asset source destination amount
  intro overflow
  rw [overflow, ensureBalance_eq_verdict, verdict_cons] at follows
  split at follows
  · cases follows
  · cases follows

theorem Balanced.exact (balanced : ledger.Balanced) : ledger.Exact where
  paid _ _ passed := Amount.toNat_sub_add_of_le (ensureBalance_eq_ok_iff.mp passed)
  destroyed _ _ passed :=
    Nat.sub_add_cancel (Amount.le_iff.mp (le_supply_of_ensureBalance balanced passed))
  received _ _ _ _ different passed := by
    rcases checkedAdd_of_ensureBalance balanced different passed with ⟨sum, room⟩
    exact ⟨sum, room, (Amount.checkedAdd_eq_some_iff.mp room).symm⟩
  moved := move_ne_supplyOverflow balanced
  credited _ _ passed := toNat_add_of_ensureCredit passed

end Ledger

end Turnstile
