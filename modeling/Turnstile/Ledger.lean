import Turnstile.Refusal

namespace Turnstile

/-! The book of balances. The supply of every asset is kept beside them, and an
amount of zero is not written down in either table. -/

structure Ledger where
  balances : Table Position Amount
  supplies : Table Address Amount
deriving DecidableEq

namespace Ledger

def empty : Ledger where
  balances := .empty
  supplies := .empty

instance : Inhabited Ledger := ⟨empty⟩

def balance (ledger : Ledger) (position : Position) : Amount :=
  (ledger.balances.get? position).getD .zero

def supply (ledger : Ledger) (asset : Address) : Amount :=
  (ledger.supplies.get? asset).getD .zero

/-- Write an amount down, or strike the entry out if the amount is zero. -/
def enter {Key : Type} [Ranked Key] (table : Table Key Amount) (key : Key)
    (amount : Amount) : Table Key Amount :=
  if amount = .zero then table.erase key else table.insert key amount

def setBalance (ledger : Ledger) (position : Position) (amount : Amount) : Ledger :=
  { ledger with balances := enter ledger.balances position amount }

def setSupply (ledger : Ledger) (asset : Address) (amount : Amount) : Ledger :=
  { ledger with supplies := enter ledger.supplies asset amount }

/-! ## Checks -/

def ensureBalance (ledger : Ledger) (position : Position) (amount : Amount) :
    Except Refusal Unit :=
  let balance := ledger.balance position
  if balance < amount then .error (.insufficientBalance position.account balance amount)
  else .ok ()

/-- There is room for the amount in both the supply and the balance. -/
def ensureCredit (ledger : Ledger) (position : Position) (amount : Amount) :
    Except Refusal Unit :=
  let overflow := Refusal.supplyOverflow position.asset amount
  match (ledger.supply position.asset).checkedAdd amount,
      (ledger.balance position).checkedAdd amount with
  | some _, some _ => .ok ()
  | _, _ => .error overflow

/-! ## Entries -/

/-- Create the amount at a position. -/
def credit (ledger : Ledger) (position : Position) (amount : Amount) :
    Except Refusal Ledger := do
  ledger.ensureCredit position amount
  return (ledger.setBalance position (ledger.balance position + amount)).setSupply
    position.asset (ledger.supply position.asset + amount)

/-- Destroy the amount at a position. -/
def debit (ledger : Ledger) (position : Position) (amount : Amount) :
    Except Refusal Ledger := do
  ledger.ensureBalance position amount
  return (ledger.setBalance position (ledger.balance position - amount)).setSupply
    position.asset ((ledger.supply position.asset).saturatingSub amount)

/-- Move the amount from one account to another. Moving it to the same account asks
for the balance and changes nothing. -/
def move (ledger : Ledger) (asset source destination : Address) (amount : Amount) :
    Except Refusal Ledger := do
  let paying : Position := ⟨asset, source⟩
  let receiving : Position := ⟨asset, destination⟩
  ledger.ensureBalance paying amount
  if source = destination then
    return ledger
  else
    match (ledger.balance receiving).checkedAdd amount with
    | none => .error (.supplyOverflow asset amount)
    | some received =>
        return (ledger.setBalance paying (ledger.balance paying - amount)).setBalance
          receiving received

/-! ## Records -/

/-- The balances in ascending order of position. -/
def records (ledger : Ledger) : List (Position × Amount) :=
  ledger.balances.entries

/-- Credit the records one after the other. -/
def ofRecords (records : List (Position × Amount)) : Except Refusal Ledger :=
  records.foldlM (fun ledger record => ledger.credit record.1 record.2) empty

@[simp] theorem balance_empty (position : Position) : empty.balance position = .zero := rfl

@[simp] theorem supply_empty (asset : Address) : empty.supply asset = .zero := rfl

private theorem getD_get?_enter {Key : Type} [Ranked Key] (table : Table Key Amount)
    (key sought : Key) (amount : Amount) :
    ((enter table key amount).get? sought).getD .zero =
      if rank key = rank sought then amount else (table.get? sought).getD .zero := by
  unfold enter
  split
  next nothing =>
    rw [Table.get?_erase]
    split <;> simp [nothing]
  next =>
    rw [Table.get?_insert]
    split <;> simp

theorem balance_setBalance (ledger : Ledger) (position sought : Position)
    (amount : Amount) :
    (ledger.setBalance position amount).balance sought =
      if position = sought then amount else ledger.balance sought := by
  simpa only [rank_eq_iff, balance, setBalance] using
    getD_get?_enter ledger.balances position sought amount

theorem supply_setSupply (ledger : Ledger) (asset sought : Address) (amount : Amount) :
    (ledger.setSupply asset amount).supply sought =
      if asset = sought then amount else ledger.supply sought := by
  simpa only [rank_eq_iff, supply, setSupply] using
    getD_get?_enter ledger.supplies asset sought amount

/-! The next two hold by definition, but are not stated so: to compare the books, the
kernel would compute with the amount that is entered. -/

@[simp] theorem supply_setBalance (ledger : Ledger) (position : Position)
    (amount : Amount) (asset : Address) :
    (ledger.setBalance position amount).supply asset = ledger.supply asset := by
  rw [setBalance, supply, supply]

@[simp] theorem balance_setSupply (ledger : Ledger) (asset : Address) (amount : Amount)
    (position : Position) :
    (ledger.setSupply asset amount).balance position = ledger.balance position := by
  rw [setSupply, balance, balance]

end Ledger

end Turnstile
