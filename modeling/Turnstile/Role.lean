import Turnstile.Address

namespace Turnstile

/-! Roles and the grants that give them to accounts. -/

/-- A capability checked where a component is entered. -/
inductive Role where
  /-- Manages roles and global switches. -/
  | admin
  /-- Edits whitelist membership. -/
  | whitelister
  /-- Sets limits of single accounts. -/
  | limitManager
  /-- A trusted service that may consume quota. -/
  | caller
  /-- May mint through the gate. -/
  | minter
deriving DecidableEq, Inhabited

namespace Role

def all : List Role := [.admin, .whitelister, .limitManager, .caller, .minter]

/-- The name under which a role is stored. -/
def name : Role → String
  | .admin => "admin"
  | .whitelister => "whitelister"
  | .limitManager => "limit_manager"
  | .caller => "caller"
  | .minter => "minter"

/-- The name under which messages mention a role. -/
def title : Role → String
  | .admin => "ADMIN"
  | .whitelister => "WHITELISTER"
  | .limitManager => "LIMIT_MANAGER"
  | .caller => "CALLER"
  | .minter => "MINTER"

def ofName? (text : String) : Option Role :=
  all.find? fun role => role.name = text

/-- The place of a role in listings. -/
def place : Role → Nat
  | .admin => 0
  | .whitelister => 1
  | .limitManager => 2
  | .caller => 3
  | .minter => 4

@[simp] theorem ofName?_name (role : Role) : ofName? role.name = some role := by
  cases role <;> decide

theorem place_injective {left right : Role} (equal : left.place = right.place) :
    left = right := by
  revert equal
  cases left <;> cases right <;> decide

end Role

/-- A role held by an account. Grants are ordered by role and then by account. -/
structure Grant where
  role : Role
  account : Address
deriving DecidableEq, Inhabited

instance : Ranked Grant where
  rank grant := grant.role.place * Address.count + grant.account.toNat
  rank_injective {left right} equal := by
    have leftBound := left.account.isLt
    have rightBound := right.account.isLt
    unfold Address.count at equal leftBound rightBound
    have roles : left.role.place = right.role.place := by omega
    have accounts : left.account.toNat = right.account.toNat := by omega
    cases left
    cases right
    simp only at roles accounts
    rw [Role.place_injective roles, Address.ext_toNat accounts]

end Turnstile
