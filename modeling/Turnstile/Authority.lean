import Turnstile.Outcome

namespace Turnstile

/-! The table of grants that each component keeps for itself. -/

structure Authority where
  grants : KeySet Grant
deriving DecidableEq, Inhabited

namespace Authority

def ofGrants (grants : List Grant) : Authority :=
  ⟨KeySet.ofKeys grants⟩

/-- The table in which one account, not the null identity, is administrator. -/
def founded (admin : Address) : Except Refusal Authority :=
  if admin = .zero then .error (.invalidArgument .zeroAddress)
  else .ok (ofGrants [⟨.admin, admin⟩])

def toList (authority : Authority) : List Grant :=
  authority.grants.keys

def holds (authority : Authority) (role : Role) (account : Address) : Bool :=
  authority.grants.contains ⟨role, account⟩

def require (authority : Authority) (role : Role) (caller : Address) :
    Except Refusal Unit :=
  if authority.holds role caller then .ok () else .error (.unauthorized role caller)

/-- Give a role to an account or take it away, as an administrator. The flag tells
whether the table has changed. -/
def assign (authority : Authority) (caller : Address) (role : Role) (account : Address)
    (held : Bool) : Except Refusal (Authority × Bool) := do
  authority.require .admin caller
  if account = .zero then .error (.invalidArgument .zeroAddress)
  else
    let changed := authority.holds role account != held
    return (⟨authority.grants.assign ⟨role, account⟩ held⟩, changed)

def grant (authority : Authority) (caller : Address) (role : Role) (account : Address) :
    Except Refusal (Authority × Bool) :=
  authority.assign caller role account true

def revoke (authority : Authority) (caller : Address) (role : Role) (account : Address) :
    Except Refusal (Authority × Bool) :=
  authority.assign caller role account false

def assignmentEvent (caller : Address) (role : Role) (account : Address) :
    (held : Bool) → Event
  | true => .roleGranted role account caller
  | false => .roleRevoked role account caller

/-- Change a grant in a component's table and announce it, if it is a change. -/
def reassign {World : Type} (world : World) (authority : Authority)
    (install : Authority → World) (caller : Address) (role : Role) (account : Address)
    (held : Bool) : Outcome World :=
  match authority.assign caller role account held with
  | .error refusal => .refused world refusal
  | .ok (changed, false) => .accepted (install changed) [] []
  | .ok (changed, true) =>
      .accepted (install changed) [assignmentEvent caller role account held] []

end Authority

end Turnstile
