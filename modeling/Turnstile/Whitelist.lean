import Turnstile.Authority

namespace Turnstile

/-! The registry of accounts that may pass the gate, with a switch that lets
everyone pass. -/

structure Whitelist where
  enabled : Bool
  members : KeySet Address
  authority : Authority
deriving DecidableEq, Inhabited

namespace Whitelist

/-- An enabled registry without members. -/
def founded (admin : Address) : Except Refusal Whitelist := do
  let authority ← Authority.founded admin
  return { enabled := true, members := .empty, authority }

/-! ## Reads -/

def isMember (whitelist : Whitelist) (account : Address) : Bool :=
  whitelist.members.contains account

def isWhitelisted (whitelist : Whitelist) (account : Address) : Bool :=
  !whitelist.enabled || whitelist.isMember account

def memberCount (whitelist : Whitelist) : Nat :=
  whitelist.members.size

/-! ## Operations -/

inductive Command where
  /-- Make all the accounts members, or none of them. -/
  | setMembership (accounts : List Address) (whitelisted : Bool)
  | setEnabled (enabled : Bool)
  | assignWhitelister (account : Address) (held : Bool)
  /-- Mark a service identity as trusted, or no longer. -/
  | assignCaller (account : Address) (held : Bool)
deriving DecidableEq

/-- The role that a command asks of its caller. -/
def Command.role : Command → Role
  | .setMembership .. => .whitelister
  | .setEnabled _ => .admin
  | .assignWhitelister .. => .admin
  | .assignCaller .. => .admin

def withMembership (whitelist : Whitelist) (accounts : List Address)
    (whitelisted : Bool) : Whitelist :=
  { whitelist with
    members := accounts.foldl
      (fun members account => members.assign account whitelisted) whitelist.members }

def setMembership (whitelist : Whitelist) (caller : Address) (accounts : List Address)
    (whitelisted : Bool) : Outcome Whitelist :=
  let changed := whitelist.withMembership accounts whitelisted
  .guarded whitelist (whitelist.authority.require .whitelister caller) <|
    .accepted changed (accounts.map fun account => .whitelistUpdated account whitelisted)
      [.whitelistMembers changed.memberCount]

def setEnabled (whitelist : Whitelist) (caller : Address) (enabled : Bool) :
    Outcome Whitelist :=
  .guarded whitelist (whitelist.authority.require .admin caller) <|
    .accepted { whitelist with enabled } [.whitelistingToggled enabled] []

def assignRole (whitelist : Whitelist) (caller : Address) (role : Role)
    (account : Address) (held : Bool) : Outcome Whitelist :=
  whitelist.authority.reassign whitelist (fun authority => { whitelist with authority })
    caller role account held

def perform (whitelist : Whitelist) (caller : Address) : Command → Outcome Whitelist
  | .setMembership accounts whitelisted =>
      whitelist.setMembership caller accounts whitelisted
  | .setEnabled enabled => whitelist.setEnabled caller enabled
  | .assignWhitelister account held => whitelist.assignRole caller .whitelister account held
  | .assignCaller account held => whitelist.assignRole caller .caller account held

/-! ## Snapshots -/

/-- What of a registry survives a restart. Lists may come in any order and may
repeat entries. -/
structure Snapshot where
  enabled : Bool
  members : List Address
  roles : List Grant
deriving DecidableEq, Inhabited

def snapshot (whitelist : Whitelist) : Snapshot where
  enabled := whitelist.enabled
  members := whitelist.members.keys
  roles := whitelist.authority.toList

def ofSnapshot (snapshot : Snapshot) : Whitelist where
  enabled := snapshot.enabled
  members := KeySet.ofKeys snapshot.members
  authority := Authority.ofGrants snapshot.roles

/-- What is recorded when a registry is restored. -/
def restoredReadings (whitelist : Whitelist) : List Reading :=
  [.whitelistMembers whitelist.memberCount]

end Whitelist

end Turnstile
