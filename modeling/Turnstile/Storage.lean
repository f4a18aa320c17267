import Turnstile.Wire.Snapshot

namespace Turnstile

/-! The place where the snapshot of a service is kept between runs: at most one text. -/

inductive Storage where
  | vacant
  | holding (text : String)
  /-- Taken by something that is neither read nor overwritten. -/
  | blocked
deriving DecidableEq, Inhabited

namespace Storage

/-- The snapshot found in a storage, `none` in a vacant one. -/
def load : Storage → Except Snapshot.LoadFailure (Option Snapshot)
  | vacant => .ok none
  | holding text => (Snapshot.ofText text).map some
  | blocked => .error .encoding

/-- The storage with a snapshot in it, unless it is blocked. -/
def store? (storage : Storage) (snapshot : Snapshot) : Option Storage :=
  match storage with
  | blocked => none
  | _ => some (holding snapshot.toText)

/-- How many entries there are at the place. -/
def size : Storage → Nat
  | vacant => 0
  | holding _ => 1
  | blocked => 1

end Storage

end Turnstile
