import Turnstile.Checkpoint

namespace Turnstile

/-! Everything of a service that survives a restart. -/

structure Snapshot where
  /-- The version of the layout. -/
  version : UInt32
  takenAt : Seconds
  whitelist : Whitelist.Snapshot
  limiter : Limiter.Snapshot
  gate : Gate.Snapshot
deriving DecidableEq, Inhabited

/-- The only version of the layout that is read. -/
def Snapshot.currentVersion : UInt32 := 1

def Checkpoint.snapshot (checkpoint : Checkpoint) (now : Seconds) : Snapshot where
  version := Snapshot.currentVersion
  takenAt := now
  whitelist := checkpoint.whitelist.snapshot
  limiter := checkpoint.limiter.snapshot
  gate := checkpoint.gate.snapshot

/-- A gate and its collaborators as they were when the snapshot was taken. What is not part
of a snapshot, identity and fallback, is given anew. -/
def Checkpoint.ofSnapshot (identity : Address) (fallback : Limits) (snapshot : Snapshot) :
    Except Refusal Checkpoint := do
  let gate ← Gate.ofSnapshot identity snapshot.gate
  return {
    gate
    whitelist := Whitelist.ofSnapshot snapshot.whitelist
    limiter := Limiter.ofSnapshot fallback snapshot.limiter }

/-- What is recorded when the collaborators are restored, before the gate is. -/
def Snapshot.restoredReadings (fallback : Limits) (snapshot : Snapshot) : List Reading :=
  (Whitelist.ofSnapshot snapshot.whitelist).restoredReadings ++
  (Limiter.ofSnapshot fallback snapshot.limiter).restoredReadings

end Turnstile
