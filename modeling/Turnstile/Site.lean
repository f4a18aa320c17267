import Turnstile.Checkpoint
import Turnstile.Pool

namespace Turnstile

/-! A gate at work: its clock, and the whitelists and limiters at hand, of which it
uses one each. Instances that are not in use can be prepared before they are
installed, and go on working after they were exchanged. -/

structure Site where
  now : Seconds
  whitelists : Pool Whitelist
  limiters : Pool Limiter
  gate : Gate
deriving DecidableEq

namespace Site

def ofCheckpoint (now : Seconds) (checkpoint : Checkpoint) : Site where
  now := now
  whitelists := .single checkpoint.whitelist
  limiters := .single checkpoint.limiter
  gate := checkpoint.gate

/-- A new gate, with a whitelist and a limiter that have the same administrator. -/
def founded (now : Seconds) (identity admin : Address) (fallback : Limits) :
    Except Refusal Site := do
  let whitelist ← Whitelist.founded admin
  let limiter ← Limiter.founded admin fallback
  let gate ← Gate.founded identity admin
  return ofCheckpoint now { gate, whitelist, limiter }

/-- The gate with the collaborators in use. -/
def checkpoint (site : Site) : Checkpoint where
  gate := site.gate
  whitelist := site.whitelists.inUse
  limiter := site.limiters.inUse

def withCheckpoint (site : Site) (checkpoint : Checkpoint) : Site :=
  { site with
    whitelists := site.whitelists.putInUse checkpoint.whitelist
    limiters := site.limiters.putInUse checkpoint.limiter
    gate := checkpoint.gate }

@[simp] theorem checkpoint_withCheckpoint (site : Site) (checkpoint : Checkpoint) :
    (site.withCheckpoint checkpoint).checkpoint = checkpoint := by
  cases checkpoint
  simp [Site.checkpoint, withCheckpoint]

/-! ## Time -/

def advance (site : Site) (duration : Seconds) : Site :=
  { site with now := site.now + duration }

def setTime (site : Site) (now : Seconds) : Site :=
  { site with now }

/-! ## Instances

An instance is named by its number, or by `none` for the one in use. -/

def whitelist? (site : Site) : Option Nat → Option Whitelist
  | some index => site.whitelists.item? index
  | none => some site.whitelists.inUse

def limiter? (site : Site) : Option Nat → Option Limiter
  | some index => site.limiters.item? index
  | none => some site.limiters.inUse

def addWhitelist (site : Site) (whitelist : Whitelist) : Site :=
  { site with whitelists := site.whitelists.add whitelist }

def addLimiter (site : Site) (limiter : Limiter) : Site :=
  { site with limiters := site.limiters.add limiter }

def foundWhitelist (site : Site) (admin : Address) : Outcome Site :=
  match Whitelist.founded admin with
  | .error refusal => .refused site refusal
  | .ok whitelist => .accepted (site.addWhitelist whitelist) [] []

def foundLimiter (site : Site) (admin : Address) (fallback : Limits) : Outcome Site :=
  match Limiter.founded admin fallback with
  | .error refusal => .refused site refusal
  | .ok limiter => .accepted (site.addLimiter limiter) [] []

def restoreWhitelist (site : Site) (snapshot : Whitelist.Snapshot) : Outcome Site :=
  let whitelist := Whitelist.ofSnapshot snapshot
  .accepted (site.addWhitelist whitelist) [] whitelist.restoredReadings

def restoreLimiter (site : Site) (fallback : Limits) (snapshot : Limiter.Snapshot) :
    Outcome Site :=
  let limiter := Limiter.ofSnapshot fallback snapshot
  .accepted (site.addLimiter limiter) [] limiter.restoredReadings

/-! ## Operations -/

/-- Carry out a command to what is in use. -/
def execute (site : Site) (command : Checkpoint.Command) : Outcome Site :=
  (site.checkpoint.execute site.now command).within site.withCheckpoint

/-- Carry out a command to the whitelist with the given number, if there is one. -/
def performOnWhitelist (site : Site) (index : Nat) (caller : Address)
    (command : Whitelist.Command) : Option (Outcome Site) :=
  (site.whitelists.item? index).map fun whitelist =>
    (whitelist.perform caller command).within fun changed =>
      { site with whitelists := site.whitelists.put index changed }

/-- Carry out a command to the limiter with the given number, if there is one. -/
def performOnLimiter (site : Site) (index : Nat) (caller : Address)
    (command : Limiter.Command) : Option (Outcome Site) :=
  (site.limiters.item? index).map fun limiter =>
    (limiter.perform site.now caller command).within fun changed =>
      { site with limiters := site.limiters.put index changed }

/-- Let the gate use another instance, as an administrator of the gate. -/
def install (site installed : Site) (caller : Address) (collaborator : Collaborator) :
    Outcome Site :=
  .guarded site (site.gate.authority.require .admin caller) <|
    .accepted installed [.collaboratorReplaced collaborator] []

/-- Let the gate use the whitelist with the given number, if there is one. -/
def installWhitelist (site : Site) (caller : Address) (index : Nat) :
    Option (Outcome Site) :=
  (site.whitelists.select? index).map fun whitelists =>
    site.install { site with whitelists } caller .whitelist

/-- Let the gate use the limiter with the given number, if there is one. -/
def installLimiter (site : Site) (caller : Address) (index : Nat) : Option (Outcome Site) :=
  (site.limiters.select? index).map fun limiters =>
    site.install { site with limiters } caller .limiter

/-! ## Rebuilding from snapshots -/

/-- Put other state behind the gate, around the collaborators in use. -/
def restoreGate (site : Site) (identity : Address) (snapshot : Gate.Snapshot) :
    Outcome Site :=
  match Gate.ofSnapshot identity snapshot with
  | .error refusal => .refused site refusal
  | .ok gate => .accepted { site with gate } [] []

/-- Rebuild the gate and the collaborators in use from their own snapshots. The rebuilt
collaborators have no numbers; the ones they were rebuilt from keep theirs and are no
longer in use. -/
def rebuild (site : Site) (fallback : Limits) : Outcome Site :=
  let whitelist := Whitelist.ofSnapshot site.whitelists.inUse.snapshot
  let limiter := Limiter.ofSnapshot fallback site.limiters.inUse.snapshot
  let readings := whitelist.restoredReadings ++ limiter.restoredReadings
  match Gate.ofSnapshot site.gate.identity site.gate.snapshot with
  | .error refusal => (Outcome.refused site refusal).record readings
  | .ok gate =>
      .accepted
        { site with
          whitelists := site.whitelists.useApart whitelist
          limiters := site.limiters.useApart limiter
          gate }
        [] readings

end Site

end Turnstile
