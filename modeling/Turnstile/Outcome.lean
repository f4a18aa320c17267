import Turnstile.Event

namespace Turnstile

/-! What one call of an operation brings about: the world it leaves behind, its
answer, the events it publishes and the metrics it records. A refused call leaves a
world too, since a refusal may leave traces. -/

/-- A balance-changing operation, or an admission without one, as metrics name it. -/
inductive Operation where
  | transfer
  | transferFrom
  | mint
  | burn
  | admission
  | consumption
deriving DecidableEq, Inhabited

def Operation.name : Operation → String
  | .transfer => "transfer"
  | .transferFrom => "transfer_from"
  | .mint => "mint"
  | .burn => "burn"
  | .admission => "admit"
  | .consumption => "consume"

/-- One act of recording a metric. -/
inductive Reading where
  /-- A counted decision. -/
  | decision (operation : Operation) (admitted : Bool)
  /-- A counted refusal of a decision. -/
  | rejection (reason : String)
  /-- A counted event. -/
  | event (kind : String)
  /-- The number of limiter records. -/
  | trackedPositions (count : Nat)
  /-- The number of whitelist members. -/
  | whitelistMembers (count : Nat)
deriving DecidableEq

structure Outcome (World : Type) where
  world : World
  answer : Except Refusal Unit
  events : List Event
  readings : List Reading

namespace Outcome

variable {World Wider : Type}

/-- A call refused in a world that it leaves as given. -/
def refused (world : World) (refusal : Refusal) : Outcome World where
  world := world
  answer := .error refusal
  events := []
  readings := []

def accepted (world : World) (events : List Event) (readings : List Reading) :
    Outcome World where
  world := world
  answer := .ok ()
  events := events
  readings := readings

/-- Go on only if a check passes; nothing has happened if it does not. -/
def guarded (world : World) (check : Except Refusal Unit) (next : Outcome World) :
    Outcome World :=
  match check with
  | .ok () => next
  | .error refusal => refused world refusal

/-- Go on from an accepted outcome; what has happened stays. -/
def andThen (first : Outcome World) (next : World → Outcome World) : Outcome World :=
  match first.answer with
  | .ok () =>
      let second := next first.world
      { world := second.world
        answer := second.answer
        events := first.events ++ second.events
        readings := first.readings ++ second.readings }
  | .error _ => first

/-- Carry out commands one after the other, up to the first that is refused. -/
def sequence {Command : Type} (perform : World → Command → Outcome World) (world : World) :
    List Command → Outcome World
  | [] => accepted world [] []
  | command :: rest =>
      (perform world command).andThen fun next => sequence perform next rest

/-- See the outcome of a part as an outcome of the whole. -/
def within (outcome : Outcome World) (place : World → Wider) : Outcome Wider where
  world := place outcome.world
  answer := outcome.answer
  events := outcome.events
  readings := outcome.readings

def record (outcome : Outcome World) (readings : List Reading) : Outcome World :=
  { outcome with readings := outcome.readings ++ readings }

@[simp] theorem guarded_ok (world : World) (next : Outcome World) :
    guarded world (.ok ()) next = next := rfl

@[simp] theorem guarded_error (world : World) (refusal : Refusal) (next : Outcome World) :
    guarded world (.error refusal) next = refused world refusal := rfl

end Outcome

end Turnstile
