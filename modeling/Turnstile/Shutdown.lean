namespace Turnstile

/-! The signal to stop. Everyone who works for a service holds a handle on it; any handle
can give the signal and any handle can be waited on. The signal stays: whoever starts to
wait after it was given does not wait at all. -/

structure Shutdown where
  triggered : Bool
  /-- How many handles there are, numbered from zero. -/
  handles : Nat
  /-- How many have started to wait, numbered from zero. -/
  waiters : Nat
deriving DecidableEq, Inhabited

namespace Shutdown

/-- A signal that was not given, with one handle on it. -/
def initial : Shutdown where
  triggered := false
  handles := 1
  waiters := 0

def trigger (shutdown : Shutdown) : Shutdown :=
  { shutdown with triggered := true }

/-- Another handle on the same signal. Its number is the old count of handles. -/
def share (shutdown : Shutdown) : Shutdown :=
  { shutdown with handles := shutdown.handles + 1 }

/-- Start to wait. The number of the waiter is the old count of waiters. -/
def wait (shutdown : Shutdown) : Shutdown :=
  { shutdown with waiters := shutdown.waiters + 1 }

/-- Whether a waiter may go on. All of them hear the same signal. -/
def isReady (shutdown : Shutdown) : Bool :=
  shutdown.triggered

@[simp] theorem isReady_trigger (shutdown : Shutdown) : shutdown.trigger.isReady = true := rfl

@[simp] theorem isReady_share (shutdown : Shutdown) :
    shutdown.share.isReady = shutdown.isReady := rfl

@[simp] theorem isReady_wait (shutdown : Shutdown) :
    shutdown.wait.isReady = shutdown.isReady := rfl

end Shutdown

end Turnstile
