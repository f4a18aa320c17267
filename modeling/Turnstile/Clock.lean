namespace Turnstile

/-! Times and durations, in whole seconds. Both are 64-bit words: a clock that is
advanced wraps around, and a deadline that would lie beyond the last
representable second is that last second. -/

abbrev Seconds := UInt64

namespace Seconds

def last : Seconds := 0xffffffffffffffff

/-- The time `delay` after `start`, at most the last second. -/
def deadline (start delay : Seconds) : Seconds :=
  if start.toNat + delay.toNat < UInt64.size then start + delay else last

theorem toNat_deadline (start delay : Seconds) :
    (deadline start delay).toNat = min (start.toNat + delay.toNat) (UInt64.size - 1) := by
  unfold deadline
  split
  next bound =>
    rw [UInt64.toNat_add, Nat.mod_eq_of_lt bound]
    omega
  next beyond =>
    rw [Nat.min_eq_right (by omega)]
    rfl

theorem toNat_deadline_of_lt {start delay : Seconds}
    (bound : start.toNat + delay.toNat < UInt64.size) :
    (deadline start delay).toNat = start.toNat + delay.toNat := by
  rw [toNat_deadline]
  omega

end Seconds

end Turnstile
