import Turnstile.Checkpoint
import Turnstile.Proofs.Limiter.Alike

namespace Turnstile.Checkpoint

/-! Checkpoints that are the same but for limiter records that say no more than the lack of
a record. -/

structure Alike (left right : Checkpoint) : Prop where
  gate : left.gate = right.gate
  whitelist : left.whitelist = right.whitelist
  limiter : left.limiter.Alike right.limiter

namespace Alike

variable {left middle right : Checkpoint}

theorem refl (checkpoint : Checkpoint) : checkpoint.Alike checkpoint :=
  ⟨rfl, rfl, .refl _⟩

theorem symm (alike : left.Alike right) : right.Alike left :=
  ⟨alike.gate.symm, alike.whitelist.symm, alike.limiter.symm⟩

theorem trans (first : left.Alike middle) (second : middle.Alike right) :
    left.Alike right :=
  ⟨first.gate.trans second.gate, first.whitelist.trans second.whitelist,
    first.limiter.trans second.limiter⟩

theorem withLimiter (checkpoint : Checkpoint) {limiter : Limiter}
    (alike : checkpoint.limiter.Alike limiter) :
    checkpoint.Alike { checkpoint with limiter } :=
  ⟨rfl, rfl, alike⟩

end Alike

end Turnstile.Checkpoint
