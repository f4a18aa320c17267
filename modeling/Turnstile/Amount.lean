namespace Turnstile

/-! Token amounts: natural numbers below `2 ^ 256`. Sums and differences wrap
around; the checked and saturating forms are separate operations, so a caller
says which one it relies on. -/

/-- The number of amounts, `2 ^ 256`. -/
def Amount.count : Nat :=
  0x10000000000000000000000000000000000000000000000000000000000000000

structure Amount where
  toNat : Nat
  isLt : toNat < Amount.count
deriving DecidableEq

namespace Amount

theorem ext_toNat {left right : Amount} (equal : left.toNat = right.toNat) :
    left = right := by
  cases left
  cases right
  simp only at equal
  subst equal
  rfl

/-- The amount congruent to a number modulo the number of amounts. -/
def ofNat (number : Nat) : Amount :=
  ⟨number % count, Nat.mod_lt _ (by decide)⟩

def ofNat? (number : Nat) : Option Amount :=
  if bound : number < count then some ⟨number, bound⟩ else none

def zero : Amount := ⟨0, by decide⟩

/-- The largest amount, which limits use to say "no limit". -/
def unlimited : Amount := ⟨count - 1, by decide⟩

instance : Inhabited Amount := ⟨zero⟩

instance : LE Amount := ⟨fun left right => left.toNat ≤ right.toNat⟩

instance : LT Amount := ⟨fun left right => left.toNat < right.toNat⟩

instance (left right : Amount) : Decidable (left ≤ right) :=
  inferInstanceAs (Decidable (left.toNat ≤ right.toNat))

instance (left right : Amount) : Decidable (left < right) :=
  inferInstanceAs (Decidable (left.toNat < right.toNat))

theorem le_iff {left right : Amount} : left ≤ right ↔ left.toNat ≤ right.toNat := Iff.rfl

theorem lt_iff {left right : Amount} : left < right ↔ left.toNat < right.toNat := Iff.rfl

instance : Add Amount := ⟨fun left right => ofNat (left.toNat + right.toNat)⟩

instance : Sub Amount := ⟨fun left right => ofNat (left.toNat + count - right.toNat)⟩

def checkedAdd (left right : Amount) : Option Amount :=
  ofNat? (left.toNat + right.toNat)

def saturatingSub (left right : Amount) : Amount :=
  ⟨left.toNat - right.toNat, Nat.lt_of_le_of_lt (Nat.sub_le ..) left.isLt⟩

@[simp] theorem toNat_zero : zero.toNat = 0 := rfl

@[simp] theorem toNat_unlimited : unlimited.toNat = count - 1 := rfl

@[simp] theorem toNat_ofNat (number : Nat) : (ofNat number).toNat = number % count := rfl

@[simp] theorem toNat_saturatingSub (left right : Amount) :
    (left.saturatingSub right).toNat = left.toNat - right.toNat := rfl

theorem toNat_add (left right : Amount) :
    (left + right).toNat = (left.toNat + right.toNat) % count := rfl

theorem toNat_sub (left right : Amount) :
    (left - right).toNat = (left.toNat + count - right.toNat) % count := rfl

theorem toNat_add_of_lt {left right : Amount}
    (bound : left.toNat + right.toNat < count) :
    (left + right).toNat = left.toNat + right.toNat := by
  rw [toNat_add, Nat.mod_eq_of_lt bound]

theorem toNat_sub_of_le {left right : Amount} (smaller : right ≤ left) :
    (left - right).toNat = left.toNat - right.toNat := by
  have bound := left.isLt
  rw [le_iff] at smaller
  rw [toNat_sub]
  unfold count at bound ⊢
  omega

theorem toNat_sub_add_of_le {left right : Amount} (smaller : right ≤ left) :
    (left - right).toNat + right.toNat = left.toNat := by
  rw [toNat_sub_of_le smaller]
  exact Nat.sub_add_cancel smaller

theorem ofNat?_eq_some_iff {number : Nat} {amount : Amount} :
    ofNat? number = some amount ↔ number = amount.toNat := by
  constructor
  · intro found
    unfold ofNat? at found
    split at found
    · exact Option.some.inj found ▸ rfl
    · cases found
  · intro equal
    subst equal
    exact dif_pos amount.isLt

theorem checkedAdd_eq_some_iff {left right sum : Amount} :
    left.checkedAdd right = some sum ↔ left.toNat + right.toNat = sum.toNat :=
  ofNat?_eq_some_iff

theorem checkedAdd_eq_none_iff {left right : Amount} :
    left.checkedAdd right = none ↔ count ≤ left.toNat + right.toNat := by
  unfold checkedAdd ofNat?
  split <;> simp <;> omega

end Amount

end Turnstile
