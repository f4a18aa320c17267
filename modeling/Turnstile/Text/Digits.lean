namespace Turnstile.Text

/-! Numbers written in a positional system: the digits of a number and the number
of a row of digits, for every base up to thirty-six. -/

/-- The value of a digit, letters of either case counting from ten. -/
def digitValue (char : Char) : Option Nat :=
  if '0' ≤ char ∧ char ≤ '9' then some (char.toNat - '0'.toNat)
  else if 'a' ≤ char ∧ char ≤ 'z' then some (char.toNat - 'a'.toNat + 10)
  else if 'A' ≤ char ∧ char ≤ 'Z' then some (char.toNat - 'A'.toNat + 10)
  else none

def digitBelow (base : Nat) (char : Char) : Option Nat :=
  (digitValue char).filter (· < base)

/-- Append the digits of a text to a number; `none` if some character is no digit
of the base. -/
def appendDigits (base : Nat) (number : Nat) : List Char → Option Nat
  | [] => some number
  | char :: rest =>
      match digitBelow base char with
      | some digit => appendDigits base (number * base + digit) rest
      | none => none

/-- The number that a text of digits denotes. The empty text denotes zero. -/
def ofDigits (base : Nat) (text : List Char) : Option Nat :=
  appendDigits base 0 text

def decimal (number : Nat) : String :=
  String.ofList (Nat.toDigits 10 number)

def hexadecimal (number : Nat) : String :=
  String.ofList (Nat.toDigits 16 number)

/-- Exactly `width` hexadecimal digits, the lowest of the number. -/
def fixedHex : (width : Nat) → (number : Nat) → List Char
  | 0, _ => []
  | width + 1, number => fixedHex width (number / 16) ++ [Nat.digitChar (number % 16)]

private theorem appendDigits_append (base number : Nat) (left right : List Char) :
    appendDigits base number (left ++ right) =
      (appendDigits base number left).bind fun value => appendDigits base value right := by
  induction left generalizing number with
  | nil => rfl
  | cons char rest induction =>
      simp only [List.cons_append, appendDigits]
      cases digitBelow base char with
      | none => rfl
      | some digit => exact induction _

@[simp] theorem length_fixedHex (width number : Nat) :
    (fixedHex width number).length = width := by
  induction width generalizing number with
  | zero => rfl
  | succ width induction => simp [fixedHex, induction]

theorem digitBelow_digitChar {base digit : Nat} (small : base ≤ 16) (bound : digit < base) :
    digitBelow base (Nat.digitChar digit) = some digit := by
  have cases : digit < 16 := by omega
  have value : digitValue (Nat.digitChar digit) = some digit := by
    revert cases
    clear bound
    revert digit
    decide
  simp [digitBelow, value, Option.filter, bound]

theorem ofDigits_toDigits {base : Nat} (large : 1 < base) (small : base ≤ 16) (number : Nat) :
    ofDigits base (Nat.toDigits base number) = some number := by
  induction number using Nat.strongRecOn with
  | ind number induction =>
      by_cases single : number < base
      · rw [Nat.toDigits_of_lt_base single]
        simp [ofDigits, appendDigits, digitBelow_digitChar small single]
      · have positive : 0 < number / base := Nat.div_pos (by omega) (by omega)
        have remainder : number % base < base := Nat.mod_lt _ (by omega)
        have smaller : number / base < number := Nat.div_lt_self (by omega) large
        have split : base * (number / base) + number % base = number := Nat.div_add_mod ..
        have digits := Nat.toDigits_append_toDigits large positive remainder
        rw [split] at digits
        have upper := induction (number / base) smaller
        rw [ofDigits] at upper ⊢
        rw [← digits, appendDigits_append, upper, Nat.toDigits_of_lt_base remainder]
        simp [appendDigits, digitBelow_digitChar small remainder, Nat.mul_comm _ base, split]

theorem appendDigits_fixedHex (width start number : Nat) :
    appendDigits 16 start (fixedHex width number) =
      some (start * Nat.pow 16 width + number % Nat.pow 16 width) := by
  induction width generalizing number with
  | zero =>
      rw [fixedHex, appendDigits, show Nat.pow 16 0 = 1 from rfl, Nat.mul_one, Nat.mod_one,
        Nat.add_zero]
  | succ width induction =>
      have remainder : number % 16 < 16 := Nat.mod_lt _ (by decide)
      have step (scale : Nat) :
          number / 16 % scale * 16 + number % 16 = number % (scale * 16) := by
        rw [Nat.mul_comm scale 16, Nat.mod_mul]
        omega
      have next (scale : Nat) :
          (start * scale + number / 16 % scale) * 16 + number % 16 =
            start * (scale * 16) + number % (scale * 16) := by
        rw [Nat.add_mul, Nat.add_assoc, step, Nat.mul_assoc]
      rw [fixedHex, appendDigits_append, induction, Option.bind_some, appendDigits,
        digitBelow_digitChar (Nat.le_refl 16) remainder]
      exact congrArg some (next (Nat.pow 16 width))

end Turnstile.Text
