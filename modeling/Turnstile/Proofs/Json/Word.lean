import Turnstile.Json.Reader
import Turnstile.Json.Writer

namespace Turnstile

/-! Single words of JSON texts. A string is read back whatever follows its closing quote, and
a natural number if no digit, point or exponent mark follows. -/

/-! ## Decimal numbers -/

namespace Text

theorem exists_toDigits_eq_cons (number : Nat) :
    ∃ digit digits, Nat.toDigits 10 number = digit :: digits ∧ digit.isDigit = true := by
  cases written : Nat.toDigits 10 number with
  | nil => exact absurd written Nat.toDigits_ne_nil
  | cons digit digits =>
      refine ⟨digit, digits, rfl, ?_⟩
      apply Nat.isDigit_of_mem_toDigits (by decide : 0 < 10) (Nat.le_refl 10)
      rw [written]
      exact List.mem_cons_self

/-- Zero apart, no number starts with a zero. -/
private theorem head?_toDigits_ne_zero {number : Nat} (positive : 0 < number) :
    (Nat.toDigits 10 number).head? ≠ some '0' := by
  induction number using Nat.strongRecOn with
  | ind number induction =>
      by_cases single : number < 10
      · rw [Nat.toDigits_of_lt_base single, List.head?_cons]
        clear induction
        revert positive
        revert single
        revert number
        decide
      · have upper : 0 < number / 10 := Nat.div_pos (by omega) (by decide)
        have remainder : number % 10 < 10 := Nat.mod_lt _ (by decide)
        have digits := Nat.toDigits_append_toDigits (by decide) upper remainder
        have started := induction (number / 10) (by omega) upper
        rcases exists_toDigits_eq_cons (number / 10) with ⟨digit, rest, written, _⟩
        rw [Nat.div_add_mod, written] at digits
        rw [written] at started
        rw [← digits]
        exact started

private theorem length_toDigits_of_head?_zero {number : Nat}
    (zero : (Nat.toDigits 10 number).head? = some '0') :
    (Nat.toDigits 10 number).length = 1 := by
  rcases Nat.eq_zero_or_pos number with rfl | positive
  · rfl
  · exact absurd zero (head?_toDigits_ne_zero positive)

end Text

namespace Json

/-! ## Numbers -/

/-- A number ends here, if there is one. -/
def endsNumber : List Char → Bool
  | [] => true
  | char :: _ => !char.isDigit && char != '.' && char != 'e' && char != 'E'

section Numbers

variable {rest : List Char}

private theorem leadingDigits_of_ends (ends : endsNumber rest = true) :
    Numeral.leadingDigits rest = [] := by
  cases rest with
  | nil => rfl
  | cons char rest =>
      simp only [endsNumber, Bool.and_eq_true, Bool.not_eq_true'] at ends
      exact List.takeWhile_cons_of_neg (by simp [ends.1.1.1])

private theorem afterDigits_of_ends (ends : endsNumber rest = true) :
    Numeral.afterDigits rest = rest := by
  cases rest with
  | nil => rfl
  | cons char rest =>
      simp only [endsNumber, Bool.and_eq_true, Bool.not_eq_true'] at ends
      exact List.dropWhile_cons_of_neg (by simp [ends.1.1.1])

private theorem readFraction_of_ends (ends : endsNumber rest = true) :
    Numeral.readFraction rest = some ([], rest) := by
  unfold Numeral.readFraction
  split
  next => cases ends
  next => rfl

private theorem readExponent_of_ends (ends : endsNumber rest = true) :
    Numeral.readExponent rest = some (none, rest) := by
  cases rest with
  | nil => rfl
  | cons char rest =>
      simp only [endsNumber, Bool.and_eq_true, bne_iff_ne] at ends
      simp [Numeral.readExponent, ends.1.2, ends.2]

private theorem readSign_of_isDigit {digit : Char} (isDigit : digit.isDigit = true) :
    Numeral.readSign (digit :: rest) = (false, digit :: rest) := by
  unfold Numeral.readSign
  split
  next same =>
    cases same
    cases isDigit
  next => rfl

theorem read_toDigits (number : Nat) (ends : endsNumber rest = true) :
    Numeral.read (Nat.toDigits 10 number ++ rest) =
      some (⟨false, Nat.toDigits 10 number, [], none⟩, rest) := by
  have all : ∀ char ∈ Nat.toDigits 10 number, char.isDigit = true :=
    fun char member => Nat.isDigit_of_mem_toDigits (by decide) (Nat.le_refl 10) member
  have leading : Numeral.leadingDigits (Nat.toDigits 10 number ++ rest) =
      Nat.toDigits 10 number := by
    have ended := leadingDigits_of_ends ends
    rw [Numeral.leadingDigits] at ended ⊢
    rw [List.takeWhile_append_of_pos all, ended, List.append_nil]
  have after : Numeral.afterDigits (Nat.toDigits 10 number ++ rest) = rest := by
    have ended := afterDigits_of_ends ends
    rw [Numeral.afterDigits] at ended ⊢
    rw [List.dropWhile_append_of_pos all, ended]
  have sign : Numeral.readSign (Nat.toDigits 10 number ++ rest) =
      (false, Nat.toDigits 10 number ++ rest) := by
    rcases Text.exists_toDigits_eq_cons number with ⟨digit, digits, written, isDigit⟩
    rw [written]
    exact readSign_of_isDigit isDigit
  simp only [Numeral.read, sign, leading, after, readFraction_of_ends ends,
    Option.bind_eq_bind, Option.bind_some, readExponent_of_ends ends]
  rw [if_neg]
  · rfl
  · simp only [Bool.or_eq_true, List.isEmpty_iff, Bool.and_eq_true, decide_eq_true_eq]
    rintro (empty | ⟨leadingZero, long⟩)
    · exact Nat.toDigits_ne_nil empty
    · exact long (Text.length_toDigits_of_head?_zero leadingZero)

theorem ofNumeral_toDigits {number : Nat} (bound : number < UInt64.size) :
    Token.ofNumeral ⟨false, Nat.toDigits 10 number, [], none⟩ = .natural number := by
  have value : Numeral.digitsValue (Nat.toDigits 10 number) = number := by
    rw [Numeral.digitsValue, Text.ofDigits_toDigits (by decide) (by decide)]
    rfl
  simp [Token.ofNumeral, Numeral.natural?, value, Nat.not_le.mpr bound]

theorem isSpace_of_isDigit {digit : Char} (isDigit : digit.isDigit = true) :
    isSpace digit = false := by
  simp only [isSpace, Bool.or_eq_false_iff, decide_eq_false_iff_not]
  refine ⟨⟨⟨?_, ?_⟩, ?_⟩, ?_⟩ <;> rintro rfl <;> cases isDigit

theorem readToken_of_isDigit {digit : Char} (isDigit : digit.isDigit = true) :
    readToken (digit :: rest) =
      (Numeral.read (digit :: rest)).map fun read => (Token.ofNumeral read.1, read.2) := by
  unfold readToken
  split
  case h_11 => rfl
  all_goals
    next same =>
      cases same
      cases isDigit

theorem readToken_decimal {number : Nat} (bound : number < UInt64.size)
    (ends : endsNumber rest = true) :
    readToken (writeWord (Text.decimal number) rest) = some (.natural number, rest) := by
  have read := read_toDigits number ends
  rcases Text.exists_toDigits_eq_cons number with ⟨digit, digits, written, isDigit⟩
  rw [writeWord, Text.decimal, String.toList_ofList]
  rw [← ofNumeral_toDigits bound]
  rw [written] at read ⊢
  rw [List.cons_append] at read ⊢
  rw [readToken_of_isDigit isDigit, read]
  rfl

end Numbers

/-! ## Strings -/

section Strings

variable {content : Option (List Char)} {rest : List Char}

private theorem readString_of_escaped {letter char : Char} (escaped : escaped? letter = some char) :
    readString content ('\\' :: letter :: rest) =
      readString (content.map (char :: ·)) rest := by
  have notUnit : letter ≠ 'u' := by
    rintro rfl
    cases escaped
  rw [readString, escaped]
  · intro _ _ _ _ _ _ _ _ _ unit
    exact absurd unit notUnit
  · intro _ _ _ _ _ unit
    exact absurd unit notUnit

/-- A unit that is a character by itself may be followed by anything, another unit too. -/
private theorem readString_of_unit {a b c d : Char} {unit : Nat}
    (hex : hexUnit? [a, b, c, d] = some unit) (low : unit < 0xd800) :
    readString content ('\\' :: 'u' :: a :: b :: c :: d :: rest) =
      readString (content.map (Char.ofNat unit :: ·)) rest := by
  have notHigh : isHighSurrogate unit = false := by
    simp [isHighSurrogate]
    omega
  have notLow : isLowSurrogate unit = false := by
    simp [isLowSurrogate]
    omega
  rw [readString.eq_def]
  split
  next same => cases same
  next same => cases same
  next same =>
    cases same
    simp only [hex, notHigh, notLow, Bool.false_eq_true, if_false]
  next same =>
    cases same
    simp only [hex, notHigh, notLow, Bool.or_self, Bool.false_eq_true, if_false]
  next other same =>
    cases same
    exact absurd rfl (other a b c d rest rfl)
  next other same =>
    cases same
    exact (other 'u' (a :: b :: c :: d :: rest) rfl rfl).elim

private theorem readString_of_plain {char : Char} (notQuote : char ≠ '"') (notEscape : char ≠ '\\')
    (notControl : ¬char < ' ') :
    readString content (char :: rest) = readString (content.map (char :: ·)) rest := by
  rw [readString.eq_def]
  split
  next same => cases same
  next same => exact absurd (List.cons.inj same).1 notQuote
  next same => exact absurd (List.cons.inj same).1 notEscape
  next same => exact absurd (List.cons.inj same).1 notEscape
  next same => exact absurd (List.cons.inj same).1 notEscape
  next same =>
    cases same
    simp [notEscape, notControl]

private theorem hexUnit?_fixedHex {number : Nat} (bound : number < 0x10000) :
    hexUnit? (Text.fixedHex 4 number) = some number := by
  rw [hexUnit?, if_pos (Text.length_fixedHex ..), Text.ofDigits, Text.appendDigits_fixedHex,
    Nat.zero_mul, Nat.zero_add]
  exact congrArg some (Nat.mod_eq_of_lt bound)

private theorem readString_writeChar (char : Char) :
    readString content (writeChar char rest) = readString (content.map (char :: ·)) rest := by
  unfold writeChar
  split
  case h_8 quote escape _ _ _ _ _ =>
    split
    next control =>
      have bound : char.toNat < 0x20 := control
      have below : char.toNat < 0x10000 := by omega
      have hex := hexUnit?_fixedHex below
      have same : Char.ofNat char.toNat = char := Char.ofNat_toNat char
      refine (readString_of_unit hex (by omega)).trans ?_
      rw [same]
      rfl
    next control => exact readString_of_plain quote escape control
  all_goals exact readString_of_escaped rfl

theorem readString_writeChars (chars : List Char) (before : List Char) :
    readString (some before) (chars.foldr writeChar ('"' :: rest)) =
      some (.text (String.ofList (before.reverse ++ chars)), rest) := by
  induction chars generalizing before with
  | nil => rw [List.foldr_nil, readString, List.append_nil]
  | cons char chars induction =>
      rw [List.foldr_cons, readString_writeChar, Option.map_some, induction,
        List.reverse_cons, List.append_assoc]
      rfl

theorem readToken_writeString (content : String) (rest : List Char) :
    readToken (writeString content.toList rest) = some (.string (.text content), rest) := by
  rw [writeString, readToken, readString_writeChars, List.reverse_nil, List.nil_append,
    String.ofList_toList]
  rfl

end Strings

end Json

end Turnstile
