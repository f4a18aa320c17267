import Turnstile.Proofs.Configuration.Declaration
import Turnstile.Proofs.Json.Word

namespace Turnstile

/-! Limits written as settings. An amount is written with decimal digits, or as the word for
the largest one, and that is read as the amount again. So limits that leave room are what the
settings that describe them stand for, and settings stand for no others. -/

/-! ## Digits -/

namespace Text

private theorem isBlank_of_isDigit {char : Char} (isDigit : char.isDigit = true) :
    isBlank char = false := by
  have least : 48 ≤ char.toNat := (Char.isDigit_iff_toNat.mp isDigit).1
  have most : char.toNat ≤ 57 := (Char.isDigit_iff_toNat.mp isDigit).2
  simp only [isBlank, Bool.or_eq_false_iff, Bool.and_eq_false_iff, decide_eq_false_iff_not]
  omega

theorem isDigit_of_mem_decimal {number : Nat} {char : Char}
    (member : char ∈ (decimal number).toList) : char.isDigit = true := by
  rw [decimal, String.toList_ofList] at member
  exact Nat.isDigit_of_mem_toDigits (by decide) (Nat.le_refl 10) member

private theorem trim_decimal (number : Nat) :
    trim (decimal number).toList = (decimal number).toList :=
  trim_eq_self fun _ member => isBlank_of_isDigit (isDigit_of_mem_decimal member)

end Text

namespace Amount

/-! ## Amounts -/

/-- Only a mark could announce another base, and no mark is made of digits alone. -/
private theorem splitBase_of_digits {text : List Char}
    (digits : ∀ char ∈ text, char.isDigit = true) : splitBase text = (10, text) := by
  unfold splitBase
  split
  case h_7 => rfl
  all_goals
    have mark := digits _ (List.mem_cons_of_mem _ List.mem_cons_self)
    exact absurd mark (by decide)

theorem ofNumeral?_decimal (amount : Amount) :
    ofNumeral? (Text.decimal amount.toNat).toList = some amount := by
  have digits := fun char => @Text.isDigit_of_mem_decimal amount.toNat char
  have plain : (Text.decimal amount.toNat).toList.filter (· ≠ '_') =
      (Text.decimal amount.toNat).toList := by
    refine List.filter_eq_self.mpr fun char member => ?_
    rw [decide_eq_true_eq]
    rintro rfl
    exact absurd (digits '_' member) (by decide)
  have denotes := Text.ofDigits_toDigits (by decide : 1 < 10) (by decide) amount.toNat
  rw [ofNumeral?, splitBase_of_digits digits, plain, Text.decimal, String.toList_ofList, denotes,
    Option.bind_some]
  exact ofNat?_eq_some_iff.mpr rfl

/-- Digits are not taken for a word. -/
private theorem decimal_not_word (number : Nat) :
    (Text.decimal number).toList.map Char.toLower ≠ "max".toList := by
  rcases Text.exists_toDigits_eq_cons number with ⟨digit, digits, written, isDigit⟩
  rw [Text.decimal, String.toList_ofList, written, List.map_cons]
  intro same
  have lower : digit.toLower = 'm' := (List.cons.inj same).1
  have unchanged : digit.toLower = digit := by
    have most : digit.toNat ≤ 57 := (Char.isDigit_iff_toNat.mp isDigit).2
    refine dif_neg fun capital => ?_
    have least : 65 ≤ digit.toNat := capital.1
    omega
  rw [← unchanged, lower] at isDigit
  cases isDigit

theorem ofSetting?_toSetting (amount : Amount) :
    ofSetting? (Text.trim amount.toSetting.toList) = some amount := by
  by_cases largest : amount = .unlimited
  · rw [toSetting, if_pos largest, largest]
    decide
  · rw [toSetting, if_neg largest, Text.trim_decimal, ofSetting?,
      if_neg (decimal_not_word amount.toNat), ofNumeral?_decimal]

theorem positive?_toSetting {amount : Amount} (some : amount ≠ .zero) :
    positive? amount.toSetting = .some amount := by
  rw [positive?, ofSetting?_toSetting, Option.filter_some, if_pos (decide_eq_true some)]

end Amount

theorem readAmount_toSetting (field : String) (amount : Amount) :
    readAmount field amount.toSetting = .ok amount := by
  simp only [readAmount, amount.ofSetting?_toSetting]

/-! ## Limits -/

namespace LimitSettings

theorem limits?_ofLimits {limits : Limits} (valid : limits.Valid) :
    (ofLimits limits).limits? = some limits := by
  simp only [limits?, ofLimits, Amount.positive?_toSetting valid.1,
    Amount.positive?_toSetting valid.2.1]
  exact if_neg valid.2.2

theorem resolve_ofLimits (field : String) {limits : Limits} (valid : limits.Valid) :
    (ofLimits limits).resolve field = .ok limits := by
  rw [← toOption_eq_some_iff, toOption_resolve, limits?_ofLimits valid]

theorem valid_of_resolve {settings : LimitSettings} {field : String} {limits : Limits}
    (read : settings.resolve field = .ok limits) : limits.Valid :=
  valid_of_limits? (limits?_of_resolve read)

end LimitSettings

end Turnstile
