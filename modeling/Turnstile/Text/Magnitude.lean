import Turnstile.Text.Digits

namespace Turnstile.Text

/-! The magnitude of numbers written with an exponent. -/

/-- Whether `mantissa * 10 ^ scale` is above every double: `2 ^ 1024 - 2 ^ 970` is the
least number that is rounded to infinity. -/
def exceedsDouble (mantissa : Nat) (scale : Int) : Bool :=
  let magnitude := scale + (Nat.toDigits 10 mantissa).length
  let bound := Nat.pow 2 1024 - Nat.pow 2 970
  if mantissa = 0 || magnitude < 300 then false
  else if 400 < magnitude then true
  else if scale < 0 then decide (bound * Nat.pow 10 scale.natAbs ≤ mantissa)
  else decide (bound ≤ mantissa * Nat.pow 10 scale.natAbs)

/-- The nearest number with at most 53 significant binary digits; of two that are equally
near, the one whose last digit is even. -/
def roundToDouble (number : Nat) : Nat :=
  let unit := Nat.pow 2 (number.log2 - 52)
  let quotient := number / unit
  let remainder := number % unit
  let up := unit < 2 * remainder || (2 * remainder = unit && quotient % 2 = 1)
  (if up then quotient + 1 else quotient) * unit

/-- Whether the product of `significand` and `10 ^ scale` is above every double when both
factors are rounded before they are multiplied. The significand is below `10 ^ 300`. -/
def productExceedsDouble (significand : Nat) (scale : Int) : Bool :=
  if significand = 0 || scale < 0 then false
  else if 308 < scale then true
  else
    let product := roundToDouble significand * roundToDouble (Nat.pow 10 scale.toNat)
    decide (Nat.pow 2 1024 ≤ roundToDouble product)

end Turnstile.Text
