namespace Turnstile.Text

/-! White space around written values. -/

/-- The characters that Unicode calls white space. -/
def isBlank (char : Char) : Bool :=
  let code := char.toNat
  (0x09 ≤ code && code ≤ 0x0d) || code = 0x20 || code = 0x85 || code = 0xa0 ||
    code = 0x1680 || (0x2000 ≤ code && code ≤ 0x200a) || code = 0x2028 || code = 0x2029 ||
    code = 0x202f || code = 0x205f || code = 0x3000

def dropBlankEnd (text : List Char) : List Char :=
  (text.reverse.dropWhile isBlank).reverse

/-- The text without the white space before and after it. -/
def trim (text : List Char) : List Char :=
  dropBlankEnd (text.dropWhile isBlank)

theorem trim_eq_self {text : List Char} (bare : ∀ char ∈ text, isBlank char = false) :
    trim text = text := by
  have whole (list : List Char) (clean : ∀ char ∈ list, isBlank char = false) :
      list.dropWhile isBlank = list := by
    cases list with
    | nil => rfl
    | cons char rest => simp [clean char (by simp)]
  rw [trim, dropBlankEnd, whole text bare, whole text.reverse (by simpa using bare),
    List.reverse_reverse]

end Turnstile.Text
