import Turnstile.Text.Blank

namespace Turnstile.Admin

/-! Who may administer: whoever presents the key in an `Authorization` header. -/

/-- A header that can be read as text: visible ASCII characters, spaces and tabs. -/
def isHeaderText (header : String) : Bool :=
  header.toList.all fun char => char = '\t' || (' ' ≤ char && char < '\x7f')

/-- The token that a header presents: what follows the word `Bearer ` without the white
space around it. -/
def bearerToken? (header : String) : Option String :=
  match header.toList with
  | 'B' :: 'e' :: 'a' :: 'r' :: 'e' :: 'r' :: ' ' :: token =>
      some (String.ofList (Text.trim token))
  | _ => none

/-- The differences of two rows of bytes, gathered in one byte. -/
def difference (left right : List UInt8) : UInt8 :=
  (left.zipWith (· ^^^ ·) right).foldl (· ||| ·) 0

/-- Whether two keys are the same. Every byte is looked at wherever the first difference
is, so that the time taken tells nothing about it. -/
def keysMatch (presented expected : String) : Bool :=
  let left := presented.toByteArray.toList
  let right := expected.toByteArray.toList
  left.length = right.length && difference left right = 0

/-- The header, if there is one, presents the key. -/
def isAuthorized (key : String) (header : Option String) : Bool :=
  match (header.filter isHeaderText).bind bearerToken? with
  | some token => keysMatch token key
  | none => false

end Turnstile.Admin
