import Turnstile.Text.Digits

namespace Turnstile.Text

/-! Percent escapes in paths: a percent sign and two hexadecimal digits stand for one byte
of the UTF-8 form of a text. A percent sign without two digits stands for itself. -/

/-- The bytes of a text with escapes. -/
def unescape : List Char → List UInt8
  | '%' :: high :: low :: rest =>
      match ofDigits 16 [high, low] with
      | some number => number.toUInt8 :: unescape rest
      | none => '%'.toNat.toUInt8 :: unescape (high :: low :: rest)
  | char :: rest => String.utf8EncodeChar char ++ unescape rest
  | [] => []

/-- The text that an escaped text denotes, unless its bytes are those of no text. -/
def ofEscaped? (text : String) : Option String :=
  String.fromUTF8? (unescape text.toList).toByteArray

end Turnstile.Text
