import Turnstile.Text.Magnitude
import Turnstile.Toml.Value

namespace Turnstile.Toml

/-! Values that are written as one word: truth values, numbers, dates and times. -/

/-! ## Numbers -/

/-- Digits with single underscores between them, without the underscores. -/
def bareDigits? (isDigit : Char → Bool) : List Char → Option (List Char)
  | [] => none
  | [char] => if isDigit char then some [char] else none
  | char :: '_' :: rest =>
      if isDigit char then (bareDigits? isDigit rest).map (char :: ·) else none
  | char :: rest =>
      if isDigit char then (bareDigits? isDigit rest).map (char :: ·) else none

def splitSign : List Char → Bool × List Char
  | '-' :: rest => (true, rest)
  | '+' :: rest => (false, rest)
  | word => (false, word)

/-- A decimal number without leading zeros. -/
def wholeDigits? (word : List Char) : Option (List Char) :=
  (bareDigits? Char.isDigit word).filter fun digits =>
    digits.length = 1 || digits.head? ≠ some '0'

/-- Integers fit into 64 bits with a sign. -/
def inRange? (number : Int) : Option Value :=
  if -0x8000000000000000 ≤ number ∧ number < 0x8000000000000000 then some (.integer number)
  else none

def basedInteger? (base : Nat) (word : List Char) : Option Value := do
  let digits ← bareDigits? (fun char => (Text.digitBelow base char).isSome) word
  inRange? (← Text.ofDigits base digits)

def decimalInteger? (word : List Char) : Option Value := do
  let (negative, unsigned) := splitSign word
  let number : Int := ← Text.ofDigits 10 (← wholeDigits? unsigned)
  inRange? (if negative then -number else number)

def integer? : List Char → Option Value
  | '0' :: 'x' :: word => basedInteger? 16 word
  | '0' :: 'o' :: word => basedInteger? 8 word
  | '0' :: 'b' :: word => basedInteger? 2 word
  | word => decimalInteger? word

/-- The exponent that follows a mark; leading zeros do no harm. -/
def exponent? (word : List Char) : Option Int := do
  let (negative, unsigned) := splitSign word
  let number : Int := ← Text.ofDigits 10 (← bareDigits? Char.isDigit unsigned)
  return if negative then -number else number

/-- The parts before and after the first character of a kind. -/
def splitAtFirst (isMark : Char → Bool) (word : List Char) :
    List Char × Option (List Char) :=
  match word.dropWhile fun char => !isMark char with
  | [] => (word, none)
  | _ :: rest => (word.takeWhile fun char => !isMark char, some rest)

/-- A number with a fraction, an exponent or both. Positive numbers above every double
are refused. -/
def decimalFloat? (word : List Char) : Option Value := do
  let (negative, unsigned) := splitSign word
  let (mantissa, power) := splitAtFirst (fun char => char = 'e' || char = 'E') unsigned
  let (whole, fraction) := splitAtFirst (· = '.') mantissa
  let whole ← wholeDigits? whole
  let fraction ← match fraction with
    | some digits => bareDigits? Char.isDigit digits
    | none => if power.isSome then some [] else none
  let exponent ← match power with
    | some power => exponent? power
    | none => some 0
  let digits ← Text.ofDigits 10 (whole ++ fraction)
  if !negative && Text.exceedsDouble digits (exponent - fraction.length) then none
  else some (.float (String.ofList word))

def specialFloat? (word : List Char) : Option Value :=
  let unsigned := (splitSign word).2
  if unsigned = "inf".toList || unsigned = "nan".toList then
    some (.float (String.ofList word))
  else none

/-! ## Dates and times -/

/-- The number of exactly `width` digits, and what follows them. -/
def readFixed (width low high : Nat) (word : List Char) : Option (Nat × List Char) :=
  let digits := word.take width
  if digits.length = width && digits.all Char.isDigit then
    (Text.ofDigits 10 digits).bind fun number =>
      if low ≤ number && number ≤ high then some (number, word.drop width) else none
  else none

def readMark (isMark : Char → Bool) : List Char → Option (List Char)
  | [] => none
  | char :: rest => if isMark char then some rest else none

def isLeap (year : Nat) : Bool :=
  year % 4 = 0 && (year % 100 ≠ 0 || year % 400 = 0)

def daysInMonth (year month : Nat) : Nat :=
  if month = 2 then (if isLeap year then 29 else 28)
  else if month = 4 || month = 6 || month = 9 || month = 11 then 30
  else 31

/-- What follows a date at the front of a word. -/
def afterDate (word : List Char) : Option (List Char) := do
  let (year, afterYear) ← readFixed 4 0 9999 word
  let (month, afterMonth) ← readFixed 2 1 12 (← readMark (· = '-') afterYear)
  let (_, rest) ← readFixed 2 1 (daysInMonth year month) (← readMark (· = '-') afterMonth)
  return rest

/-- What follows a fraction of a second, if there is one. -/
def afterFraction : List Char → Option (List Char)
  | '.' :: rest =>
      if (rest.head?.map Char.isDigit).getD false then some (rest.dropWhile Char.isDigit)
      else none
  | word => some word

/-- What follows a time of day at the front of a word. -/
def afterTime (word : List Char) : Option (List Char) := do
  let (_, afterHour) ← readFixed 2 0 23 word
  let (_, afterMinute) ← readFixed 2 0 59 (← readMark (· = ':') afterHour)
  let (_, afterSecond) ← readFixed 2 0 60 (← readMark (· = ':') afterMinute)
  afterFraction afterSecond

/-- Nothing, or the mark of an offset from universal time. -/
def isOffset (word : List Char) : Bool :=
  match word with
  | [] => true
  | ['Z'] => true
  | ['z'] => true
  | sign :: rest =>
      (sign = '+' || sign = '-') &&
        ((do
          let (_, afterHour) ← readFixed 2 0 23 rest
          let (_, rest) ← readFixed 2 0 59 (← readMark (· = ':') afterHour)
          return rest.isEmpty) : Option Bool).getD false

def isTime (word : List Char) : Bool :=
  afterTime word = some []

def isTimeWithOffset (word : List Char) : Bool :=
  ((afterTime word).map isOffset).getD false

def isDate (word : List Char) : Bool :=
  afterDate word = some []

def isDatetime (word : List Char) : Bool :=
  match afterDate word with
  | some [] => true
  | some (mark :: time) => (mark = 'T' || mark = 't' || mark = ' ') && isTimeWithOffset time
  | none => isTime word

/-! ## Words -/

def isWordChar (char : Char) : Bool :=
  char.isAlphanum || char = '_' || char = '+' || char = '-' || char = '.' || char = ':'

/-- The value that a word stands for. -/
def ofWord? (word : List Char) : Option Value :=
  if word = "true".toList then some (.bool true)
  else if word = "false".toList then some (.bool false)
  else if isDatetime word then some (.datetime (String.ofList word))
  else integer? word <|> decimalFloat? word <|> specialFloat? word

end Turnstile.Toml
