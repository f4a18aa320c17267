namespace Turnstile.Text

/-! Media types as requests name them: a type, a slash, a subtype, and parameters behind
semicolons. Case does not matter, and parameters only have to be well formed. -/

def isTokenChar (char : Char) : Bool :=
  char.isAlphanum || "!#$%&'*+-.^_`|~".toList.contains char

def isQuotable (char : Char) : Bool :=
  ' ' ≤ char && char < '\x7f'

/-! ## Parameters -/

/-- Where a reader of parameters is. -/
inductive ParameterPlace where
  /-- Behind a semicolon. -/
  | start
  | name
  /-- Behind an equals sign. -/
  | value
  | token
  /-- Behind an opening quote. The first character of a quoted value is taken as it is. -/
  | quote
  | quoted
  /-- Behind a closing quote. -/
  | closed
deriving DecidableEq, Inhabited

namespace ParameterPlace

def onToken (char : Char) (next : ParameterPlace) : Option ParameterPlace :=
  if isTokenChar char then some next else none

def onQuotable (char : Char) : Option ParameterPlace :=
  if isQuotable char then some quoted else none

def step : ParameterPlace → Char → Option ParameterPlace
  | start, ' ' => some start
  | start, char => onToken char name
  | name, '=' => some value
  | name, char => onToken char name
  | value, '"' => some quote
  | value, char => onToken char token
  | token, ';' => some start
  | token, char => onToken char token
  | quote, char => onQuotable char
  | quoted, '"' => some closed
  | quoted, char => onQuotable char
  | closed, ' ' => some closed
  | closed, ';' => some start
  | closed, _ => none

/-- A parameter may end here. -/
def isFinal : ParameterPlace → Bool
  | start | value | token | closed => true
  | name | quote | quoted => false

end ParameterPlace

/-- What follows the subtype is nothing, or parameters behind a semicolon. -/
def areParameters : List Char → Bool
  | [] => true
  | _ :: text =>
      match text.foldlM ParameterPlace.step .start with
      | some place => place.isFinal
      | none => false

/-! ## Types -/

/-- A media type without its parameters, in small letters. -/
structure MediaType where
  main : List Char
  subtype : List Char
deriving DecidableEq, Inhabited

namespace MediaType

def ofText? (text : List Char) : Option MediaType :=
  let essence := text.takeWhile (· ≠ ';')
  let main := essence.takeWhile (· ≠ '/')
  let subtype := (essence.dropWhile (· ≠ '/')).drop 1
  if !main.isEmpty && !subtype.isEmpty && main.all isTokenChar && subtype.all isTokenChar &&
      areParameters (text.dropWhile (· ≠ ';')) then
    some ⟨main.map Char.toLower, subtype.map Char.toLower⟩
  else none

/-- The subtype up to its last plus sign, and the suffix behind it. A plus sign in front
of everything separates nothing. -/
def splitSuffix (subtype : List Char) : List Char × Option (List Char) :=
  let backwards := subtype.reverse
  let stem := ((backwards.dropWhile (· ≠ '+')).drop 1).reverse
  if stem.isEmpty then (subtype, none)
  else (stem, some (backwards.takeWhile (· ≠ '+')).reverse)

/-- JSON itself, or a type that is written in JSON. -/
def isJson (mediaType : MediaType) : Bool :=
  let parts := splitSuffix mediaType.subtype
  mediaType.main = "application".toList &&
    (parts.1 = "json".toList || parts.2 = some "json".toList)

end MediaType

end Turnstile.Text
