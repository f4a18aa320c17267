import Turnstile.Json.Stop

namespace Turnstile.Json

/-! The words of a JSON text. -/

inductive Token where
  | openArray
  | closeArray
  | openObject
  | closeObject
  | comma
  | colon
  | null
  | bool (truth : Bool)
  | natural (number : Nat)
  | number (numeral : Numeral)
  | string (literal : Literal)
  /-- Something that is no word. What follows it is looked at only if it is the end of
  an array. -/
  | broken
deriving DecidableEq

def isSpace (char : Char) : Bool :=
  char = ' ' || char = '\n' || char = '\t' || char = '\r'

/-! ## Words -/

def Token.ofNumeral (numeral : Numeral) : Token :=
  match numeral.natural? with
  | some value => .natural value
  | none => .number numeral

/-- The first word of an input that starts with neither a blank nor its end. -/
def readToken : List Char → Option (Token × List Char)
  | '[' :: rest => some (.openArray, rest)
  | ']' :: rest => some (.closeArray, rest)
  | '{' :: rest => some (.openObject, rest)
  | '}' :: rest => some (.closeObject, rest)
  | ',' :: rest => some (.comma, rest)
  | ':' :: rest => some (.colon, rest)
  | 'n' :: 'u' :: 'l' :: 'l' :: rest => some (.null, rest)
  | 't' :: 'r' :: 'u' :: 'e' :: rest => some (.bool true, rest)
  | 'f' :: 'a' :: 'l' :: 's' :: 'e' :: rest => some (.bool false, rest)
  | '"' :: rest =>
      (readString (some []) rest).map fun read => (.string read.1, read.2)
  | input => (Numeral.read input).map fun read => (Token.ofNumeral read.1, read.2)

theorem length_readToken_lt {input rest : List Char} {token : Token}
    (read : readToken input = some (token, rest)) : rest.length < input.length := by
  unfold readToken at read
  split at read
  case h_10 =>
    simp only [Option.map_eq_some_iff, Prod.mk.injEq] at read
    rcases read with ⟨⟨literal, remaining⟩, found, _, same⟩
    have bound := length_readString_lt found
    simp only at same
    rw [← same, List.length_cons]
    omega
  case h_11 =>
    simp only [Option.map_eq_some_iff, Prod.mk.injEq] at read
    rcases read with ⟨⟨numeral, remaining⟩, found, _, same⟩
    exact same ▸ Numeral.length_read_lt found
  all_goals
    simp only [Option.some.injEq, Prod.mk.injEq] at read
    rw [← read.2]
    simp only [List.length_cons]
    omega

/-- Where an array ends right behind something that is no word. -/
def closingBracket? (input : List Char) : Option (List Char) :=
  match (stop input).dropWhile isSpace with
  | ']' :: rest => some (']' :: rest)
  | _ => none

/-- The words of a text. Behind something that is no word only the end of an array is
looked for, and the words go on from there. -/
def tokens (input : List Char) : List Token :=
  match input with
  | [] => []
  | char :: rest =>
      if isSpace char then tokens rest
      else
        match _read : readToken (char :: rest) with
        | some (token, remaining) => token :: tokens remaining
        | none =>
            match closingBracket? (char :: rest) with
            | some remaining =>
                if _shorter : remaining.length < (char :: rest).length then
                  .broken :: tokens remaining
                else [.broken]
            | none => [.broken]
termination_by input.length
decreasing_by
  · simp
  · exact length_readToken_lt ‹_›
  · exact _shorter

end Turnstile.Json
