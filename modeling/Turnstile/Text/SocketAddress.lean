import Turnstile.Text.Digits

namespace Turnstile.Text

/-! Socket addresses: a numeric host address of version four or six and a port. Host
names are not resolved. -/

inductive SocketAddress where
  | ipv4 (octets : List Nat) (port : Nat)
  | ipv6 (groups : List Nat) (scope : Nat) (port : Nat)
deriving DecidableEq

namespace SocketAddress

/-! ## Reading

Every reader takes something off the front of a text and returns it with the rest. -/

def expect (sign : Char) : List Char → Option (List Char)
  | [] => none
  | char :: rest => if char = sign then some rest else none

/-- Read all digits that follow, as a number below the bound. -/
def readNumber (base bound : Nat) (input : List Char) : Option (Nat × List Char) :=
  let digits := input.takeWhile fun char => (digitBelow base char).isSome
  if digits.isEmpty then none
  else
    match ofDigits base digits with
    | some number =>
        if number < bound then some (number, input.drop digits.length) else none
    | none => none

/-- An octet has no leading zeros. -/
def readOctet (input : List Char) : Option (Nat × List Char) :=
  match readNumber 10 256 input with
  | some (octet, rest) =>
      if input.head? = some '0' && rest.length + 1 ≠ input.length then none
      else some (octet, rest)
  | none => none

def readOctets : (count : Nat) → List Char → Option (List Nat × List Char)
  | 0, _ => none
  | 1, input => do
      let (octet, rest) ← readOctet input
      return ([octet], rest)
  | count + 2, input => do
      let (octet, afterOctet) ← readOctet input
      let (octets, rest) ← readOctets (count + 1) (← expect '.' afterOctet)
      return (octet :: octets, rest)

/-- A group has at most four hexadecimal digits. -/
def readGroup (input : List Char) : Option (Nat × List Char) :=
  match readNumber 16 UInt16.size input with
  | some (group, rest) => if input.length ≤ rest.length + 4 then some (group, rest) else none
  | none => none

/-- Four octets take the place of two groups. -/
def groupsOfOctets : List Nat → List Nat
  | high :: low :: octets => (high * 256 + low) :: groupsOfOctets octets
  | _ => []

structure Groups where
  groups : List Nat
  /-- The last two groups were written as octets. -/
  dotted : Bool
  rest : List Char

/-- Read up to `space` groups, with colons between them. Octets may stand where there is
space for two groups, and nothing follows them. -/
def readGroups : (space : Nat) → (first : Bool) → List Char → Groups
  | 0, _, input => ⟨[], false, input⟩
  | space + 1, first, input =>
      let start? := if first then some input else expect ':' input
      match if space = 0 then none else start?.bind (readOctets 4) with
      | some (octets, rest) => ⟨groupsOfOctets octets, true, rest⟩
      | none =>
          match start?.bind readGroup with
          | some (group, afterGroup) =>
              let others := readGroups space false afterGroup
              ⟨group :: others.groups, others.dotted, others.rest⟩
          | none => ⟨[], false, input⟩

/-- Two colons in a row stand for one or more groups of zero; octets come last. -/
def readHost6 (input : List Char) : Option (List Nat × List Char) := do
  let head := readGroups 8 true input
  if head.groups.length = 8 then
    return (head.groups, head.rest)
  else if head.dotted then
    none
  else
    let afterColons ← expect ':' (← expect ':' head.rest)
    let tail := readGroups (7 - head.groups.length) true afterColons
    let zeros := List.replicate (8 - head.groups.length - tail.groups.length) 0
    return (head.groups ++ zeros ++ tail.groups, tail.rest)

def readPort (input : List Char) : Option (Nat × List Char) := do
  readNumber 10 UInt16.size (← expect ':' input)

def readScope (input : List Char) : Option (Nat × List Char) := do
  readNumber 10 UInt32.size (← expect '%' input)

def readIpv4 (input : List Char) : Option (SocketAddress × List Char) := do
  let (octets, afterHost) ← readOctets 4 input
  let (port, rest) ← readPort afterHost
  return (.ipv4 octets port, rest)

def readIpv6 (input : List Char) : Option (SocketAddress × List Char) := do
  let (groups, afterHost) ← readHost6 (← expect '[' input)
  let (scope, afterScope) := (readScope afterHost).getD (0, afterHost)
  let (port, rest) ← readPort (← expect ']' afterScope)
  return (.ipv6 groups scope port, rest)

def ofText? (text : List Char) : Option SocketAddress :=
  match readIpv4 text <|> readIpv6 text with
  | some (address, []) => some address
  | _ => none

/-! ## Writing -/

def join (separator : String) (parts : List String) : String :=
  separator.intercalate parts

def writeOctets (octets : List Nat) : String :=
  join "." (octets.map decimal)

def writeGroups (groups : List Nat) : String :=
  join ":" (groups.map hexadecimal)

/-- Where the longest run of zero groups starts and how long it is; of several the first
one. -/
def longestZeros (groups : List Nat) : Nat × Nat :=
  (List.range groups.length).foldl
    (fun longest start =>
      let length := ((groups.drop start).takeWhile (· = 0)).length
      if longest.2 < length then (start, length) else longest)
    (0, 0)

/-- The octets of an address of version four in one of version six. -/
def mappedOctets? : List Nat → Option (List Nat)
  | [0, 0, 0, 0, 0, 0xffff, high, low] =>
      some [high / 256, high % 256, low / 256, low % 256]
  | _ => none

/-- The longest run of two or more zero groups is left out. -/
def writeHost6 (groups : List Nat) : String :=
  match mappedOctets? groups with
  | some octets => "::ffff:" ++ writeOctets octets
  | none =>
      let (start, length) := longestZeros groups
      if length < 2 then writeGroups groups
      else writeGroups (groups.take start) ++ "::" ++ writeGroups (groups.drop (start + length))

def toText : SocketAddress → String
  | .ipv4 octets port => writeOctets octets ++ ":" ++ decimal port
  | .ipv6 groups scope port =>
      let mark := if scope = 0 then "" else "%" ++ decimal scope
      "[" ++ writeHost6 groups ++ mark ++ "]:" ++ decimal port

end SocketAddress

end Turnstile.Text
