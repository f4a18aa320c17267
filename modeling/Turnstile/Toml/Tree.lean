import Turnstile.Toml.Value

namespace Turnstile.Toml

/-! Tables while a document is being read. A table can be opened once by a header, and
dotted keys can add to tables that only dotted keys have made; the origin of every
table is kept until all of them are complete. -/

inductive Origin where
  /-- Opened by its own header, or complete from the start. -/
  | header
  /-- Needed by the header of a table further inside. -/
  | implied
  /-- Made by a dotted key. -/
  | dotted
deriving DecidableEq

inductive Node where
  | value (value : Value)
  | table (origin : Origin) (members : List (String × Node))
  /-- Tables under one array header; the last one is being added to. -/
  | tables (earlier : List (List (String × Node))) (last : List (String × Node))

abbrev Members := List (String × Node)

namespace Members

def find? (members : Members) (key : String) : Option Node :=
  members.lookup key

/-- Put a node in the place of the one with that key, or behind all others. -/
def put (key : String) (node : Node) : Members → Members
  | [] => [(key, node)]
  | (other, old) :: rest =>
      if other = key then (key, node) :: rest else (other, old) :: put key node rest

/-- Change the table at the end of a path, making tables where there are none. The
change is told where the table comes from. -/
def change (made : Origin) (act : Origin → Members → Option Members) :
    (path : List String) → (origin : Origin) → Members → Option Members
  | [], origin, members => act origin members
  | key :: path, _, members =>
      match find? members key with
      | none => do
          let inner ← change made act path made []
          return put key (.table made inner) members
      | some (.value _) => none
      | some (.table origin inner) =>
          if made = .dotted && origin = .header then none
          else do
            let inner ← change made act path origin inner
            return put key (.table origin inner) members
      | some (.tables earlier last) => do
          let last ← change made act path .header last
          return put key (.tables earlier last) members

/-- Add a value under a dotted key. The table it goes into is either the one being
written or was made by dotted keys only. -/
def assign (members : Members) (path : List String) (key : String) (value : Value) :
    Option Members :=
  members.change .dotted (fun origin inner =>
      if path.isEmpty || origin = .dotted then
        if (find? inner key).isSome then none else some (put key (.value value) inner)
      else none)
    path .header

/-- What a table header finds in its place: nothing, or a table that so far was only
needed by others. -/
def atHeader? (members : Members) : (path : List String) → Option Members
  | [] => some []
  | [key] =>
      match find? members key with
      | none => some []
      | some (.table .implied inner) => some inner
      | some _ => none
  | key :: next :: path =>
      match find? members key with
      | none => some []
      | some (.value _) => none
      | some (.table _ inner) => atHeader? inner (next :: path)
      | some (.tables _ last) => atHeader? last (next :: path)

/-- Put a table that a header has opened where it belongs. -/
def close (members : Members) (path : List String) (table : Members) : Option Members :=
  match path.getLast? with
  | none => some table
  | some key =>
      members.change .implied (fun _ inner => some (put key (.table .header table) inner))
        path.dropLast .header

/-- Add a table to the array that a header of arrays names. -/
def push (members : Members) (path : List String) (table : Members) : Option Members :=
  match path.getLast? with
  | none => none
  | some key =>
      members.change .implied (fun _ inner =>
          match find? inner key with
          | none => some (put key (.tables [] table) inner)
          | some (.tables earlier last) =>
              some (put key (.tables (earlier ++ [last]) table) inner)
          | some _ => none)
        path.dropLast .header

end Members

mutual
def Node.toValue : Node → Value
  | .value value => value
  | .table _ members => .table (membersToValues members)
  | .tables earlier last =>
      .array (tablesToValues earlier ++ [.table (membersToValues last)])

def membersToValues : List (String × Node) → List (String × Value)
  | [] => []
  | (key, node) :: rest => (key, node.toValue) :: membersToValues rest

def tablesToValues : List (List (String × Node)) → List Value
  | [] => []
  | members :: rest => .table (membersToValues members) :: tablesToValues rest
end

/-! ## Documents in progress -/

/-- The tables that are complete, and the one being written. -/
structure Draft where
  root : Members
  /-- The header of the table being written; the root itself has none. -/
  path : List String
  /-- The table being written is one of an array. -/
  repeated : Bool
  current : Members

namespace Draft

def empty : Draft where
  root := []
  path := []
  repeated := false
  current := []

/-- Complete the table being written. -/
def finish? (draft : Draft) : Option Members :=
  if draft.repeated then draft.root.push draft.path draft.current
  else draft.root.close draft.path draft.current

def openTable? (draft : Draft) (path : List String) : Option Draft := do
  let root ← draft.finish?
  let current ← root.atHeader? path
  return { root, path, repeated := false, current }

def openElement? (draft : Draft) (path : List String) : Option Draft := do
  let root ← draft.finish?
  let _ ← root.push path []
  return { root, path, repeated := true, current := [] }

def assign? (draft : Draft) (path : List String) (key : String) (value : Value) :
    Option Draft := do
  return { draft with current := ← draft.current.assign path key value }

end Draft

end Turnstile.Toml
