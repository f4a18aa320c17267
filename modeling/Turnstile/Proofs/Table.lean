import Turnstile.Table

namespace Turnstile

/-! Tables built from lists and tables with changed values. Of several entries for one key
the last counts, so a table is built again from its own entries, and a set of keys from its
own keys. -/

section Entries

variable {Key Value : Type} [Ranked Key]

private theorem lookupRank_append (position : Nat) (first second : List (Key × Value)) :
    lookupRank position (first ++ second) =
      (lookupRank position first).or (lookupRank position second) := by
  induction first with
  | nil => rfl
  | cons head rest induction =>
      rw [List.cons_append, lookupRank, lookupRank]
      split
      next => rfl
      next => exact induction

/-- In an ascending list, what is found first is also found last. -/
private theorem lookupRank_reverse {entries : List (Key × Value)} (ascending : Ascending entries)
    (position : Nat) :
    lookupRank position entries.reverse = lookupRank position entries := by
  induction entries with
  | nil => rfl
  | cons head rest induction =>
      have parts := List.pairwise_cons.mp ascending
      rw [List.reverse_cons, lookupRank_append, induction parts.2]
      simp only [lookupRank]
      split
      next same =>
        have later : lookupRank position rest = none := by
          refine lookupRank_eq_none fun entry member => ?_
          have above := parts.1 entry member
          omega
        rw [later]
        rfl
      next => exact Option.or_none

private theorem ascending_map {Other : Type} (change : Value → Other) {entries : List (Key × Value)}
    (ascending : Ascending entries) :
    Ascending (entries.map fun entry => (entry.1, change entry.2)) := by
  rw [Ascending, List.pairwise_map]
  exact ascending

private theorem lookupRank_map {Other : Type} (change : Value → Other) (position : Nat)
    (entries : List (Key × Value)) :
    lookupRank position (entries.map fun entry => (entry.1, change entry.2)) =
      (lookupRank position entries).map change := by
  induction entries with
  | nil => rfl
  | cons head rest induction =>
      rw [List.map_cons, lookupRank, lookupRank, induction]
      split <;> rfl

/-- Entries of other ranks are passed by and kept, so one entry is added unless one of the
same rank stands there. -/
private theorem length_insertEntry (entry : Key × Value) {entries : List (Key × Value)}
    (ascending : Ascending entries) :
    (insertEntry (rank entry.1) entry entries).length =
      entries.length + if (lookupRank (rank entry.1) entries).isSome then 0 else 1 := by
  induction entries with
  | nil => rfl
  | cons head rest induction =>
      have parts := List.pairwise_cons.mp ascending
      rw [insertEntry]
      split
      next below =>
        have absent : lookupRank (rank entry.1) (head :: rest) = none := by
          apply lookupRank_eq_none
          intro other member
          rcases List.mem_cons.mp member with same | later
          · exact same ▸ (Nat.ne_of_lt below).symm
          · have above := parts.1 other later
            omega
        rw [absent]
        rfl
      next =>
        split
        next same => simp [lookupRank, same]
        next different =>
          rw [lookupRank, if_neg (Ne.symm different), List.length_cons, List.length_cons,
            induction parts.2]
          omega

end Entries

namespace Table

variable {Key Value Other : Type} [Ranked Key]

/-! ## Changed values -/

/-- Change every value and keep every key. -/
def map (table : Table Key Value) (change : Value → Other) : Table Key Other where
  entries := table.entries.map fun entry => (entry.1, change entry.2)
  ascending := ascending_map change table.ascending

theorem get?_map (table : Table Key Value) (change : Value → Other) (key : Key) :
    (table.map change).get? key = (table.get? key).map change :=
  lookupRank_map change (rank key) table.entries

theorem map_insert (table : Table Key Value) (change : Value → Other) (key : Key)
    (value : Value) :
    (table.insert key value).map change = (table.map change).insert key (change value) := by
  refine ext_get? fun sought => ?_
  rw [get?_map, get?_insert, get?_insert, get?_map]
  split <;> rfl

/-! ## Keys that are there already -/

theorem insert_insert (table : Table Key Value) (key : Key) (first second : Value) :
    (table.insert key first).insert key second = table.insert key second := by
  refine ext_get? fun sought => ?_
  simp only [get?_insert]
  split <;> rfl

theorem insert_of_get? {table : Table Key Value} {key : Key} {value : Value}
    (found : table.get? key = some value) : table.insert key value = table := by
  refine ext_get? fun sought => ?_
  rw [get?_insert]
  split
  next same => rw [← rank_injective same, found]
  next => rfl

theorem size_insert (table : Table Key Value) (key : Key) (value : Value) :
    (table.insert key value).size =
      table.size + if (table.get? key).isSome then 0 else 1 :=
  length_insertEntry (key, value) table.ascending

/-! ## Tables from lists -/

theorem get?_ofList (entries : List (Key × Value)) (key : Key) :
    (ofList entries).get? key = lookupRank (rank key) entries.reverse := by
  -- The last entry is inserted last, so the induction is from the end.
  rw [ofList, ← List.foldr_reverse]
  induction entries.reverse with
  | nil => rfl
  | cons entry rest induction =>
      rw [List.foldr_cons, get?_insert, lookupRank, induction]

@[simp] theorem ofList_entries (table : Table Key Value) : ofList table.entries = table := by
  refine ext_get? fun key => ?_
  rw [get?_ofList, lookupRank_reverse table.ascending]
  rfl

end Table

/-! ## Sets of keys -/

theorem KeySet.contains_assign {Key : Type} [Ranked Key] (set : KeySet Key) (key sought : Key)
    (present : Bool) :
    (set.assign key present).contains sought =
      if rank key = rank sought then present else set.contains sought := by
  rw [assign, Table.contains]
  cases present with
  | true =>
      rw [if_pos rfl, Table.get?_insert]
      split <;> rfl
  | false =>
      rw [if_neg Bool.false_ne_true, Table.get?_erase]
      split <;> rfl

/-- The set with all the keys in it. -/
def KeySet.withKeys {Key : Type} [Ranked Key] (set : KeySet Key) (keys : List Key) : KeySet Key :=
  keys.foldl (fun set key => set.assign key true) set

theorem KeySet.contains_withKeys {Key : Type} [Ranked Key] {set : KeySet Key} {keys : List Key}
    {sought : Key} : (set.withKeys keys).contains sought = true ↔
      sought ∈ keys ∨ set.contains sought = true := by
  induction keys generalizing set with
  | nil => simp [withKeys]
  | cons key rest induction =>
      rw [withKeys, List.foldl_cons, ← withKeys, induction, contains_assign, List.mem_cons]
      split
      next same => simp [rank_injective same]
      next other =>
        have different : sought ≠ key := fun same => other (congrArg rank same.symm)
        simp only [different, false_or]

theorem KeySet.ext_contains {Key : Type} [Ranked Key] {left right : KeySet Key}
    (agree : ∀ key, left.contains key = right.contains key) : left = right := by
  refine Table.ext_get? fun key => ?_
  have same := agree key
  rw [Table.contains, Table.contains] at same
  cases found : left.get? key <;> cases other : right.get? key <;> simp_all

@[simp] theorem KeySet.ofKeys_keys {Key : Type} [Ranked Key] (set : KeySet Key) :
    ofKeys set.keys = set := by
  have entries : set.keys.map (fun key => (key, ())) = set.entries := by
    rw [Table.keys, List.map_map]
    exact List.map_id _
  rw [ofKeys, entries, Table.ofList_entries]

end Turnstile
