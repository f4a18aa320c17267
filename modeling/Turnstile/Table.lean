namespace Turnstile

/-! Finite tables whose entries stand in strictly ascending order of a numeric
rank. The list of entries is therefore determined by what can be looked up, so
two tables with the same contents are equal and listing a table needs no
sorting. -/

/-- A type of keys told apart, and ordered, by a number. -/
class Ranked (Key : Type) where
  rank : Key → Nat
  rank_injective : ∀ {left right : Key}, rank left = rank right → left = right

export Ranked (rank rank_injective)

theorem rank_eq_iff {Key : Type} [Ranked Key] {left right : Key} :
    rank left = rank right ↔ left = right :=
  ⟨rank_injective, congrArg rank⟩

/-! ## Ascending lists of entries -/

section Entries

variable {Key Value : Type} [Ranked Key]

/-- Every entry ranks strictly below all entries after it. -/
def Ascending (entries : List (Key × Value)) : Prop :=
  entries.Pairwise fun earlier later => rank earlier.1 < rank later.1

instance (entries : List (Key × Value)) : Decidable (Ascending entries) :=
  inferInstanceAs (Decidable (List.Pairwise _ _))

def lookupRank (position : Nat) : List (Key × Value) → Option Value
  | [] => none
  | entry :: rest =>
      if rank entry.1 = position then some entry.2 else lookupRank position rest

/-- Put an entry in its place, over the entry of the same rank if there is one. -/
def insertEntry (position : Nat) (entry : Key × Value) :
    List (Key × Value) → List (Key × Value)
  | [] => [entry]
  | head :: rest =>
      if position < rank head.1 then entry :: head :: rest
      else if position = rank head.1 then entry :: rest
      else head :: insertEntry position entry rest

private theorem mem_of_mem_insertEntry {position : Nat} {entry member : Key × Value}
    {entries : List (Key × Value)} (present : member ∈ insertEntry position entry entries) :
    member = entry ∨ member ∈ entries := by
  induction entries with
  | nil => simpa [insertEntry] using present
  | cons head rest induction =>
      rw [insertEntry] at present
      split at present
      · simpa using present
      · split at present
        · exact (List.mem_cons.mp present).imp id (List.mem_cons_of_mem head)
        · rcases List.mem_cons.mp present with same | later
          · exact Or.inr (by simp [same])
          · exact (induction later).imp id (List.mem_cons_of_mem head)

theorem ascending_insertEntry (entry : Key × Value) {entries : List (Key × Value)}
    (ascending : Ascending entries) :
    Ascending (insertEntry (rank entry.1) entry entries) := by
  induction entries with
  | nil => simp [insertEntry, Ascending]
  | cons head rest induction =>
      have parts := List.pairwise_cons.mp ascending
      rw [insertEntry]
      split
      next below =>
        exact List.Pairwise.cons
          (fun member present => by
            rcases List.mem_cons.mp present with same | later
            · exact same ▸ below
            · exact Nat.lt_trans below (parts.1 member later))
          ascending
      next notBelow =>
        split
        next same =>
          exact List.Pairwise.cons
            (fun member present => same ▸ parts.1 member present) parts.2
        next different =>
          exact List.Pairwise.cons
            (fun member present => by
              rcases mem_of_mem_insertEntry present with same | later
              · exact same ▸ by omega
              · exact parts.1 member later)
            (induction parts.2)

private theorem lookupRank_insertEntry (entry : Key × Value) (entries : List (Key × Value))
    (sought : Nat) :
    lookupRank sought (insertEntry (rank entry.1) entry entries) =
      if rank entry.1 = sought then some entry.2 else lookupRank sought entries := by
  induction entries with
  | nil => simp [insertEntry, lookupRank]
  | cons head rest induction =>
      rw [insertEntry]
      split
      · simp [lookupRank]
      · split <;> simp only [lookupRank, induction] <;> split <;> simp_all

theorem lookupRank_eq_none {position : Nat} {entries : List (Key × Value)}
    (absent : ∀ entry ∈ entries, rank entry.1 ≠ position) :
    lookupRank position entries = none := by
  induction entries with
  | nil => rfl
  | cons head rest induction =>
      rw [lookupRank, if_neg (absent head (by simp))]
      exact induction fun entry present =>
        absent entry (List.mem_cons_of_mem head present)

private theorem lookupRank_of_mem {entry : Key × Value} {entries : List (Key × Value)}
    (ascending : Ascending entries) (present : entry ∈ entries) :
    lookupRank (rank entry.1) entries = some entry.2 := by
  induction entries with
  | nil => cases present
  | cons head rest induction =>
      have parts := List.pairwise_cons.mp ascending
      rcases List.mem_cons.mp present with same | later
      · simp [lookupRank, same]
      · have below := parts.1 entry later
        rw [lookupRank, if_neg (by omega)]
        exact induction parts.2 later

private theorem mem_of_lookupRank {position : Nat} {value : Value} {entries : List (Key × Value)}
    (found : lookupRank position entries = some value) :
    ∃ entry ∈ entries, rank entry.1 = position ∧ entry.2 = value := by
  induction entries with
  | nil => simp [lookupRank] at found
  | cons head rest induction =>
      rw [lookupRank] at found
      split at found
      next same => exact ⟨head, by simp, same, by simpa using found⟩
      next =>
        rcases induction found with ⟨entry, present, properties⟩
        exact ⟨entry, List.mem_cons_of_mem head present, properties⟩

private theorem lookupRank_filter {position sought : Nat} {entries : List (Key × Value)} :
    lookupRank sought (entries.filter fun entry => rank entry.1 ≠ position) =
      if position = sought then none else lookupRank sought entries := by
  induction entries with
  | nil => simp [lookupRank]
  | cons head rest induction =>
      by_cases same : rank head.1 = position
      · rw [List.filter_cons_of_neg (by simp [same]), induction, lookupRank]
        split
        · rfl
        · next different => rw [if_neg (by omega)]
      · rw [List.filter_cons_of_pos (by simp [same]), lookupRank, lookupRank, induction]
        split
        · next found => rw [if_neg (by omega)]
        · rfl

/-- Ascending lists in which the same can be found at every rank are equal. -/
private theorem ascending_ext {left right : List (Key × Value)}
    (leftAscending : Ascending left) (rightAscending : Ascending right)
    (agree : ∀ position, lookupRank position left = lookupRank position right) :
    left = right := by
  induction left generalizing right with
  | nil =>
      cases right with
      | nil => rfl
      | cons head rest =>
          have found := agree (rank head.1)
          simp [lookupRank] at found
  | cons head rest induction =>
      cases right with
      | nil =>
          have found := agree (rank head.1)
          simp [lookupRank] at found
      | cons other remaining =>
          have leftParts := List.pairwise_cons.mp leftAscending
          have rightParts := List.pairwise_cons.mp rightAscending
          have ranks : rank head.1 = rank other.1 := by
            have leftFound := (agree (rank head.1)).symm
            have rightFound := agree (rank other.1)
            simp only [lookupRank, if_true] at leftFound rightFound
            rcases Nat.lt_trichotomy (rank head.1) (rank other.1) with below | same | above
            · rw [if_neg (by omega)] at leftFound
              rcases mem_of_lookupRank leftFound with ⟨entry, present, at_head, _⟩
              have later := rightParts.1 entry present
              omega
            · exact same
            · rw [if_neg (by omega)] at rightFound
              rcases mem_of_lookupRank rightFound with ⟨entry, present, at_other, _⟩
              have later := leftParts.1 entry present
              omega
          have values : head.2 = other.2 := by
            have found := agree (rank head.1)
            simpa [lookupRank, ranks] using found
          have heads : head = other := Prod.ext (rank_injective ranks) values
          subst heads
          congr
          refine induction leftParts.2 rightParts.2 fun position => ?_
          by_cases same : rank head.1 = position
          · rw [lookupRank_eq_none, lookupRank_eq_none]
            · intro entry present
              have later := rightParts.1 entry present
              omega
            · intro entry present
              have later := leftParts.1 entry present
              omega
          · have found := agree position
            simpa [lookupRank, same] using found

end Entries

/-! ## Tables -/

structure Table (Key Value : Type) [Ranked Key] where
  entries : List (Key × Value)
  ascending : Ascending entries
deriving DecidableEq

namespace Table

variable {Key Value : Type} [Ranked Key]

def empty : Table Key Value where
  entries := []
  ascending := List.Pairwise.nil

instance : Inhabited (Table Key Value) := ⟨empty⟩

def get? (table : Table Key Value) (key : Key) : Option Value :=
  lookupRank (rank key) table.entries

def contains (table : Table Key Value) (key : Key) : Bool :=
  (table.get? key).isSome

def insert (table : Table Key Value) (key : Key) (value : Value) : Table Key Value where
  entries := insertEntry (rank key) (key, value) table.entries
  ascending := ascending_insertEntry (key, value) table.ascending

def erase (table : Table Key Value) (key : Key) : Table Key Value where
  entries := table.entries.filter fun entry => rank entry.1 ≠ rank key
  ascending := table.ascending.filter _

def size (table : Table Key Value) : Nat :=
  table.entries.length

def keys (table : Table Key Value) : List Key :=
  table.entries.map Prod.fst

/-- Of several values for one key the last is kept. -/
def ofList (entries : List (Key × Value)) : Table Key Value :=
  entries.foldl (fun table entry => table.insert entry.1 entry.2) empty

@[simp] theorem get?_empty (key : Key) : (empty : Table Key Value).get? key = none := rfl

theorem get?_insert (table : Table Key Value) (key sought : Key) (value : Value) :
    (table.insert key value).get? sought =
      if rank key = rank sought then some value else table.get? sought :=
  lookupRank_insertEntry (key, value) table.entries (rank sought)

@[simp] theorem get?_insert_self (table : Table Key Value) (key : Key) (value : Value) :
    (table.insert key value).get? key = some value := by
  simp [get?_insert]

theorem get?_insert_of_ne (table : Table Key Value) {key sought : Key} (value : Value)
    (different : sought ≠ key) :
    (table.insert key value).get? sought = table.get? sought := by
  rw [get?_insert, if_neg]
  exact fun equal => different (rank_injective equal).symm

theorem get?_erase (table : Table Key Value) (key sought : Key) :
    (table.erase key).get? sought =
      if rank key = rank sought then none else table.get? sought :=
  lookupRank_filter

@[simp] theorem get?_erase_self (table : Table Key Value) (key : Key) :
    (table.erase key).get? key = none := by
  simp [get?_erase]

theorem get?_eq_some_iff {table : Table Key Value} {key : Key} {value : Value} :
    table.get? key = some value ↔ (key, value) ∈ table.entries := by
  constructor
  · intro found
    rcases mem_of_lookupRank found with ⟨entry, present, ranks, values⟩
    have equal : entry = (key, value) := Prod.ext (rank_injective ranks) values
    exact equal ▸ present
  · exact fun present => lookupRank_of_mem table.ascending present

/-- A table is determined by what can be looked up in it. -/
theorem ext_get? {left right : Table Key Value}
    (agree : ∀ key, left.get? key = right.get? key) : left = right := by
  have entries : left.entries = right.entries := by
    refine ascending_ext left.ascending right.ascending fun position => ?_
    cases inLeft : lookupRank position left.entries with
    | some value =>
        rcases mem_of_lookupRank inLeft with ⟨entry, _, ranks, _⟩
        have found := agree entry.1
        rw [get?, get?, ranks, inLeft] at found
        exact found
    | none =>
        cases inRight : lookupRank position right.entries with
        | none => rfl
        | some value =>
            rcases mem_of_lookupRank inRight with ⟨entry, _, ranks, _⟩
            have found := agree entry.1
            rw [get?, get?, ranks, inLeft, inRight] at found
            exact found
  cases left
  cases right
  simp only at entries
  subst entries
  rfl

end Table

/-! ## Sets of keys -/

/-- A finite set, as a table without values. -/
abbrev KeySet (Key : Type) [Ranked Key] := Table Key Unit

namespace KeySet

variable {Key : Type} [Ranked Key]

def ofKeys (keys : List Key) : KeySet Key :=
  Table.ofList (keys.map fun key => (key, ()))

/-- Keep the key if `present`, drop it otherwise. -/
def assign (set : KeySet Key) (key : Key) (present : Bool) : KeySet Key :=
  if present then set.insert key () else set.erase key

end KeySet

end Turnstile
