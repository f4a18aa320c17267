import Mathlib.Data.List.Induction
import Mathlib.Data.List.Sort
import Turnstile.Proofs.Table

namespace Turnstile

/-! Lists in the order of their keys. Such a list is determined by what stands in it, so what
is listed like this has one listing, however it came about. -/

/-- The list holds what it should, each thing once and in ascending order of its place. -/
structure Lists {Entry : Type} (place : Entry → Nat) (content : Entry → Prop)
    (entries : List Entry) : Prop where
  ascending : entries.Pairwise fun earlier later => place earlier < place later
  mem_iff : ∀ entry, entry ∈ entries ↔ content entry

namespace Lists

variable {Entry : Type} {place : Entry → Nat} {content other : Entry → Prop}
  {entries others : List Entry}

theorem congr (lists : Lists place content entries)
    (same : ∀ entry, content entry ↔ other entry) : Lists place other entries :=
  ⟨lists.ascending, fun entry => (lists.mem_iff entry).trans (same entry)⟩

theorem unique (lists : Lists place content entries) (again : Lists place content others) :
    entries = others := by
  have irreflexive : Std.Irrefl fun earlier later : Entry => place earlier < place later :=
    ⟨fun _ => Nat.lt_irrefl _⟩
  have antisymmetric : Std.Antisymm fun earlier later : Entry => place earlier < place later :=
    ⟨fun _ _ below above => absurd (Nat.lt_trans below above) (Nat.lt_irrefl _)⟩
  exact lists.ascending.eq_of_mem_iff again.ascending fun entry =>
    (lists.mem_iff entry).trans (again.mem_iff entry).symm

/-- What was listed once is listed in the same way again. -/
theorem again (lists : Lists place content entries) : Lists place (· ∈ entries) entries :=
  ⟨lists.ascending, fun _ => Iff.rfl⟩

end Lists

/-! ## Last entries -/

/-- No later entry is for the same key. -/
def LastOf {Key Value : Type} (entries : List (Key × Value)) (entry : Key × Value) : Prop :=
  ∃ earlier later, entries = earlier ++ entry :: later ∧ ∀ other ∈ later, other.1 ≠ entry.1

theorem lastOf_concat_iff {Key Value : Type} {entries : List (Key × Value)}
    {last entry : Key × Value} :
    LastOf (entries ++ [last]) entry ↔
      entry = last ∨ last.1 ≠ entry.1 ∧ LastOf entries entry := by
  constructor
  · rintro ⟨earlier, later, split, absent⟩
    rcases later.eq_nil_or_concat with rfl | ⟨rest, final, rfl⟩
    · exact .inl (List.append_singleton_inj.mp split).2.symm
    · rw [List.concat_eq_append] at split absent
      rw [← List.cons_append, ← List.append_assoc] at split
      rcases List.append_singleton_inj.mp split with ⟨before, rfl⟩
      refine .inr ⟨absent last (List.mem_append_right _ List.mem_cons_self), earlier, rest,
        before, fun other member => absent other (List.mem_append_left _ member)⟩
  · rintro (rfl | ⟨different, earlier, later, rfl, absent⟩)
    · exact ⟨entries, [], rfl, List.forall_mem_nil _⟩
    · refine ⟨earlier, later ++ [last], ?_, fun other member => ?_⟩
      · rw [List.append_assoc, List.cons_append]
      · rcases List.mem_append.mp member with before | last
        · exact absent other before
        · rw [List.mem_singleton.mp last]
          exact different

/-! ## Tables -/

section Tables

variable {Key Value : Type} [Ranked Key]

/-- Where an entry stands among others. -/
def placeOf (entry : Key × Value) : Nat := rank entry.1

theorem Table.lists (table : Table Key Value) :
    Lists placeOf (fun entry => table.get? entry.1 = some entry.2) table.entries :=
  ⟨table.ascending, fun _ => get?_eq_some_iff.symm⟩

theorem KeySet.lists (set : KeySet Key) :
    Lists rank (fun key => set.contains key = true) set.keys where
  ascending := List.pairwise_map.mpr set.ascending
  mem_iff key := by
    rw [Table.contains, Option.isSome_iff_exists, Table.keys, List.mem_map]
    constructor
    · rintro ⟨entry, present, rfl⟩
      exact ⟨entry.2, Table.get?_eq_some_iff.mpr present⟩
    · rintro ⟨value, found⟩
      exact ⟨(key, value), Table.get?_eq_some_iff.mp found, rfl⟩

theorem Table.get?_ofList_eq_some_iff {entries : List (Key × Value)} {key : Key}
    {value : Value} : (ofList entries).get? key = some value ↔ LastOf entries (key, value) := by
  -- The last entry is inserted last, so the induction is from the end.
  induction entries using List.reverseRecOn with
  | nil => simp [ofList, LastOf]
  | append_singleton entries last induction =>
      rw [lastOf_concat_iff, ← induction, ofList, List.foldl_append, List.foldl_cons,
        List.foldl_nil, get?_insert, ← ofList]
      by_cases same : last.1 = key
      · simp [same, Prod.ext_iff, eq_comm]
      · simp [rank_eq_iff, same, Prod.ext_iff, Ne.symm same]

/-- In a list that stands in order, no entry comes after another for the same key. -/
theorem lastOf_iff_mem {entries : List (Key × Value)} (ascending : Ascending entries)
    {entry : Key × Value} : LastOf entries entry ↔ entry ∈ entries := by
  constructor
  · rintro ⟨earlier, later, rfl, _⟩
    exact List.mem_append_right _ List.mem_cons_self
  · intro member
    rcases List.append_of_mem member with ⟨earlier, later, rfl⟩
    refine ⟨earlier, later, rfl, fun other present same => ?_⟩
    have parts := List.pairwise_append.mp ascending
    have above := (List.pairwise_cons.mp parts.2.1).1 other present
    rw [same] at above
    exact Nat.lt_irrefl _ above

theorem Table.lists_ofList (entries : List (Key × Value)) :
    Lists placeOf (LastOf entries) (ofList entries).entries :=
  (ofList entries).lists.congr fun _ => get?_ofList_eq_some_iff

theorem KeySet.contains_ofKeys {keys : List Key} {key : Key} :
    (ofKeys keys).contains key = true ↔ key ∈ keys := by
  have folded : ofKeys keys = withKeys .empty keys := List.foldl_map
  rw [folded, contains_withKeys]
  simp [Table.contains]

theorem KeySet.lists_ofKeys (keys : List Key) : Lists rank (· ∈ keys) (ofKeys keys).keys :=
  (ofKeys keys).lists.congr fun _ => contains_ofKeys

end Tables

end Turnstile
