import Mathlib.Data.List.Basic
import Turnstile.Json.Decoding
import Turnstile.Proofs.Json.Layout

namespace Turnstile.Json

/-! What a reader of a structure makes of the members of an object. It goes by the members that
are named as fields: in which order they stand does not matter to it, and all others might as
well be missing. -/

namespace Value

/-! ## Measures -/

theorem depthOfMembers_le_iff {members : List (Literal × Value)} {bound : Nat} :
    depthOfMembers members ≤ bound ↔ ∀ member ∈ members, member.2.depth ≤ bound := by
  induction members with
  | nil => simp [depthOfMembers]
  | cons member rest induction =>
      rw [depthOfMembers, Nat.max_le, induction, List.forall_mem_cons]

theorem freeItems_eq_true_iff {barred : Value → Bool} {items : List Value} :
    freeItems barred items = true ↔ ∀ item ∈ items, item.free barred = true := by
  induction items with
  | nil => simp [freeItems]
  | cons item rest induction =>
      rw [freeItems, Bool.and_eq_true, induction, List.forall_mem_cons]

theorem freeMembers_eq_true_iff {barred : Value → Bool} {members : List (Literal × Value)} :
    freeMembers barred members = true ↔ ∀ member ∈ members, member.2.free barred = true := by
  induction members with
  | nil => simp [freeMembers]
  | cons member rest induction =>
      rw [freeMembers, Bool.and_eq_true, induction, List.forall_mem_cons]

section Weaker

variable {strict lenient : Value → Bool}

mutual
/-- What is free of more is free of less. -/
private theorem free_of_free (weaker : ∀ value, strict value = false → lenient value = false) :
    ∀ value : Value, value.free strict = true → value.free lenient = true
  | .array items, free => by
      simp only [Value.free, Bool.and_eq_true, Bool.not_eq_true'] at free ⊢
      exact ⟨weaker _ free.1, freeItems_of_freeItems weaker items free.2⟩
  | .object members, free => by
      simp only [Value.free, Bool.and_eq_true, Bool.not_eq_true'] at free ⊢
      exact ⟨weaker _ free.1, freeMembers_of_freeMembers weaker members free.2⟩
  | .null, free | .bool _, free | .natural _, free | .number _, free | .string _, free
  | .cut, free => by
      simp only [Value.free, Bool.not_eq_true'] at free ⊢
      exact weaker _ free

private theorem freeItems_of_freeItems
    (weaker : ∀ value, strict value = false → lenient value = false) :
    ∀ items : List Value, freeItems strict items = true → freeItems lenient items = true
  | [], _ => rfl
  | item :: rest, free => by
      simp only [freeItems, Bool.and_eq_true] at free ⊢
      exact ⟨free_of_free weaker item free.1, freeItems_of_freeItems weaker rest free.2⟩

private theorem freeMembers_of_freeMembers
    (weaker : ∀ value, strict value = false → lenient value = false) :
    ∀ members : List (Literal × Value),
      freeMembers strict members = true → freeMembers lenient members = true
  | [], _ => rfl
  | (_, value) :: rest, free => by
      simp only [freeMembers, Bool.and_eq_true] at free ⊢
      exact ⟨free_of_free weaker value free.1, freeMembers_of_freeMembers weaker rest free.2⟩
end

end Weaker

theorem isWhole_of_readable {value : Value} (readable : value.free isUnreadable = true) :
    value.isWhole = true := by
  refine free_of_free (fun part => ?_) value readable
  cases part with
  | cut => exact fun barred => barred
  | _ => exact fun _ => rfl

theorem free_of_plain {barred : Value → Bool} (spared : ∀ part, Plain part → barred part = false)
    {value : Value} (plain : Plain value) : value.free barred = true := by
  induction plain with
  | null => simp [free, spared _ .null]
  | bool truth => simp [free, spared _ (.bool truth)]
  | natural bound => simp [free, spared _ (.natural bound)]
  | text content => simp [free, spared _ (.text content)]
  | array items_plain induction =>
      rw [free, spared _ (.array items_plain), freeItems_eq_true_iff.mpr induction]
      rfl
  | record members_plain induction =>
      rw [record, free, freeMembers_eq_true_iff.mpr (List.forall_mem_map.mpr induction)]
      exact congrArg (!· && true) (spared _ (.record members_plain))

theorem isUnreadable_of_plain {value : Value} (plain : Plain value) :
    value.isUnreadable = false := by
  cases plain with
  | null | bool | natural | text | array => rfl
  | record =>
      rw [record, isUnreadable, List.any_map]
      exact List.any_eq_false.mpr fun _ _ => Bool.false_ne_true

/-- A plain value is the value of the line that it is written as. -/
theorem ofText?_toLine {value : Value} (plain : Plain value) :
    ofText? value.toLine = some value := by
  have whole : value.isWhole = true :=
    free_of_plain (fun _ part => by cases part <;> rfl) plain
  rw [ofText?, read_toLine plain]
  simp [whole]

/-! ## Members named as fields -/

/-- The members that a reader of fields with the names looks at. -/
def concerning (names : List String) (members : List (Literal × Value)) :
    List (Literal × Value) :=
  members.filter fun member => member.1 ∈ names.map Literal.text

section Concerning

variable {names : List String} {name : String}

private theorem text_mem_iff : Literal.text name ∈ names.map Literal.text ↔ name ∈ names :=
  List.mem_map_of_injective fun _ _ => Literal.text.inj

variable (value : Value) (rest : List (Literal × Value))

private theorem concerning_cons_of_mem (known : name ∈ names) :
    concerning names ((.text name, value) :: rest) =
      (.text name, value) :: concerning names rest :=
  List.filter_cons_of_pos (decide_eq_true (List.mem_map_of_mem known))

private theorem concerning_cons_of_notMem (unknown : name ∉ names) :
    concerning names ((.text name, value) :: rest) = concerning names rest :=
  List.filter_cons_of_neg (of_decide_eq_true.mt (text_mem_iff.not.mpr unknown))

end Concerning

theorem concerning_eq_self {names : List String} {members : List (Literal × Value)}
    (known : ∀ member ∈ members, member.1 ∈ names.map Literal.text) :
    concerning names members = members :=
  List.filter_eq_self.mpr fun member inMembers => decide_eq_true (known member inMembers)

theorem find?_concerning {names : List String} {name : String} (asked : name ∈ names)
    (members : List (Literal × Value)) :
    (concerning names members).find? (fun member => member.1 = .text name) =
      members.find? fun member => member.1 = .text name := by
  rw [concerning, List.find?_filter]
  congr 1
  funext member
  by_cases called : member.1 = .text name
  · simp [called, asked]
  · simp [called]

theorem find?_eq_of_perm {first second : List (Literal × Value)} (same : first.Perm second)
    (distinct : (first.map Prod.fst).Nodup) (key : Literal) :
    (first.find? fun member => member.1 = key) = second.find? fun member => member.1 = key := by
  induction same with
  | nil => rfl
  | cons member _ induction =>
      rw [List.find?_cons, List.find?_cons, induction (List.nodup_cons.mp distinct).2]
  | swap one other rest =>
      have different : other.1 ≠ one.1 := fun equal =>
        (List.nodup_cons.mp distinct).1 (equal ▸ List.mem_cons_self)
      by_cases called : one.1 = key
      · have passed : other.1 ≠ key := called ▸ different
        simp [called, passed]
      · simp [List.find?_cons, called]
  | trans same _ before after =>
      exact (before distinct).trans (after ((same.map Prod.fst).nodup_iff.mp distinct))

/-- Keys are texts, and what no field has the name of has been read to its end. -/
structure Sound (names : List String) (members : List (Literal × Value)) : Prop where
  text : ∀ member ∈ members, member.1.isUnpaired = false
  whole : ∀ member ∈ members, member.1 ∉ names.map Literal.text → member.2.isWhole = true

/-- Keys that have not been seen before and are not repeated. -/
def Fresh (seen keys : List Literal) : Prop :=
  keys.Nodup ∧ ∀ key ∈ keys, key ∉ seen

instance (seen keys : List Literal) : Decidable (Fresh seen keys) :=
  inferInstanceAs (Decidable (_ ∧ _))

theorem fresh_nil_iff {keys : List Literal} : Fresh [] keys ↔ keys.Nodup :=
  and_iff_left fun _ _ => List.not_mem_nil

private theorem fresh_cons_iff {seen keys : List Literal} {key : Literal} :
    Fresh seen (key :: keys) ↔ key ∉ seen ∧ Fresh (key :: seen) keys := by
  rw [Fresh, Fresh, List.nodup_cons, List.forall_mem_cons]
  constructor
  · intro ⟨⟨once, distinct⟩, new, unseen⟩
    refine ⟨new, distinct, fun other member => List.not_mem_cons_of_ne_of_not_mem ?_ ?_⟩
    · exact fun same => once (same ▸ member)
    · exact unseen other member
  · intro ⟨new, distinct, unseen⟩
    refine ⟨⟨fun again => unseen key again List.mem_cons_self, distinct⟩, new, ?_⟩
    exact fun other member before => unseen other member (.tail key before)

/-- All that can be wrong with the names in a sound object is that a field has two members. -/
theorem checkMembers_of_sound {names seen : List String} {members : List (Literal × Value)}
    (sound : Sound names members) :
    checkMembers names seen members =
      if Fresh (seen.map Literal.text) ((concerning names members).map Prod.fst) then .ok ()
      else .error .mismatch := by
  induction members generalizing seen with
  | nil => exact (if_pos ⟨List.nodup_nil, nofun⟩).symm
  | cons member rest induction =>
      have later := fun seen => @induction seen
        ⟨fun other inRest => sound.text other (.tail member inRest),
          fun other inRest => sound.whole other (.tail member inRest)⟩
      rcases member with ⟨key, value⟩
      cases key with
      | unpaired => cases sound.text _ List.mem_cons_self
      | text name =>
          by_cases known : name ∈ names
          · simp only [checkMembers, List.contains_iff_mem, known, if_true,
              concerning_cons_of_mem value rest known, List.map_cons, fresh_cons_iff,
              text_mem_iff]
            by_cases before : name ∈ seen
            · simp only [before, not_true_eq_false, false_and, if_true, if_false]
            · simp only [before, not_false_eq_true, true_and, if_false]
              exact later (name :: seen)
          · have whole : value.isWhole = true :=
              sound.whole _ List.mem_cons_self (text_mem_iff.not.mpr known)
            simp only [checkMembers, List.contains_iff_mem, known, if_false, whole, if_true,
              concerning_cons_of_notMem value rest known]
            exact later seen

end Value

/-- A reader that asks for nothing but the named fields. -/
def AsksFor {Item : Type} (names : List String) (decode : Fields → Decoded Item) : Prop :=
  ∀ first second : Fields, (∀ name ∈ names, first name = second name) →
    decode first = decode second

/-- Sound objects are the same to a reader if what they have for the fields that it asks for
is, up to order. -/
theorem AsksFor.decode_eq {Item : Type} {names : List String} {decode : Fields → Decoded Item}
    {first second : List (Literal × Value)} (asks : AsksFor names decode)
    (first_sound : Value.Sound names first) (second_sound : Value.Sound names second)
    (same : (Value.concerning names first).Perm (Value.concerning names second))
    (surplus : Bool) :
    (Value.object first).fields names surplus >>= decode =
      (Value.object second).fields names surplus >>= decode := by
  have keys := same.map Prod.fst
  rw [Value.fields, Value.fields, Value.checkMembers_of_sound first_sound,
    Value.checkMembers_of_sound second_sound]
  simp only [List.map_nil, Value.fresh_nil_iff]
  by_cases distinct : ((Value.concerning names first).map Prod.fst).Nodup
  · rw [if_pos distinct, if_pos (keys.nodup_iff.mp distinct)]
    refine asks _ _ fun name asked => ?_
    rw [← Value.find?_concerning asked, Value.find?_eq_of_perm same distinct,
      Value.find?_concerning asked]
  · rw [if_neg distinct, if_neg (mt keys.nodup_iff.mpr distinct)]

end Turnstile.Json
