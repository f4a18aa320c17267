import Mathlib.Data.List.Nodup
import Turnstile.Proofs.Json.Members
import Turnstile.Wire.Snapshot

namespace Turnstile

/-! Forms of domain values that can be written and are read as what they were written for.
A form of a structure is faithful if the forms of its fields are. -/

open Json

namespace Json.Value

/-! ## Structures as objects -/

theorem find?_record (members : List (String × Value)) (name : String) :
    ((members.map fun member => ((.text member.1, member.2) : Literal × Value)).find?
        fun member => member.1 = .text name).map Prod.snd = members.lookup name := by
  induction members with
  | nil => rfl
  | cons member rest induction =>
      rcases member with ⟨key, value⟩
      by_cases same : key = name
      · simp [same]
      · have different : (name == key) = false := beq_false_of_ne (Ne.symm same)
        simp only [List.map_cons, List.lookup_cons, different]
        rw [List.find?_cons_of_neg (by simpa using same)]
        exact induction

/-- A record with all fields of a structure and no others is read as that structure. -/
theorem fields_record {names : List String} {members : List (String × Value)}
    (named : members.map Prod.fst = names) (distinct : names.Nodup) (surplus : Bool) :
    (record members).fields names surplus = .ok fun name => members.lookup name := by
  let written : List (Literal × Value) := members.map fun member => (.text member.1, member.2)
  have keys : written.map Prod.fst = names.map Literal.text := by
    rw [← named, List.map_map, List.map_map]
    rfl
  have known : ∀ member ∈ written, member.1 ∈ names.map Literal.text := fun member inMembers =>
    keys ▸ List.mem_map_of_mem inMembers
  have sound : Sound names written :=
    ⟨List.forall_mem_map.mpr fun _ _ => rfl,
      fun member inMembers unknown => absurd (known member inMembers) unknown⟩
  have fresh : (written.map Prod.fst).Nodup :=
    keys ▸ List.Nodup.map (fun _ _ => Literal.text.inj) distinct
  rw [record, fields, checkMembers_of_sound sound, concerning_eq_self known, List.map_nil,
    if_pos (fresh_nil_iff.mpr fresh)]
  exact congrArg Except.ok (funext (find?_record members))

theorem decode_record {Item : Type} {names : List String} {members : List (String × Value)}
    {decode : Fields → Decoded Item} {item : Item} (named : members.map Prod.fst = names)
    (distinct : names.Nodup) (decoded : decode (fun name => members.lookup name) = .ok item) :
    (record members).fields names false >>= decode = .ok item := by
  rw [fields_record named distinct]
  exact decoded

end Json.Value

namespace Json

variable {Item Result : Type}

/-- Members are looked through in order. -/
@[simp] theorem Fields.required_lookup_cons (name : String) (value : Value)
    (rest : List (String × Value)) (sought : String) (decode : Value → Decoded Item) :
    Fields.required (fun sought => ((name, value) :: rest).lookup sought) sought decode =
      if sought = name then decode value
      else Fields.required (fun sought => rest.lookup sought) sought decode := by
  by_cases same : sought = name
  · simp [Fields.required, same]
  · have different : (sought == name) = false := beq_false_of_ne same
    simp [Fields.required, List.lookup_cons, same, different]

@[simp] theorem Decoded.ok_bind (item : Item) (next : Item → Decoded Result) :
    ((.ok item : Decoded Item) >>= next) = next item := rfl

@[simp] theorem Decoded.pure_eq_ok (item : Item) : (pure item : Decoded Item) = .ok item := rfl

end Json

/-! ## Faithful forms -/

structure Faithful {Item : Type} (encode : Item → Value) (decode : Value → Decoded Item) :
    Prop where
  plain : ∀ item, Plain (encode item)
  decode_encode : ∀ item, decode (encode item) = .ok item

theorem Faithful.list {Item : Type} {encode : Item → Value} {decode : Value → Decoded Item}
    (faithful : Faithful encode decode) :
    Faithful (encodeList encode) (Value.decodeList decode) where
  plain items := by
    refine .array fun value inForms => ?_
    rcases List.mem_map.mp inForms with ⟨item, _, rfl⟩
    exact faithful.plain item
  decode_encode items := by
    rw [encodeList, Value.decodeList]
    induction items with
    | nil => rfl
    | cons item rest induction =>
        rw [List.map_cons, List.mapM_cons, faithful.decode_encode, induction]
        rfl

theorem faithful_bool : Faithful Value.bool Value.decodeBool where
  plain := .bool
  decode_encode _ := rfl

theorem Address.faithful (source : Source) : Faithful encode (decode source) where
  plain address := plain_ofText address.toHex
  decode_encode := decode_encode source

theorem Seconds.faithful : Faithful encode decode where
  plain seconds := .natural seconds.toNat_lt
  decode_encode := decode_encode

theorem Role.faithful : Faithful encode decode where
  plain role := plain_ofText role.name
  decode_encode := decode_encode

/-! ### Amounts -/

private theorem Text.digitBelow_of_appendDigits {base number value : Nat} {text : List Char}
    (denotes : appendDigits base number text = some value) {char : Char}
    (member : char ∈ text) : digitBelow base char ≠ none := by
  induction text generalizing number with
  | nil => cases member
  | cons head rest induction =>
      rw [appendDigits] at denotes
      cases digit : digitBelow base head with
      | none =>
          rw [digit] at denotes
          cases denotes
      | some found =>
          rw [digit] at denotes
          rcases List.mem_cons.mp member with same | later
          · rw [same, digit]
            exact Option.some_ne_none found
          · exact induction denotes later

namespace Amount

theorem ofNumeral?_toHex (amount : Amount) : ofNumeral? amount.toHex.toList = some amount := by
  have denotes := Text.ofDigits_toDigits (by decide : 1 < 16) (Nat.le_refl 16) amount.toNat
  have pure : (Nat.toDigits 16 amount.toNat).filter (· ≠ '_') = Nat.toDigits 16 amount.toNat := by
    refine List.filter_eq_self.mpr fun char member => ?_
    rw [decide_eq_true_eq]
    rintro rfl
    exact Text.digitBelow_of_appendDigits denotes member rfl
  have written : amount.toHex.toList = '0' :: 'x' :: Nat.toDigits 16 amount.toNat := by
    rw [toHex, String.toList_append, Text.hexadecimal]
    exact congrArg (['0', 'x'] ++ ·) String.toList_ofList
  rw [ofNumeral?, written, splitBase, pure, denotes, Option.bind_some]
  exact ofNat?_eq_some_iff.mpr rfl

theorem faithful : Faithful encode decode where
  plain amount := plain_ofText amount.toHex
  decode_encode amount := by
    rw [encode, Value.ofText, decode, ofNumeral?_toHex]

end Amount

end Turnstile
