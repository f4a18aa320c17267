import Turnstile.Proofs.Json.Members
import Turnstile.Proofs.Wire.Snapshot
import Turnstile.Wire.Event

namespace Turnstile

/-! Events are read as what they were written for. Of an object that tells of an event, only the
tag and the fields of such an event matter to a reader, in whatever order they stand. -/

open Json

theorem Collaborator.decode_encode (collaborator : Collaborator) :
    decode collaborator.encode = .ok collaborator := by
  cases collaborator <;> rfl

theorem Json.Value.eq_ofText_of_decodeText {value : Value} {content : String}
    (decoded : value.decodeText = .ok content) : value = .ofText content := by
  cases value with
  | string literal =>
      cases literal with
      | text =>
          cases decoded
          rfl
      | unpaired => cases decoded
  | _ => cases decoded

namespace Event

/-! ## Kinds -/

/-- An event is told by the name of its kind. -/
theorem tag_eq_kind (event : Event) : event.tag = event.kind := by
  cases event <;> simp only [tag, title, kind] <;> decide

private theorem encodedFields_names (event : Event) :
    event.encodedFields.map Prod.fst = fieldNames event.kind := by
  cases event <;> rfl

private theorem nodup_fieldNames (event : Event) : (fieldNames event.kind).Nodup := by
  cases event <;> simp [kind, fieldNames]

private theorem tag_notMem_fieldNames (event : Event) : "event" ∉ fieldNames event.kind := by
  cases event <;> simp [kind, fieldNames]

private theorem plain_encodedFields (event : Event) :
    ∀ field ∈ event.encodedFields, Plain field.2 := by
  cases event <;> simp [encodedFields, Limits.faithful.plain, Amount.faithful.plain,
    faithful_bool.plain, (Address.faithful .value).plain, Role.faithful.plain,
    Collaborator.encode, plain_ofText]

private theorem depth_encodedFields (event : Event) :
    ∀ field ∈ event.encodedFields, field.2.depth ≤ 1 := by
  cases event <;> simp [encodedFields, Limits.encode, Amount.encode, Seconds.encode,
    Address.encode, Role.encode, Collaborator.encode, Value.ofText, Value.record, Value.depth,
    Value.depthOfMembers]

private theorem ofFields_encodedFields (event : Event) :
    ofFields event.kind (fun name => event.encodedFields.lookup name) = .ok event := by
  have role (role : Role) : Role.decode (withoutEmptyObject role.encode) = .ok role :=
    role.decode_encode
  have collaborator (collaborator : Collaborator) :
      Collaborator.decode (withoutEmptyObject collaborator.encode) = .ok collaborator :=
    collaborator.decode_encode
  cases event <;> simp [ofFields, kind, encodedFields, Limits.faithful.decode_encode,
    Amount.faithful.decode_encode, faithful_bool.decode_encode, role, collaborator]

private theorem asksFor_ofFields (kind : String) : AsksFor (fieldNames kind) (ofFields kind) := by
  intro first second same
  unfold ofFields
  split <;> simp only [fieldNames, List.forall_mem_cons] at same <;>
    simp [Fields.required, same]

/-! ## Objects that tell of events -/

/-- What a reader can keep of an object before it knows what the object tells of. -/
structure Kept (member : Literal × Value) : Prop where
  text : member.1.isUnpaired = false
  readable : member.2.free Value.isUnreadable = true
  shallow : member.2.depth < maximalDepth

/-- A member beside the tag and the fields of a kind. -/
structure PassedOver (kind : String) (member : Literal × Value) : Prop where
  kept : Kept member
  unknown : member.1 ∉ ("event" :: fieldNames kind).map Literal.text

def tags (members : List (Literal × Value)) : List (Literal × Value) :=
  members.filter fun member => member.1 = .text "event"

def content (members : List (Literal × Value)) : List (Literal × Value) :=
  members.filter fun member => member.1 ≠ .text "event"

/-- The members that an event is written with. -/
def writtenMembers (event : Event) : List (Literal × Value) :=
  (("event", .ofText event.tag) :: event.encodedFields).map fun field => (.text field.1, field.2)

section Members

variable {members : List (Literal × Value)}

theorem readable_and_shallow_iff :
    (Value.object members).free Value.isUnreadable = true ∧
        (Value.object members).depth ≤ maximalDepth ↔
      ∀ member ∈ members, Kept member := by
  rw [Value.free, Value.isUnreadable, Bool.and_eq_true, Bool.not_eq_true', List.any_eq_false,
    Value.freeMembers_eq_true_iff, Value.depth, maximalDepth, Nat.add_le_add_iff_right,
    Value.depthOfMembers_le_iff]
  constructor
  · rintro ⟨⟨text, readable⟩, shallow⟩ member inMembers
    exact ⟨Bool.eq_false_iff.mpr (text member inMembers), readable member inMembers,
      Nat.lt_succ_of_le (shallow member inMembers)⟩
  · intro kept
    exact ⟨⟨fun member inMembers => Bool.eq_false_iff.mp (kept member inMembers).text,
      fun member inMembers => (kept member inMembers).readable⟩,
      fun member inMembers => Nat.le_of_lt_succ (kept member inMembers).shallow⟩

private theorem decode_of_kept (kept : ∀ member ∈ members, Kept member) :
    decode (.object members) = splitKind (.object members) >>= fun (kind, content) =>
      content.fields (fieldNames kind) false >>= ofFields kind := by
  have keeps := readable_and_shallow_iff.mpr kept
  rw [decode, keeps.1, if_neg (by simpa using keeps.2)]

private theorem decode_of_not_kept (lost : ¬∀ member ∈ members, Kept member) :
    decode (.object members) = .error .malformed := by
  have fails := mt readable_and_shallow_iff.mp lost
  rw [decode, if_pos]
  simpa [imp_iff_not_or, Bool.not_eq_true] using fails

private theorem decode_of_tag (kept : ∀ member ∈ members, Kept member) {key : Literal} {tag : Value}
    (alone : tags members = [(key, tag)]) :
    decode (.object members) = tag.decodeText >>= fun kind =>
      (Value.object (content members)).fields (fieldNames kind) false >>= ofFields kind := by
  rw [tags] at alone
  rw [decode_of_kept kept, splitKind, alone]
  simp only
  cases tag.decodeText with
  | error fault => rfl
  | ok kind => rfl

private theorem decode_of_no_tag (kept : ∀ member ∈ members, Kept member)
    (unclear : ∀ single, tags members ≠ [single]) :
    decode (.object members) = .error .mismatch := by
  rw [decode_of_kept kept, splitKind]
  split
  next alone => exact absurd alone (unclear _)
  next => rfl

private theorem sound_content (kept : ∀ member ∈ members, Kept member) (names : List String) :
    Value.Sound names (content members) where
  text member inContent := (kept member (List.mem_of_mem_filter inContent)).text
  whole member inContent _ :=
    Value.isWhole_of_readable (kept member (List.mem_of_mem_filter inContent)).readable

end Members

section Alike

variable {first second : List (Literal × Value)}

/-- Objects tell of the same event if they have, up to order, the same tags and the same of
what the kind of such an event has fields for. -/
theorem decode_eq_of_alike (first_kept : ∀ member ∈ first, Kept member)
    (second_kept : ∀ member ∈ second, Kept member) (same_tags : (tags first).Perm (tags second))
    (same_content : ∀ kind, tags first = [(.text "event", .ofText kind)] →
      (Value.concerning (fieldNames kind) (content first)).Perm
        (Value.concerning (fieldNames kind) (content second))) :
    decode (.object first) = decode (.object second) := by
  -- Without a tag, or with several, a reader does not come to the fields.
  by_cases single : ∃ tag, tags first = [tag]
  · rcases single with ⟨⟨key, tag⟩, alone⟩
    rw [alone, List.singleton_perm] at same_tags
    have also := same_tags.symm
    rw [decode_of_tag first_kept alone, decode_of_tag second_kept also]
    cases named : tag.decodeText with
    | error fault => rfl
    | ok kind =>
        have found : (key, tag) ∈ tags first := alone ▸ List.mem_singleton_self _
        have isTag : (key, tag) = (.text "event", .ofText kind) :=
          Prod.ext (of_decide_eq_true (List.mem_filter.mp found).2)
            (Value.eq_ofText_of_decodeText named)
        exact (asksFor_ofFields kind).decode_eq (sound_content first_kept _)
          (sound_content second_kept _) (same_content kind (isTag ▸ alone)) false
  · have unclear := not_exists.mp single
    rw [decode_of_no_tag first_kept unclear, decode_of_no_tag second_kept]
    intro tag alone
    rw [alone, List.perm_singleton] at same_tags
    exact unclear tag same_tags

theorem decode_perm (same : first.Perm second) :
    decode (.object first) = decode (.object second) := by
  by_cases kept : ∀ member ∈ first, Kept member
  · have also : ∀ member ∈ second, Kept member := fun member inSecond =>
      kept member (same.mem_iff.mpr inSecond)
    exact decode_eq_of_alike kept also (same.filter _) fun kind _ =>
      (same.filter _).filter _
  · have lost : ¬∀ member ∈ second, Kept member := fun also =>
      kept fun member inFirst => also member (same.mem_iff.mp inFirst)
    rw [decode_of_not_kept kept, decode_of_not_kept lost]

end Alike

section PassedOver

variable {kind : String} {members extras : List (Literal × Value)}
  (passed : ∀ extra ∈ extras, PassedOver kind extra)

include passed

private theorem tags_append_of_passedOver : tags (members ++ extras) = tags members := by
  have none : tags extras = [] := by
    refine List.filter_eq_nil_iff.mpr fun extra member isTag => (passed extra member).unknown ?_
    exact of_decide_eq_true isTag ▸ List.mem_cons_self
  rw [tags] at none ⊢
  rw [List.filter_append, none, List.append_nil]
  rfl

private theorem concerning_append_of_passedOver :
    Value.concerning (fieldNames kind) (content (members ++ extras)) =
      Value.concerning (fieldNames kind) (content members) := by
  have none : Value.concerning (fieldNames kind) (content extras) = [] := by
    refine List.filter_eq_nil_iff.mpr fun extra member isField => ?_
    have field : extra.1 ∈ (fieldNames kind).map Literal.text := of_decide_eq_true isField
    exact (passed extra (List.mem_of_mem_filter member)).unknown (.tail _ field)
  rw [Value.concerning, content] at none ⊢
  rw [List.filter_append, List.filter_append, none, List.append_nil]
  rfl

theorem decode_append (tagged : (.text "event", .ofText kind) ∈ members) :
    decode (.object (members ++ extras)) = decode (.object members) := by
  by_cases kept : ∀ member ∈ members, Kept member
  · have all_kept : ∀ member ∈ members ++ extras, Kept member :=
      List.forall_mem_append.mpr ⟨kept, fun extra member => (passed extra member).kept⟩
    have same_tags : tags (members ++ extras) = tags members := tags_append_of_passedOver passed
    refine decode_eq_of_alike all_kept kept (.of_eq same_tags) fun told alone => ?_
    have isTag : (.text "event", .ofText kind) ∈ tags members :=
      List.mem_filter.mpr ⟨tagged, decide_eq_true rfl⟩
    rw [← same_tags, alone, List.mem_singleton] at isTag
    cases isTag
    exact .of_eq (concerning_append_of_passedOver passed)
  · have lost : ¬∀ member ∈ members ++ extras, Kept member := fun also =>
      kept (List.forall_mem_append.mp also).1
    rw [decode_of_not_kept kept, decode_of_not_kept lost]

end PassedOver

/-! ## Events as they are written -/

section Written

variable (event : Event)

private theorem plain_encode : Plain event.encode :=
  .record (List.forall_mem_cons.mpr ⟨plain_ofText event.tag, event.plain_encodedFields⟩)

private theorem kept_writtenMembers : ∀ member ∈ event.writtenMembers, Kept member := by
  refine List.forall_mem_map.mpr fun field written => ⟨rfl, ?readable, ?shallow⟩
  case readable =>
    refine Value.free_of_plain (fun _ => Value.isUnreadable_of_plain) ?_
    rcases List.mem_cons.mp written with rfl | inFields
    · exact plain_ofText event.tag
    · exact event.plain_encodedFields field inFields
  case shallow =>
    rcases List.mem_cons.mp written with rfl | inFields
    · exact Nat.zero_lt_succ _
    · exact Nat.lt_of_le_of_lt (event.depth_encodedFields field inFields) (by decide)

private theorem name_ne_of_mem_encodedFields :
    ∀ field ∈ event.encodedFields, Literal.text field.1 ≠ .text "event" := by
  intro field written same
  have named := List.mem_map_of_mem (f := Prod.fst) written
  rw [encodedFields_names, Literal.text.inj same] at named
  exact event.tag_notMem_fieldNames named

private theorem tags_writtenMembers :
    tags event.writtenMembers = [(.text "event", .ofText event.kind)] := by
  have none : tags (event.encodedFields.map fun field => (.text field.1, field.2)) = [] := by
    refine List.filter_eq_nil_iff.mpr (List.forall_mem_map.mpr fun field written isTag => ?_)
    exact event.name_ne_of_mem_encodedFields field written (of_decide_eq_true isTag)
  rw [tags] at none ⊢
  rw [writtenMembers, List.map_cons, List.filter_cons_of_pos (by simp), none, tag_eq_kind]

private theorem content_writtenMembers :
    content event.writtenMembers =
      event.encodedFields.map fun field => (.text field.1, field.2) := by
  rw [content, writtenMembers, List.map_cons, List.filter_cons_of_neg (by simp)]
  refine List.filter_eq_self.mpr (List.forall_mem_map.mpr fun field written => ?_)
  exact decide_eq_true (event.name_ne_of_mem_encodedFields field written)

theorem decode_encode : decode event.encode = .ok event := by
  have decoded := Value.decode_record event.encodedFields_names event.nodup_fieldNames
    event.ofFields_encodedFields
  rw [Value.record, ← content_writtenMembers] at decoded
  exact (decode_of_tag event.kept_writtenMembers event.tags_writtenMembers).trans decoded

theorem ofText?_toLine : ofText? event.encode.toLine = some event := by
  rw [ofText?, Value.ofText?_toLine event.plain_encode, Option.bind_some, decode_encode]
  rfl

theorem member?_encode : event.encode.member? "event" = some (.ofText event.kind) := by
  have tags := event.tags_writtenMembers
  rw [Event.tags, writtenMembers] at tags
  rw [encode, Value.record, Value.member?, ← List.head?_filter, List.filter_reverse, tags]
  rfl

theorem ofText?_of_perm {event : Event} {text : String} {members extras : List (Literal × Value)}
    (read : Value.ofText? text = some (.object members))
    (same : members.Perm (event.writtenMembers ++ extras))
    (passed : ∀ extra ∈ extras, PassedOver event.kind extra) : ofText? text = some event := by
  have tagged : (.text "event", .ofText event.kind) ∈ event.writtenMembers :=
    List.mem_of_mem_filter (event.tags_writtenMembers ▸ List.mem_singleton_self _)
  have decoded : decode (.object members) = .ok event := calc
    decode (.object members) = decode (.object (event.writtenMembers ++ extras)) :=
      decode_perm same
    _ = decode (.object event.writtenMembers) := decode_append passed tagged
    _ = .ok event := event.decode_encode
  rw [ofText?, read, Option.bind_some, decoded]
  rfl

end Written

/-- An event is read as it was written, and the tag that it is written with is the name of its
kind. An object is read alike in whatever order its members stand, and with members beside the
tag and the fields of the kind that the tag names as without them, as long as they can be kept.
So every text that has what an event is written with is read as that event, and events that are
written alike are the same. -/
theorem decoded_as_written :
    (∀ event : Event, decode event.encode = .ok event ∧
        ofText? event.encode.toLine = some event ∧
        event.encode.member? "event" = some (.ofText event.kind)) ∧
      (∀ first second : List (Literal × Value), first.Perm second →
        decode (.object first) = decode (.object second)) ∧
      (∀ (kind : String) (members extras : List (Literal × Value)),
        (.text "event", .ofText kind) ∈ members → (∀ extra ∈ extras, PassedOver kind extra) →
        decode (.object (members ++ extras)) = decode (.object members)) ∧
      (∀ members : List (Literal × Value), (¬∀ member ∈ members, Kept member) →
        decode (.object members) = .error .malformed) ∧
      (∀ (event : Event) (text : String) (members extras : List (Literal × Value)),
        Value.ofText? text = some (.object members) →
        members.Perm (event.writtenMembers ++ extras) →
        (∀ extra ∈ extras, PassedOver event.kind extra) → ofText? text = some event) ∧
      Function.Injective encode ∧ Function.Injective fun event : Event => event.encode.toLine := by
  refine ⟨?written, fun _ _ => decode_perm, fun _ _ _ tagged passed => decode_append passed tagged,
    fun _ => decode_of_not_kept, fun _ _ _ _ => ofText?_of_perm, ?values, ?texts⟩
  case written =>
    exact fun event => ⟨event.decode_encode, event.ofText?_toLine, event.member?_encode⟩
  case values =>
    intro first second same
    have decoded := second.decode_encode
    rw [← same, decode_encode] at decoded
    exact Except.ok.inj decoded
  case texts =>
    intro first second same
    have read := second.ofText?_toLine
    rw [← show first.encode.toLine = second.encode.toLine from same, ofText?_toLine] at read
    exact Option.some.inj read

namespace Sample

def address (number : Nat) : Address :=
  (Address.ofNat? number).getD .zero

def limits : Limits where
  cap := .ofNat 100
  cooldown := 60
  quota := .ofNat 1000
  period := 3600

def event : Event :=
  .userLimitsUpdated (address 1) (address 2) limits

/-- A structure with a tag of its own, and what an event of another kind has a field for. -/
def notes : List (String × Value) :=
  [("note", .record [("event", .natural 1), ("by", .array [.null])]), ("exempt", .null)]

def extras : List (Literal × Value) :=
  notes.map fun note => (.text note.1, note.2)

/-- The tag stands last, behind what is passed over. -/
def turned : List (String × Value) :=
  (notes ++ event.encodedFields) ++ [("event", .ofText event.tag)]

def members : List (Literal × Value) :=
  turned.map fun member => (.text member.1, member.2)

private theorem plain_turned : Plain (.record turned) := by
  have plain_notes : ∀ note ∈ notes, Plain note.2 := by
    simp [notes, Plain.null, Plain.natural, Plain.array, Plain.record, UInt64.size]
  refine .record (List.forall_mem_append.mpr ⟨?_, ?_⟩)
  · exact List.forall_mem_append.mpr ⟨plain_notes, event.plain_encodedFields⟩
  · exact List.forall_mem_singleton.mpr (plain_ofText event.tag)

private theorem members_perm : members.Perm (event.writtenMembers ++ extras) := by
  rw [writtenMembers, extras, ← List.map_append]
  exact (List.perm_append_comm.trans (.append_left _ List.perm_append_comm)).map _

theorem passed : ∀ extra ∈ extras, PassedOver event.kind extra := by
  refine List.forall_mem_cons.mpr ⟨⟨⟨rfl, rfl, ?shallow⟩, ?note⟩,
    List.forall_mem_singleton.mpr ⟨⟨rfl, rfl, ?flat⟩, ?exempt⟩⟩
  case shallow => decide
  case flat => decide
  case note => decide
  case exempt => decide

end Sample

theorem decoded_as_written_sample :
    (Value.ofText? (Value.record Sample.turned).toLine = some (.object Sample.members) ∧
        Sample.members.Perm (Sample.event.writtenMembers ++ Sample.extras) ∧
        (∀ extra ∈ Sample.extras, PassedOver Sample.event.kind extra) ∧
        ofText? (Value.record Sample.turned).toLine = some Sample.event) ∧
      decode (.object Sample.members) =
        decode (.object (Sample.event.writtenMembers ++ Sample.extras)) ∧
      ((.text "event", .ofText Sample.event.kind) ∈ Sample.event.writtenMembers ∧
        decode (.object (Sample.event.writtenMembers ++ Sample.extras)) =
          decode (.object Sample.event.writtenMembers)) ∧
      (¬∀ member ∈ [(.unpaired true, .null)], Kept member) ∧
      decode (.object [(.unpaired true, .null)]) = .error .malformed := by
  have read := Value.ofText?_toLine Sample.plain_turned
  have tagged : (.text "event", .ofText Sample.event.kind) ∈ Sample.event.writtenMembers :=
    List.mem_cons_self
  have lost : ¬∀ member ∈ [(.unpaired true, .null)], Kept member := fun kept =>
    Bool.noConfusion (kept _ List.mem_cons_self).text
  rcases decoded_as_written with ⟨_, perm, append, malformed, text, _⟩
  exact ⟨⟨read, Sample.members_perm, Sample.passed,
      text Sample.event _ Sample.members Sample.extras read Sample.members_perm Sample.passed⟩,
    perm _ _ Sample.members_perm,
    ⟨tagged, append Sample.event.kind _ _ tagged Sample.passed⟩,
    lost, malformed _ lost⟩

end Event

end Turnstile
