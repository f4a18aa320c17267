import Turnstile.Proofs.Json.Word

namespace Turnstile.Json

/-! Values that are written, on one line or over many, are read back, wherever they stand in a
text. The reader does not go back: what is in front of a value is in the state that it is in, so
it is enough to follow it through the value. What stands between its words are blanks at most,
which the reader does not notice. -/

/-! ## Plain values

Those that programs build: of numbers only the natural ones that a reader takes for such, and
no string without a text. -/

inductive Plain : Value → Prop
  | null : Plain .null
  | bool (truth : Bool) : Plain (.bool truth)
  | natural {number : Nat} (bound : number < UInt64.size) : Plain (.natural number)
  | text (content : String) : Plain (.string (.text content))
  | array {items : List Value} (items_plain : ∀ item ∈ items, Plain item) :
      Plain (.array items)
  | record {members : List (String × Value)}
      (members_plain : ∀ member ∈ members, Plain member.2) : Plain (.record members)

theorem plain_ofText (content : String) : Plain (.ofText content) :=
  .text content

/-! ## Words and blanks -/

private theorem tokens_of_isSpace {char : Char} (space : isSpace char = true) (rest : List Char) :
    tokens (char :: rest) = tokens rest := by
  rw [tokens, if_pos space]

private theorem tokens_of_readToken {char : Char} {rest remaining : List Char} {token : Token}
    (solid : isSpace char = false) (read : readToken (char :: rest) = some (token, remaining)) :
    tokens (char :: rest) = token :: tokens remaining := by
  rw [tokens, if_neg (Bool.eq_false_iff.mp solid)]
  split
  next found remains again =>
    rw [read] at again
    cases again
    rfl
  next again =>
    rw [read] at again
    cases again

namespace Reader

/-- The state of a reader that has gone through a text. -/
def run (reader : Reader) (input : List Char) : Reader :=
  (tokens input).foldl step reader

private theorem run_blanks (reader : Reader) {blanks : List Char}
    (space : ∀ char ∈ blanks, isSpace char = true) (rest : List Char) :
    reader.run (blanks ++ rest) = reader.run rest := by
  induction blanks with
  | nil => rfl
  | cons char blanks induction =>
      have later := induction fun other member => space other (.tail char member)
      rw [run, List.cons_append, tokens_of_isSpace (space char List.mem_cons_self)]
      exact later

private theorem run_of_readToken (reader : Reader) {char : Char} {rest remaining : List Char}
    {token : Token} (solid : isSpace char = false)
    (read : readToken (char :: rest) = some (token, remaining)) :
    reader.run (char :: rest) = (reader.step token).run remaining := by
  rw [run, tokens_of_readToken solid read]
  rfl

section Marks

variable (reader : Reader) (rest : List Char)

private theorem run_comma : reader.run (',' :: rest) = (reader.step .comma).run rest :=
  reader.run_of_readToken rfl rfl

private theorem run_colon : reader.run (':' :: rest) = (reader.step .colon).run rest :=
  reader.run_of_readToken rfl rfl

private theorem run_openArray : reader.run ('[' :: rest) = (reader.step .openArray).run rest :=
  reader.run_of_readToken rfl rfl

private theorem run_closeArray : reader.run (']' :: rest) = (reader.step .closeArray).run rest :=
  reader.run_of_readToken rfl rfl

private theorem run_openObject : reader.run ('{' :: rest) = (reader.step .openObject).run rest :=
  reader.run_of_readToken rfl rfl

private theorem run_closeObject : reader.run ('}' :: rest) = (reader.step .closeObject).run rest :=
  reader.run_of_readToken rfl rfl

end Marks

private theorem run_text (reader : Reader) (content : String) (rest : List Char) :
    reader.run (writeString content.toList rest) =
      (reader.step (.string (.text content))).run rest :=
  reader.run_of_readToken rfl (readToken_writeString content rest)

private theorem run_decimal (reader : Reader) {number : Nat} (bound : number < UInt64.size)
    {rest : List Char} (ends : endsNumber rest = true) :
    reader.run (writeWord (Text.decimal number) rest) =
      (reader.step (.natural number)).run rest := by
  have read := readToken_decimal bound ends
  rcases Text.exists_toDigits_eq_cons number with ⟨digit, digits, written, isDigit⟩
  rw [writeWord, Text.decimal, String.toList_ofList, written, List.cons_append] at read ⊢
  exact reader.run_of_readToken (isSpace_of_isDigit isDigit) read

/-- The reader goes on with a value inside of the frames. It may also be at the start of an
array, since no value starts as an array ends. -/
def Awaits (reader : Reader) (frames : List Frame) : Prop :=
  ∀ token, token ≠ .closeArray → reader.step token = stepValue frames token

private theorem awaits_expectValue (frames : List Frame) : (expectValue frames).Awaits frames :=
  fun _ _ => rfl

private theorem awaits_expectItem (frames : List Frame) :
    (expectItem frames).Awaits (.items [] :: frames) := by
  intro token value
  cases token with
  | closeArray => exact absurd rfl value
  | _ => rfl

end Reader

/-! ## Layouts -/

/-- A way to write values: how words follow each other, and the blanks in between. Items and
members stand one level deeper than what they belong to. -/
structure Layout where
  value : Nat → Value → List Char → List Char
  items : Nat → List Value → List Char → List Char
  members : Nat → List (Literal × Value) → List Char → List Char
  /-- What stands in front of an item, of a member, and of the end they come to. -/
  gap : Nat → List Char
  /-- What stands in front of the value of a member. -/
  indent : List Char
  value_word : ∀ level word rest, word.depth = 0 → value level word rest = word.write rest
  value_noItems : ∀ level rest, value level (.array []) rest = '[' :: ']' :: rest
  value_items : ∀ level item others rest, value level (.array (item :: others)) rest =
    '[' :: (gap (level + 1) ++
      items (level + 1) (item :: others) (gap level ++ ']' :: rest))
  value_noMembers : ∀ level rest, value level (.object []) rest = '{' :: '}' :: rest
  value_members : ∀ level member others rest, value level (.object (member :: others)) rest =
    '{' :: (gap (level + 1) ++
      members (level + 1) (member :: others) (gap level ++ '}' :: rest))
  items_last : ∀ level item rest, items level [item] rest = value level item rest
  items_more : ∀ level item next others rest, items level (item :: next :: others) rest =
    value level item (',' :: (gap level ++ items level (next :: others) rest))
  members_last : ∀ level key held rest, members level [(key, held)] rest =
    key.write (':' :: (indent ++ value level held rest))
  members_more : ∀ level key held next others rest,
    members level ((key, held) :: next :: others) rest =
      key.write (':' :: (indent ++
        value level held (',' :: (gap level ++ members level (next :: others) rest))))
  space_gap : ∀ level, ∀ char ∈ gap level, isSpace char = true
  space_indent : ∀ char ∈ indent, isSpace char = true

namespace Layout

def oneLine : Layout where
  value _ := Value.write
  items _ := Value.writeItems
  members _ := Value.writeMembers
  gap _ := []
  indent := []
  value_word _ _ _ _ := rfl
  value_noItems _ _ := rfl
  value_items _ _ _ _ := rfl
  value_noMembers _ _ := rfl
  value_members _ _ _ _ := rfl
  items_last _ _ _ := rfl
  items_more _ _ _ _ _ := rfl
  members_last _ _ _ _ := rfl
  members_more _ _ _ _ _ _ := rfl
  space_gap _ _ := nofun
  space_indent _ := nofun

def manyLines : Layout where
  value := Value.spread
  items := Value.spreadItems
  members := Value.spreadMembers
  gap level := '\n' :: List.replicate (2 * level) ' '
  indent := [' ']
  value_word _ word _ flat := by
    cases word with
    | array | object => cases flat
    | _ => rfl
  value_noItems _ _ := rfl
  value_items _ _ _ _ := rfl
  value_noMembers _ _ := rfl
  value_members _ _ _ _ := rfl
  items_last _ _ _ := rfl
  items_more _ _ _ _ _ := rfl
  members_last _ _ _ _ := rfl
  members_more _ _ _ _ _ _ := rfl
  space_gap level := by
    refine List.forall_mem_cons.mpr ⟨rfl, fun char member => ?_⟩
    rw [List.eq_of_mem_replicate member]
    rfl
  space_indent := List.forall_mem_singleton.mpr rfl

variable (layout : Layout)

private theorem run_gap (reader : Reader) (level : Nat) (rest : List Char) :
    reader.run (layout.gap level ++ rest) = reader.run rest :=
  reader.run_blanks (layout.space_gap level) rest

private theorem endsNumber_gap (level : Nat) {rest : List Char} (ends : endsNumber rest = true) :
    endsNumber (layout.gap level ++ rest) = true := by
  cases blanks : layout.gap level with
  | nil => exact ends
  | cons char others =>
      have space := layout.space_gap level char (blanks ▸ List.mem_cons_self)
      simp only [isSpace, Bool.or_eq_true, decide_eq_true_eq] at space
      rcases space with ((rfl | rfl) | rfl) | rfl <;> rfl

end Layout

/-! ## Values -/

/-- However a reader has come to a value, it gets past it. -/
def Reads (layout : Layout) (value : Value) : Prop :=
  ∀ (level : Nat) (rest : List Char) (reader : Reader) (frames : List Frame),
    reader.Awaits frames → endsNumber rest = true →
      reader.run (layout.value level value rest) = (Reader.afterValue value frames).run rest

section Composite

variable {layout : Layout} {reader : Reader} {frames : List Frame}

private theorem run_items (level outer : Nat) (item : Value) (items : List Value)
    {before : List Value} (readable : ∀ other ∈ item :: items, Reads layout other)
    (awaits : reader.Awaits (.items before :: frames)) (rest : List Char) :
    reader.run (layout.items level (item :: items) (layout.gap outer ++ ']' :: rest)) =
      (Reader.afterValue (.array (before.reverse ++ item :: items)) frames).run rest := by
  -- What is behind the items stays the same while the induction goes along them.
  induction items generalizing item before reader with
  | nil =>
      have first := readable item List.mem_cons_self
      rw [layout.items_last, first level _ reader _ awaits (layout.endsNumber_gap outer rfl),
        layout.run_gap, Reader.run_closeArray]
      simp only [Reader.step, Reader.stepAfter, Frame.close, List.reverse_cons]
  | cons next items induction =>
      have first := readable item List.mem_cons_self
      have later := induction next (fun other member => readable other (.tail item member))
        (Reader.awaits_expectValue (.items (item :: before) :: frames))
      rw [List.reverse_cons, List.append_assoc] at later
      rw [layout.items_more, first level _ reader _ awaits rfl, Reader.run_comma]
      exact (layout.run_gap _ level _).trans later

private theorem run_key (before : List (Literal × Value)) (key : String) (rest : List Char) :
    (Reader.expectKey before frames).run (Literal.write key (':' :: (layout.indent ++ rest))) =
      (Reader.expectValue (.members before key :: frames)).run rest := by
  have colon : ((Reader.expectKey before frames).step (.string key)).step .colon =
      .expectValue (.members before key :: frames) := rfl
  refine (Reader.run_text _ key _).trans ?_
  rw [Reader.run_colon, colon]
  exact Reader.run_blanks _ layout.space_indent rest

private theorem run_members (level outer : Nat) (member : String × Value)
    (members : List (String × Value)) {before : List (Literal × Value)}
    (readable : ∀ other ∈ member :: members, Reads layout other.2) (rest : List Char) :
    (Reader.expectKey before frames).run
        (layout.members level
          ((member :: members).map fun member => (.text member.1, member.2))
          (layout.gap outer ++ '}' :: rest)) =
      (Reader.afterValue (.object (before.reverse ++
        (member :: members).map fun member => (.text member.1, member.2))) frames).run
        rest := by
  rcases member with ⟨key, value⟩
  induction members generalizing key value before with
  | nil =>
      have first := readable (key, value) List.mem_cons_self
      have awaits := Reader.awaits_expectValue (.members before key :: frames)
      rw [List.map_cons, List.map_nil, layout.members_last, run_key,
        first level _ _ _ awaits (layout.endsNumber_gap outer rfl), layout.run_gap,
        Reader.run_closeObject]
      simp only [Reader.step, Reader.stepAfter, Frame.close, List.reverse_cons]
  | cons next members induction =>
      have first := readable (key, value) List.mem_cons_self
      have awaits := Reader.awaits_expectValue (.members before key :: frames)
      have readLater := fun other member => readable other (.tail (key, value) member)
      have later := @induction ((.text key, value) :: before) next.1 next.2 readLater
      rw [List.reverse_cons, List.append_assoc] at later
      rw [List.map_cons, List.map_cons, layout.members_more, run_key,
        first level _ _ _ awaits rfl, Reader.run_comma]
      exact (layout.run_gap _ level _).trans later

end Composite

/-- What is written as one word, and is the value that the word stands for. -/
theorem reads_of_word {layout : Layout} {value : Value} (token : Token) (flat : value.depth = 0)
    (starts : token ≠ .closeArray)
    (denoted : ∀ frames, Reader.stepValue frames token = .afterValue value frames)
    (written : ∀ (rest : List Char) (reader : Reader), endsNumber rest = true →
      reader.run (value.write rest) = (reader.step token).run rest) : Reads layout value := by
  intro level rest reader frames awaits ends
  rw [layout.value_word level value rest flat, written rest reader ends, awaits token starts,
    denoted]

theorem reads_of_plain (layout : Layout) {value : Value} (plain : Plain value) :
    Reads layout value := by
  induction plain with
  | null =>
      exact reads_of_word .null rfl nofun (fun _ => rfl) fun _ reader _ =>
        reader.run_of_readToken rfl rfl
  | bool truth =>
      refine reads_of_word (.bool truth) rfl nofun (fun _ => rfl) fun _ reader _ => ?_
      cases truth with
      | false => exact reader.run_of_readToken rfl rfl
      | true => exact reader.run_of_readToken rfl rfl
  | @natural number bound =>
      exact reads_of_word (.natural number) rfl nofun (fun _ => rfl) fun _ reader ends =>
        reader.run_decimal bound ends
  | text content =>
      exact reads_of_word (.string content) rfl nofun (fun _ => rfl) fun rest reader _ =>
        reader.run_text content rest
  | @array items _ readable =>
      intro level rest reader frames awaits _
      have next : reader.step .openArray = .expectItem frames := awaits _ nofun
      cases items with
      | nil =>
          rw [layout.value_noItems, Reader.run_openArray, next, Reader.run_closeArray]
          rfl
      | cons item items =>
          rw [layout.value_items, Reader.run_openArray, next, layout.run_gap]
          exact run_items (level + 1) level item items readable
            (Reader.awaits_expectItem frames) rest
  | @record members _ readable =>
      intro level rest reader frames awaits _
      have next : reader.step .openObject = .expectKey [] frames := awaits _ nofun
      cases members with
      | nil =>
          rw [Value.record, List.map_nil, layout.value_noMembers, Reader.run_openObject, next,
            Reader.run_closeObject]
          rfl
      | cons member members =>
          rw [Value.record, List.map_cons, layout.value_members, Reader.run_openObject, next,
            layout.run_gap]
          exact run_members (level + 1) level member members readable rest

theorem read_layout (layout : Layout) {value : Value} (plain : Plain value) :
    Document.read (String.ofList (layout.value 0 value [])) = ⟨value, true⟩ := by
  have read := reads_of_plain layout plain 0 [] (.expectValue []) [] (Reader.awaits_expectValue [])
    rfl
  rw [Reader.run] at read
  rw [Document.read, String.toList_ofList, read]
  simp [Reader.run, tokens, Reader.finish, Reader.isComplete]

/-- A plain value is read back from the lines that it is written over, and nothing else. -/
theorem read_toLines {value : Value} (plain : Plain value) :
    Document.read value.toLines = ⟨value, true⟩ :=
  read_layout .manyLines plain

theorem read_toLine {value : Value} (plain : Plain value) :
    Document.read value.toLine = ⟨value, true⟩ :=
  read_layout .oneLine plain

end Turnstile.Json
