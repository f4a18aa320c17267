import Turnstile.Proofs.Wire.Form
import Turnstile.Storage

namespace Turnstile

/-! Snapshots in storage. Every structure in a snapshot has a faithful form, so the text that
a snapshot is stored as denotes the snapshot and nothing else. -/

open Json

/-! ## Forms of structures -/

theorem Grant.faithful (source : Source) : Faithful encode (decode source) where
  plain grant := .record (by
    simp [Role.faithful.plain, (Address.faithful source).plain])
  decode_encode grant := by
    refine Value.decode_record rfl (by decide) ?_
    simp

theorem Limits.faithful : Faithful encode decode where
  plain limits := .record (by
    simp [Amount.faithful.plain, Seconds.faithful.plain])
  decode_encode limits := by
    refine Value.decode_record rfl (by decide) ?_
    simp [Amount.faithful.decode_encode]

theorem Standing.faithful : Faithful encode decode where
  plain standing := .record (by
    simp [Limits.faithful.plain, faithful_bool.plain, Amount.faithful.plain,
      Seconds.faithful.plain])
  decode_encode standing := by
    refine Value.decode_record rfl (by decide) ?_
    simp [Limits.faithful.decode_encode, faithful_bool.decode_encode,
      Amount.faithful.decode_encode]

theorem Switches.faithful : Faithful encode decode where
  plain switches := .record (by
    simp [faithful_bool.plain, Plain.natural switches.version.toNat_lt])
  decode_encode switches := by
    refine Value.decode_record rfl (by decide) ?_
    simp [faithful_bool.decode_encode, Value.decodeBelow, switches.version.toNat_lt]

/-! ### Entries -/

namespace Limiter.Snapshot

theorem faithful_default (source : Source) :
    Faithful encodeDefault (decodeDefault source) where
  plain entry := .record (by
    simp [(Address.faithful source).plain, Limits.faithful.plain])
  decode_encode entry := by
    refine Value.decode_record rfl (by decide) ?_
    simp [Limits.faithful.decode_encode]

theorem faithful_standing (source : Source) :
    Faithful encodeStanding (decodeStanding source) where
  plain entry := .record (by
    simp [(Address.faithful source).plain, Standing.faithful.plain])
  decode_encode entry := by
    refine Value.decode_record rfl (by decide) ?_
    simp [Standing.faithful.decode_encode]

end Limiter.Snapshot

theorem Gate.Snapshot.faithful_balance (source : Source) :
    Faithful encodeBalance (decodeBalance source) where
  plain record := .record (by
    simp [(Address.faithful source).plain, Amount.faithful.plain])
  decode_encode record := by
    refine Value.decode_record rfl (by decide) ?_
    simp [Amount.faithful.decode_encode]

/-! ### Components -/

theorem Whitelist.Snapshot.faithful (source : Source) : Faithful encode (decode source) where
  plain snapshot := .record (by
    simp [faithful_bool.plain, (Address.faithful source).list.plain,
      (Grant.faithful source).list.plain])
  decode_encode snapshot := by
    refine Value.decode_record rfl (by decide) ?_
    simp [faithful_bool.decode_encode, (Address.faithful source).list.decode_encode,
      (Grant.faithful source).list.decode_encode]

theorem Limiter.Snapshot.faithful (source : Source) : Faithful encode (decode source) where
  plain snapshot := .record (by
    simp [(faithful_default source).list.plain, (faithful_standing source).list.plain,
      (Grant.faithful source).list.plain])
  decode_encode snapshot := by
    refine Value.decode_record rfl (by decide) ?_
    simp [(faithful_default source).list.decode_encode,
      (faithful_standing source).list.decode_encode,
      (Grant.faithful source).list.decode_encode]

theorem Gate.Snapshot.faithful (source : Source) : Faithful encode (decode source) where
  plain snapshot := .record (by
    simp [Switches.faithful.plain, (Grant.faithful source).list.plain,
      (faithful_balance source).list.plain])
  decode_encode snapshot := by
    refine Value.decode_record rfl (by decide) ?_
    simp [Switches.faithful.decode_encode, (Grant.faithful source).list.decode_encode,
      (faithful_balance source).list.decode_encode]

namespace Snapshot

theorem faithful : Faithful encode decode where
  plain snapshot := by
    have version : snapshot.version.toNat < UInt64.size :=
      Nat.lt_trans snapshot.version.toNat_lt (by decide)
    exact .record (by
      simp [Plain.natural version, Seconds.faithful.plain,
        (Whitelist.Snapshot.faithful .text).plain, (Limiter.Snapshot.faithful .text).plain,
        (Gate.Snapshot.faithful .text).plain])
  decode_encode snapshot := by
    refine Value.decode_record rfl (by decide) ?_
    simp [Value.decodeBelow, snapshot.version.toNat_lt,
      (Whitelist.Snapshot.faithful .text).decode_encode,
      (Limiter.Snapshot.faithful .text).decode_encode,
      (Gate.Snapshot.faithful .text).decode_encode]

/-! ## Texts -/

/-- The text of a snapshot denotes it, whatever its version. -/
theorem ofText_toText (snapshot : Snapshot) :
    ofText snapshot.toText =
      if snapshot.version = currentVersion then .ok snapshot
      else .error (.version snapshot.version) := by
  have read := read_toLines (faithful.plain snapshot)
  rw [ofText, toText, read]
  simp only [faithful.decode_encode, Bool.not_true, Bool.false_eq_true, if_false]

private theorem version_of_ofText {text : String} {snapshot : Snapshot}
    (read : ofText text = .ok snapshot) : snapshot.version = currentVersion := by
  simp only [ofText] at read
  split at read
  next =>
    split at read
    · cases read
    · split at read
      next current => exact Except.ok.inj read ▸ current
      next => cases read
  next => cases read

end Snapshot

/-! ## Storage -/

namespace Storage

theorem load_holding_toText {snapshot : Snapshot}
    (current : snapshot.version = Snapshot.currentVersion) :
    (holding snapshot.toText).load = .ok (some snapshot) := by
  rw [load, snapshot.ofText_toText, if_pos current]
  rfl

theorem load_of_store? {snapshot : Snapshot} {storage stored : Storage}
    (done : storage.store? snapshot = some stored)
    (current : snapshot.version = Snapshot.currentVersion) :
    stored.load = .ok (some snapshot) := by
  cases storage with
  | blocked => cases done
  | vacant | holding =>
      cases done
      exact load_holding_toText current

theorem exists_text_of_load {storage : Storage} {snapshot : Snapshot}
    (loaded : storage.load = .ok (some snapshot)) :
    ∃ text, storage = holding text ∧ Snapshot.ofText text = .ok snapshot := by
  cases storage with
  | vacant => cases loaded
  | blocked => cases loaded
  | holding text =>
      refine ⟨text, rfl, ?_⟩
      rw [load] at loaded
      cases read : Snapshot.ofText text with
      | error failure =>
          rw [read] at loaded
          cases loaded
      | ok found =>
          rw [read] at loaded
          cases loaded
          rfl

/-- A snapshot of the current version is loaded as it was stored. A snapshot that was loaded,
from whatever text, is stored as a text from which it is loaded again and that storing it once
more does not change. -/
theorem load_store :
    (∀ (snapshot : Snapshot) (storage : Storage),
        snapshot.version = Snapshot.currentVersion → storage ≠ .blocked →
        ∃ stored, storage.store? snapshot = some stored ∧
          stored.load = .ok (some snapshot)) ∧
      ∀ (storage : Storage) (snapshot : Snapshot), storage.load = .ok (some snapshot) →
        ∃ stored, storage.store? snapshot = some stored ∧
          stored.load = .ok (some snapshot) ∧ stored.store? snapshot = some stored := by
  refine ⟨?stored, ?loaded⟩
  case stored =>
    intro snapshot storage current free
    refine ⟨.holding snapshot.toText, ?_, load_holding_toText current⟩
    cases storage with
    | vacant | holding => rfl
    | blocked => exact absurd rfl free
  case loaded =>
    intro storage snapshot loaded
    rcases exists_text_of_load loaded with ⟨text, rfl, read⟩
    have current := Snapshot.version_of_ofText read
    exact ⟨.holding snapshot.toText, rfl, load_holding_toText current, rfl⟩

namespace Sample

def address (number : Nat) : Address :=
  (Address.ofNat? number).getD .zero

def snapshot : Snapshot where
  version := 1
  takenAt := 5
  whitelist := ⟨false, [], []⟩
  limiter := ⟨[], [], []⟩
  gate := ⟨⟨true, false, true, 7⟩, [], [(⟨address 1, address 2⟩, .ofNat 10)]⟩

/-- The snapshot with lists for structures, a member too many and numerals of other forms. -/
def text : String :=
  "[1, 5, [false, [], []], " ++
    "\x7b\"roles\": [], \"note\": null, \"principals\": [], \"defaults\": []\x7d, " ++
    "[[true, false, true, 7], [], [[\"0X0000000000000000000000000000000000000001\", " ++
    "\"0000000000000000000000000000000000000002\", \"1_0\"]]]]"

theorem loaded : (holding text).load = .ok (some snapshot) := by
  have read : (holding text).load.toOption = some (some snapshot) := by decide +kernel
  cases found : (holding text).load with
  | error failure =>
      rw [found] at read
      cases read
  | ok item =>
      rw [found] at read
      exact congrArg Except.ok (Option.some.inj read)

end Sample

theorem load_store_sample :
    (∃ stored, vacant.store? Sample.snapshot = some stored ∧
        stored.load = .ok (some Sample.snapshot)) ∧
      ∃ stored, (holding Sample.text).store? Sample.snapshot = some stored ∧
        stored.load = .ok (some Sample.snapshot) ∧
        stored.store? Sample.snapshot = some stored :=
  ⟨load_store.1 Sample.snapshot vacant rfl nofun,
    load_store.2 (holding Sample.text) Sample.snapshot Sample.loaded⟩

end Storage

end Turnstile
