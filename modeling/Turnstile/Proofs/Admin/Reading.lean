import Mathlib.Data.String.Basic
import Turnstile.Admin.Endpoint
import Turnstile.Proofs.Configuration.Declaration

namespace Turnstile

/-! What is read in a request: the parts of its path, the endpoint that they belong to, and
the accounts, positions and limits that texts in the path and in the body stand for. Something
is read exactly where every text stands for something. -/

/-! ## Meanings -/

/-- The account that a text names. -/
def Address.written? (text : String) : Option Address :=
  ofText? (Text.trim text.toList)

/-- The account that a part of a path names, once its escapes are resolved. -/
def Address.ofPart? (part : String) : Option Address :=
  (Text.ofEscaped? part).bind written?

/-- The position that two parts of a path name. -/
def Position.ofParts? (asset account : String) : Option Position := do
  return ⟨← Address.ofPart? asset, ← Address.ofPart? account⟩

theorem Address.isEmpty_of_ofPart? {part : String} {account : Address}
    (named : ofPart? part = some account) : part.isEmpty = false := by
  have nobody : ofPart? "" = none := by decide +kernel
  rw [Bool.eq_false_iff, Ne, String.isEmpty_iff]
  rintro rfl
  cases nobody.symm.trans named

theorem Position.ofParts?_eq_some_iff {asset account : String} {position : Position} :
    ofParts? asset account = some position ↔
      Address.ofPart? asset = some position.asset ∧
        Address.ofPart? account = some position.account := by
  simp only [ofParts?, Option.bind_eq_bind, Option.bind_eq_some_iff, Option.pure_def,
    Option.some_inj]
  constructor
  · rintro ⟨_, first, _, second, rfl⟩
    exact ⟨first, second⟩
  · rintro ⟨first, second⟩
    exact ⟨_, first, _, second, rfl⟩

theorem Position.isEmpty_of_ofParts? {asset account : String} {position : Position}
    (named : ofParts? asset account = some position) :
    asset.isEmpty = false ∧ account.isEmpty = false :=
  (ofParts?_eq_some_iff.mp named).imp Address.isEmpty_of_ofPart? Address.isEmpty_of_ofPart?

private theorem toOption_readAddress (field text : String) :
    (readAddress field text).toOption = Address.written? text := by
  rw [readAddress, Address.written?]
  cases Address.ofText? (Text.trim text.toList) <;> rfl

/-- Nothing is wrong with any of several items, and these are they. -/
private theorem collected_iff {Item : Type} {reads : List (Except Flaw Item)} {items : List Item} :
    reads.flatMap flawOf = [] ∧ reads.filterMap Except.toOption = items ↔
      reads.map Except.toOption = items.map some := by
  induction reads generalizing items with
  | nil => cases items <;> simp
  | cons read rest induction =>
      cases read with
      | error flaw => cases items <;> simp [flawOf, Except.toOption]
      | ok item =>
          cases items with
          | nil => simp [Except.toOption]
          | cons first others =>
              have later := @induction others
              simp only [List.flatMap_cons, flawOf, List.nil_append, List.filterMap_cons,
                Except.toOption, List.map_cons, List.cons.injEq, Option.some_inj, ← later]
              exact and_left_comm

/-! ## Parts between slashes -/

namespace Text

open String

/-- What is behind a position is split into parts of which the first has been begun. -/
private theorem splitOnAux_slash (before part rest : List Char) (parts : List String) :
    (ofList (before ++ part ++ rest)).splitOnAux "/" ⟨utf8Len before⟩
        ⟨utf8Len before + utf8Len part⟩ 0 parts =
      parts.reverse ++ (rest.splitOnPPrepend (· == '/') part.reverse).map ofList := by
  have slash : Pos.Raw.get "/" 0 = '/' := rfl
  have behind : Pos.Raw.atEnd "/" (Pos.Raw.next "/" 0) = true := rfl
  induction rest generalizing before part parts with
  | nil =>
      have ended : Pos.Raw.atEnd (ofList (before ++ part ++ []))
          ⟨utf8Len before + utf8Len part⟩ = true := by
        rw [← utf8Len_append]
        exact (atEnd_of_valid (before ++ part) []).mpr rfl
      rw [splitOnAux, if_pos ended]
      simp only [extract_of_valid, List.splitOnPPrepend_nil, List.reverse_cons,
        List.reverse_reverse, List.map_cons, List.map_nil]
  | cons char rest induction =>
      have going : ¬Pos.Raw.atEnd (ofList (before ++ part ++ char :: rest))
          ⟨utf8Len before + utf8Len part⟩ = true := by
        rw [← utf8Len_append, atEnd_of_valid]
        exact List.cons_ne_nil char rest
      have found := get_of_valid (before ++ part) (char :: rest)
      have next := next_of_valid (before ++ part) char rest
      rw [utf8Len_append] at found next
      rw [splitOnAux, if_neg going, found, List.headD_cons, slash,
        List.splitOnPPrepend_cons_eq_if]
      simp only [next]
      by_cases same : char = '/'
      · subst same
        have later := induction (before ++ part ++ ['/']) [] (ofList part :: parts)
        have start : (⟨utf8Len before + utf8Len part + '/'.utf8Size⟩ : Pos.Raw).unoffsetBy
            (Pos.Raw.next "/" 0) = ⟨utf8Len before + utf8Len part⟩ := rfl
        rw [if_pos (beq_self_eq_true _), if_pos behind, if_pos (beq_self_eq_true _), start,
          extract_of_valid, List.reverse_reverse]
        simpa [Nat.add_assoc] using later
      · have later := induction before (part ++ [char]) parts
        have start : (⟨utf8Len before + utf8Len part⟩ : Pos.Raw).unoffsetBy 0 =
          ⟨utf8Len before + utf8Len part⟩ := rfl
        rw [if_neg (by simpa using same), if_neg (by simpa using same), start, next]
        simpa [Nat.add_assoc] using later

theorem splitOn_slash (text : String) :
    text.splitOn "/" = (text.toList.splitOn '/').map ofList := by
  have whole := splitOnAux_slash [] [] text.toList []
  rw [List.nil_append, List.nil_append, ofList_toList] at whole
  rw [String.splitOn, if_neg (by decide)]
  exact whole

end Text

namespace Admin

/-! ## Routes -/

namespace Endpoint

/-- The one method that an endpoint answers to. -/
def method : Endpoint → Method
  | showStatus | showPosition .. => .get
  | setMembership | setWhitelistEnabled | setExemptions => .post
  | setDefaultLimits _ | setUserLimits .. | setChecks => .put
  | resetUserLimits .. => .delete
  | resetUserPeriod .. | setPaused _ | save => .post

/-- The path at which an endpoint stands. -/
def path : Endpoint → List String
  | showStatus => ["", "admin", "status"]
  | showPosition asset account => ["", "admin", "principals", asset, account]
  | setMembership => ["", "admin", "whitelist"]
  | setWhitelistEnabled => ["", "admin", "whitelist", "toggle"]
  | setExemptions => ["", "admin", "exemptions"]
  | setDefaultLimits asset => ["", "admin", "limits", "default", asset]
  | setUserLimits asset account => ["", "admin", "limits", "user", asset, account]
  | resetUserLimits asset account => ["", "admin", "limits", "user", asset, account]
  | resetUserPeriod asset account => ["", "admin", "period", "reset", asset, account]
  | setChecks => ["", "admin", "config"]
  | setPaused true => ["", "admin", "pause"]
  | setPaused false => ["", "admin", "unpause"]
  | save => ["", "admin", "snapshot"]

theorem lookup_atPath_iff {path : List String} {method : Method} {endpoint : Endpoint} :
    (atPath path).lookup method = some endpoint ↔
      endpoint.method = method ∧ endpoint.path = path := by
  constructor
  · intro found
    unfold atPath at found
    split at found <;> cases method <;> cases found <;> exact ⟨rfl, rfl⟩
  · rintro ⟨rfl, rfl⟩
    cases endpoint with
    | setPaused paused => cases paused <;> rfl
    | _ => rfl

theorem ofRequest_eq_ok_iff {request : Request} {endpoint : Endpoint} :
    ofRequest request = .ok endpoint ↔ isProper request.path = true ∧
      endpoint.method = effective request.method ∧ endpoint.path = request.path := by
  rw [← lookup_atPath_iff]
  unfold ofRequest
  extract_lets methods
  by_cases proper : isProper request.path = true
  · have all : methods = atPath request.path := if_pos proper
    rw [and_iff_right proper, ← all]
    cases methods with
    | nil => exact ⟨nofun, nofun⟩
    | cons first others =>
        rw [if_neg (by simp)]
        split
        next found present => rw [present, Option.some_inj, Except.ok.injEq]
        next absent => simp [absent]
  · have none : methods = [] := if_neg proper
    rw [none]
    exact ⟨nofun, fun routed => absurd routed.1 proper⟩

/-! ## Fields -/

theorem readPart_eq_ok_iff {part text : String} :
    readPart part = .ok text ↔ Text.ofEscaped? part = some text := by
  unfold readPart
  split
  next found read => rw [read, Except.ok.injEq, Option.some_inj]
  next unread => simp [unread]

theorem readNamed_eq_ok_iff {field value : String} {account : Address} :
    readNamed field value = .ok account ↔ Address.written? value = some account := by
  rw [readNamed, mapError_eq_ok_iff, ← toOption_eq_some_iff, toOption_readAddress]

theorem readPosition_eq_ok_iff {asset account : String} {position : Position} :
    readPosition asset account = .ok position ↔
      Address.written? asset = some position.asset ∧
        Address.written? account = some position.account := by
  simp only [readPosition, bind_eq_ok_iff, readNamed_eq_ok_iff]
  constructor
  · rintro ⟨_, first, _, second, done⟩
    cases done
    exact ⟨first, second⟩
  · rintro ⟨first, second⟩
    exact ⟨_, first, _, second, rfl⟩

theorem readAccounts_eq_ok_iff {values : List String} {accounts : List Address} :
    readAccounts values = .ok accounts ↔
      values.map Address.written? = accounts.map some := by
  have read : (fun item : String × Nat => Address.written? item.1) = Except.toOption ∘
      fun item : String × Nat => readAddress (indexed "accounts" item.2) item.1 :=
    funext fun item => (toOption_readAddress ..).symm
  rw [map_eq_map_zipIdx, read, ← List.map_map, ← collected_iff]
  unfold readAccounts
  extract_lets reads
  split
  next none => rw [Except.ok.injEq, and_iff_right none]
  next flawed => exact ⟨nofun, fun collected => absurd collected.1 flawed⟩

theorem resolveLimits_eq_ok_iff {settings : LimitSettings} {limits : Limits} :
    resolveLimits settings = .ok limits ↔ settings.limits? = some limits := by
  rw [resolveLimits, mapError_eq_ok_iff, ← toOption_eq_some_iff, settings.toOption_resolve]

/-! ## Parts of paths

The parts of a path are unescaped before the body is read, and only then are they taken for
names. Where all goes well the order makes no difference. -/

section Parts

variable {asset account : String} {request : Request} {action : Action}

theorem ofParts?_eq_some_iff {position : Position} :
    Position.ofParts? asset account = some position ↔
      ∃ first second, readPart asset = .ok first ∧ readPart account = .ok second ∧
        readPosition first second = .ok position := by
  simp only [Position.ofParts?_eq_some_iff, Address.ofPart?, Option.bind_eq_some_iff,
    readPart_eq_ok_iff, readPosition_eq_ok_iff]
  constructor
  · rintro ⟨⟨first, readFirst, asset⟩, second, readSecond, account⟩
    exact ⟨first, second, readFirst, readSecond, asset, account⟩
  · rintro ⟨first, second, readFirst, readSecond, asset, account⟩
    exact ⟨⟨first, readFirst, asset⟩, second, readSecond, account⟩

/-- An endpoint that needs a position and nothing else. -/
theorem located_eq_ok_iff (next : Position → Action) :
    (do
      let asset ← readPart asset
      let account ← readPart account
      return next (← readPosition asset account)) = Except.ok action ↔
      ∃ position, Position.ofParts? asset account = some position ∧ next position = action := by
  simp only [bind_eq_ok_iff, ofParts?_eq_some_iff]
  constructor
  · rintro ⟨first, readFirst, second, readSecond, position, named, done⟩
    cases done
    exact ⟨position, ⟨first, second, readFirst, readSecond, named⟩, rfl⟩
  · rintro ⟨position, ⟨first, second, readFirst, readSecond, named⟩, rfl⟩
    exact ⟨first, readFirst, second, readSecond, position, named, rfl⟩

theorem action_setDefaultLimits_iff :
    (setDefaultLimits asset).action request = .ok action ↔
      ∃ named settings limits, Address.ofPart? asset = some named ∧
        readLimits request = .ok settings ∧ settings.limits? = some limits ∧
        .setDefaultLimits named limits = action := by
  simp only [Endpoint.action, bind_eq_ok_iff, readPart_eq_ok_iff, readNamed_eq_ok_iff,
    resolveLimits_eq_ok_iff, Address.ofPart?, Option.bind_eq_some_iff]
  constructor
  · rintro ⟨text, unescaped, settings, read, named, written, limits, described, done⟩
    cases done
    exact ⟨named, settings, limits, ⟨text, unescaped, written⟩, read, described, rfl⟩
  · rintro ⟨named, settings, limits, ⟨text, unescaped, written⟩, read, described, rfl⟩
    exact ⟨text, unescaped, settings, read, named, written, limits, described, rfl⟩

theorem action_setUserLimits_iff :
    (setUserLimits asset account).action request = .ok action ↔
      ∃ position settings limits, Position.ofParts? asset account = some position ∧
        readLimits request = .ok settings ∧ settings.limits? = some limits ∧
        .setUserLimits position limits = action := by
  simp only [Endpoint.action, bind_eq_ok_iff, resolveLimits_eq_ok_iff, ofParts?_eq_some_iff]
  constructor
  · rintro ⟨first, readFirst, second, readSecond, settings, read, position, named, limits,
      described, done⟩
    cases done
    exact ⟨position, settings, limits, ⟨first, second, readFirst, readSecond, named⟩, read,
      described, rfl⟩
  · rintro ⟨position, settings, limits, ⟨first, second, readFirst, readSecond, named⟩, read,
      described, rfl⟩
    exact ⟨first, readFirst, second, readSecond, settings, read, position, named, limits,
      described, rfl⟩

end Parts

end Endpoint

end Admin

end Turnstile
