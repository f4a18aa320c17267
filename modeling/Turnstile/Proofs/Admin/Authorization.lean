import Mathlib.Data.List.DropRight
import Turnstile.Admin.Response
import Turnstile.Proofs.Seeds

namespace Turnstile

/-! Who is let in to administer. A header presents a key if it is text, begins with the word
for bearers and goes on with the key, white space around it aside; every other request is
turned away before it is looked at. As the white space is taken off before keys are compared,
a key that has some at either end of itself is never presented. -/

/-! ## White space around texts -/

namespace Text

/-- There is no white space at either end. -/
structure Bare (text : List Char) : Prop where
  first : ∀ char ∈ text.head?, isBlank char = false
  last : ∀ char ∈ text.getLast?, isBlank char = false

private theorem dropBlankEnd_eq (text : List Char) :
    dropBlankEnd text = text.rdropWhile isBlank := rfl

private theorem bare_trim (text : List Char) : Bare (trim text) := by
  refine ⟨fun char member => ?_, fun char member => ?_⟩
  · -- What is dropped at the end leaves the beginning as it is.
    rcases List.rdropWhile_prefix isBlank (text.dropWhile isBlank) with ⟨dropped, split⟩
    have found : (text.dropWhile isBlank).head? = some char := by
      rw [← split]
      exact List.mem_head?_append_of_mem_head? member
    have head := List.head?_dropWhile_not isBlank text
    rw [found] at head
    exact head
  · have present : trim text ≠ [] := by
      intro empty
      rw [empty] at member
      cases member
    have last := List.rdropWhile_last_not isBlank _ present
    rw [List.getLast?_eq_some_getLast present] at member
    cases member
    exact Bool.eq_false_iff.mpr last

theorem trim_eq_self_iff {text : List Char} : trim text = text ↔ Bare text := by
  constructor
  · intro same
    have bare := bare_trim text
    rwa [same] at bare
  · intro bare
    have front : text.dropWhile isBlank = text := by
      cases text with
      | nil => rfl
      | cons char rest =>
          exact List.dropWhile_cons_of_neg (Bool.eq_false_iff.mp (bare.first char rfl))
    rw [trim, front, dropBlankEnd_eq, List.rdropWhile_eq_self_iff]
    intro present
    exact Bool.eq_false_iff.mp (bare.last _ (List.getLast?_eq_some_getLast present))

/-- Of the characters that can be seen or are spaces, white space is the space. -/
theorem isBlank_eq_true_iff {char : Char} (printable : ' ' ≤ char ∧ char < '\x7f') :
    isBlank char = true ↔ char = ' ' := by
  have least : 32 ≤ char.toNat := printable.1
  have most : char.toNat < 127 := printable.2
  constructor
  · intro blank
    simp only [isBlank, Bool.or_eq_true, Bool.and_eq_true, decide_eq_true_eq] at blank
    have code : char.toNat = ' '.toNat := by
      change char.toNat = 32
      omega
    exact Char.toNat_inj.mp code
  · rintro rfl
    rfl

end Text

namespace Admin

/-! ## Keys -/

private theorem toList_loop (bytes : ByteArray) (index : Nat) (read : List UInt8) :
    ByteArray.toList.loop bytes index read = read.reverse ++ bytes.data.toList.drop index := by
  fun_induction ByteArray.toList.loop bytes index read with
  | case1 index read within induction =>
      have bound : index < bytes.data.toList.length := by simpa using within
      rw [induction, List.drop_eq_getElem_cons bound]
      simp [ByteArray.get!, within]
  | case2 index read beyond =>
      rw [List.drop_eq_nil_of_le (by simpa using beyond), List.append_nil]

private theorem toList_eq_toList_iff {left right : ByteArray} :
    left.toList = right.toList ↔ left = right := by
  have listed (bytes : ByteArray) : bytes.toList = bytes.data.toList := toList_loop bytes 0 []
  rw [listed, listed, Array.toList_inj]
  exact ⟨ByteArray.ext, congrArg ByteArray.data⟩

/-- What was gathered stays: the byte is zero only if it was, and no pair differs. -/
private theorem gathered_eq_zero_iff {left right : List UInt8}
    (lengths : left.length = right.length) (gathered : UInt8) :
    (left.zipWith (· ^^^ ·) right).foldl (· ||| ·) gathered = 0 ↔
      gathered = 0 ∧ left = right := by
  induction left generalizing right gathered with
  | nil =>
      cases right with
      | nil => simp
      | cons => cases lengths
  | cons first rest induction =>
      cases right with
      | nil => cases lengths
      | cons other others =>
          have shorter : rest.length = others.length := Nat.succ.inj lengths
          rw [List.zipWith_cons_cons, List.foldl_cons, induction shorter,
            UInt8.or_eq_zero_iff, UInt8.xor_eq_zero_iff, List.cons.injEq, and_assoc]

private theorem difference_eq_zero_iff {left right : List UInt8}
    (lengths : left.length = right.length) : difference left right = 0 ↔ left = right := by
  rw [difference, gathered_eq_zero_iff lengths, and_iff_right rfl]

theorem keysMatch_iff {presented expected : String} :
    keysMatch presented expected = true ↔ presented = expected := by
  rw [← String.toByteArray_inj, ← toList_eq_toList_iff]
  simp only [keysMatch, Bool.and_eq_true, decide_eq_true_eq]
  constructor
  · rintro ⟨lengths, alike⟩
    exact (difference_eq_zero_iff lengths).mp alike
  · intro same
    have lengths := congrArg List.length same
    exact ⟨lengths, (difference_eq_zero_iff lengths).mpr same⟩

/-! ## Headers -/

/-- The header is text, and after the word for bearers there is the key, white space around
it aside. -/
structure Presents (key header : String) : Prop where
  text : ∀ char ∈ header.toList, char = '\t' ∨ ' ' ≤ char ∧ char < '\x7f'
  token : ∃ token, header.toList = "Bearer ".toList ++ token ∧ Text.trim token = key.toList

theorem isHeaderText_iff {header : String} :
    isHeaderText header = true ↔
      ∀ char ∈ header.toList, char = '\t' ∨ ' ' ≤ char ∧ char < '\x7f' := by
  simp [isHeaderText]

theorem bearerToken?_eq_some_iff {header token : String} :
    bearerToken? header = some token ↔
      ∃ rest, header.toList = "Bearer ".toList ++ rest ∧ Text.trim rest = token.toList := by
  unfold bearerToken?
  split
  next rest written =>
      rw [written, Option.some_inj]
      constructor
      · rintro rfl
        exact ⟨rest, rfl, String.toList_ofList.symm⟩
      · rintro ⟨other, same, trimmed⟩
        change "Bearer ".toList ++ rest = "Bearer ".toList ++ other at same
        rw [List.append_cancel_left same, trimmed, String.ofList_toList]
  next other =>
      constructor
      · exact nofun
      · rintro ⟨rest, written, _⟩
        exact absurd written (other rest)

theorem isAuthorized_iff_token {key : String} {header : Option String} :
    isAuthorized key header = true ↔
      (header.filter isHeaderText).bind bearerToken? = some key := by
  rw [isAuthorized]
  split
  next token presented => rw [keysMatch_iff, presented, Option.some_inj]
  next absent => simp [absent]

theorem isAuthorized_iff {key : String} {header : Option String} :
    isAuthorized key header = true ↔ ∃ text ∈ header, Presents key text := by
  rw [isAuthorized_iff_token, Option.bind_eq_some_iff]
  refine exists_congr fun text => ?_
  rw [Option.filter_eq_some_iff, isHeaderText_iff, bearerToken?_eq_some_iff, and_assoc]
  exact and_congr_right fun _ =>
    ⟨fun parts => ⟨parts.1, parts.2⟩, fun presented => ⟨presented.text, presented.token⟩⟩

/-! ## Requests past the key

What a request asks for is read in many ways, none of which has to do with the key. -/

/-- The reading does not fail for want of the key. -/
structure PastKey {Item : Type} (read : Except Rejection Item) : Prop where
  status : ∀ rejection, read = .error rejection → rejection.status ≠ 401

section PastKey

variable {Item Result : Type}

private theorem pastKey_ok (item : Item) : PastKey (.ok item) :=
  ⟨nofun⟩

private theorem pastKey_error {rejection : Rejection} (other : rejection.status ≠ 401) :
    PastKey (.error rejection : Except Rejection Item) := by
  refine ⟨fun _ failed => ?_⟩
  cases failed
  exact other

theorem PastKey.bind {read : Except Rejection Item} {next : Item → Except Rejection Result}
    (past : PastKey read) (later : ∀ item, PastKey (next item)) : PastKey (read >>= next) := by
  cases read with
  | ok item => exact later item
  | error rejection => exact pastKey_error (past.status rejection rfl)

private theorem pastKey_mapError {Fault : Type} (read : Except Fault Item)
    {explain : Fault → Rejection} (other : ∀ fault, (explain fault).status ≠ 401) :
    PastKey (read.mapError explain) := by
  cases read with
  | ok item => exact pastKey_ok item
  | error fault => exact pastKey_error (other fault)

end PastKey

private theorem pastKey_readPart (part : String) : PastKey (Endpoint.readPart part) := by
  rw [Endpoint.readPart]
  split
  · exact pastKey_ok _
  · exact pastKey_error (by decide)

private theorem pastKey_readBody {Content : Type} (request : Request) (shape : Shape)
    (required : Bool) (decode : Json.Fields → Json.Decoded Content) :
    PastKey (readBody request shape required decode) := by
  have mapped (fault : Json.Fault) : (rejectionOf fault).status ≠ 401 := by
    cases fault <;> decide
  unfold readBody
  split
  · exact pastKey_error (by decide)
  · split
    · exact pastKey_error (by decide)
    · simp only
      split
      · exact pastKey_error (mapped _)
      · split
        · exact pastKey_error (by decide)
        · exact pastKey_mapError _ mapped

private theorem status_flawed (flaws : List Flaw) : (Rejection.flawed flaws).status ≠ 401 :=
  (by decide : 400 ≠ 401)

private theorem pastKey_readNamed (field value : String) :
    PastKey (Endpoint.readNamed field value) :=
  pastKey_mapError _ fun _ => status_flawed _

private theorem pastKey_readPosition (asset account : String) :
    PastKey (Endpoint.readPosition asset account) :=
  (pastKey_readNamed ..).bind fun _ => (pastKey_readNamed ..).bind fun _ => pastKey_ok _

private theorem pastKey_readAccounts (values : List String) :
    PastKey (Endpoint.readAccounts values) := by
  unfold Endpoint.readAccounts
  extract_lets accounts
  split
  · exact pastKey_ok _
  · exact pastKey_error (status_flawed _)

private theorem pastKey_resolveLimits (settings : LimitSettings) :
    PastKey (Endpoint.resolveLimits settings) :=
  pastKey_mapError _ fun _ => status_flawed _

private theorem Endpoint.pastKey_action (endpoint : Endpoint) (request : Request) :
    PastKey (endpoint.action request) := by
  have part := pastKey_readPart
  have position := pastKey_readPosition
  cases endpoint with
  | showStatus | setPaused | save => exact pastKey_ok _
  | showPosition | resetUserLimits | resetUserPeriod =>
      exact (part _).bind fun _ => (part _).bind fun _ => (position ..).bind fun _ => pastKey_ok _
  | setMembership =>
      exact (pastKey_readBody ..).bind fun _ => (pastKey_readAccounts _).bind fun _ => pastKey_ok _
  | setWhitelistEnabled | setChecks => exact (pastKey_readBody ..).bind fun _ => pastKey_ok _
  | setExemptions =>
      exact (pastKey_readBody ..).bind fun _ => (pastKey_readNamed ..).bind fun _ =>
        (pastKey_readAccounts _).bind fun _ => pastKey_ok _
  | setDefaultLimits =>
      exact (part _).bind fun _ => (pastKey_readBody ..).bind fun _ =>
        (pastKey_readNamed ..).bind fun _ => (pastKey_resolveLimits _).bind fun _ => pastKey_ok _
  | setUserLimits =>
      exact (part _).bind fun _ => (part _).bind fun _ => (pastKey_readBody ..).bind fun _ =>
        (position ..).bind fun _ => (pastKey_resolveLimits _).bind fun _ => pastKey_ok _

theorem Request.pastKey_action (request : Request) : PastKey request.action := by
  have found : PastKey (Endpoint.ofRequest request) := by
    unfold Endpoint.ofRequest
    extract_lets methods
    split
    · exact pastKey_error (by decide)
    · split
      · exact pastKey_ok _
      · exact pastKey_error (by decide)
  exact found.bind fun endpoint => endpoint.pastKey_action request

/-! ## Responses -/

private theorem status_refused (refusal : Refusal) : (Rejection.refused refusal).status ≠ 401 := by
  cases refusal <;> simp [Rejection.status, statusOfRefusal]

theorem Response.status_ofOutcome (storage : Storage) (operator : Address) (action : Action)
    (outcome : Outcome Service) :
    (ofOutcome storage operator action outcome).status ≠ 401 := by
  rw [status, ofOutcome]
  cases outcome.answer with
  | ok => exact (by decide : 200 ≠ 401)
  | error refusal => exact status_refused refusal

theorem Response.status_ofAction (service : Service) (storage : Storage) (operator : Address)
    (action : Action) : (ofAction service storage operator action).status ≠ 401 := by
  unfold ofAction
  split
  · exact status_ofOutcome storage operator action _
  · split
    · unfold ofSaving
      split
      · exact (by decide : 200 ≠ 401)
      · exact (by decide : 500 ≠ 401)
    · exact (by decide : 200 ≠ 401)

section Respond

variable {access : Access} {service : Service} {storage : Storage} {request : Request}

theorem respond_of_unauthorized (barred : isAuthorized access.key request.authorization = false) :
    respond access service storage request =
      .unchanged service storage (.error .missingKey) := by
  rw [respond, barred]
  rfl

theorem status_of_authorized (admitted : isAuthorized access.key request.authorization = true) :
    (respond access service storage request).status ≠ 401 := by
  have past := request.pastKey_action
  unfold respond
  rw [admitted, Bool.not_true, if_neg Bool.false_ne_true]
  extract_lets response
  have status : response.status ≠ 401 := by
    unfold response
    split
    next rejection failed => exact past.status rejection failed
    next action _ => exact Response.status_ofAction service storage access.operator action
  split
  · exact status
  · exact status

/-- A request without the key is turned away with status 401, whatever else it holds, and
nothing comes of it; no other request is. Keys are the same only if every byte is. -/
theorem unkeyed_turned_away (access : Access) (service : Service) (storage : Storage)
    (request : Request) :
    let response := respond access service storage request
    (response.status = 401 ↔ ¬∃ text ∈ request.authorization, Presents access.key text) ∧
      ((¬∃ text ∈ request.authorization, Presents access.key text) →
        response.service = service ∧ response.storage = storage ∧ response.events = [] ∧
          response.readings = []) ∧
      ∀ presented expected, keysMatch presented expected = true ↔ presented = expected := by
  intro response
  rw [← isAuthorized_iff, Bool.not_eq_true]
  cases admitted : isAuthorized access.key request.authorization with
  | true =>
      have status : response.status ≠ 401 := status_of_authorized admitted
      exact ⟨⟨fun barred => absurd barred status, nofun⟩, nofun, fun _ _ => keysMatch_iff⟩
  | false =>
      have answer : response = .unchanged service storage (.error .missingKey) :=
        respond_of_unauthorized admitted
      rw [answer]
      exact ⟨iff_of_true rfl rfl, fun _ => ⟨rfl, rfl, rfl, rfl⟩, fun _ _ => keysMatch_iff⟩

end Respond

namespace Sample

def access : Access where
  key := "secret"
  operator := .zero

def service : Service where
  site := .ofCheckpoint 0 default
  path := none

/-- The key is there, but something follows it. -/
def request : Request where
  method := .post
  target := "/admin/pause"
  authorization := some "Bearer secrets"
  contentType := none
  body := ""

theorem unkeyed : ¬∃ text ∈ request.authorization, Presents access.key text := by
  rw [← isAuthorized_iff, isAuthorized_iff_token]
  decide

end Sample

theorem unkeyed_turned_away_sample :
    let response := respond Sample.access Sample.service .vacant Sample.request
    response.status = 401 ∧ response.service = Sample.service ∧ response.events = [] :=
  have turned := unkeyed_turned_away Sample.access Sample.service .vacant Sample.request
  have unchanged := turned.2.1 Sample.unkeyed
  ⟨turned.1.mpr Sample.unkeyed, unchanged.1, unchanged.2.2.1⟩

/-! ## Configured keys -/

theorem Presents.bare {key header : String} (presented : Presents key header) :
    Text.Bare key.toList := by
  rcases presented.token with ⟨token, _, trimmed⟩
  rw [← trimmed]
  exact Text.bare_trim token

private theorem bearerToken?_append (key : String) :
    bearerToken? ("Bearer " ++ key) = some (String.ofList (Text.trim key.toList)) :=
  bearerToken?_eq_some_iff.mpr ⟨key.toList, String.toList_append, String.toList_ofList.symm⟩

/-- Whoever may see the key and writes it down as it is presents it, if it is bare. -/
private theorem presents_append {key : String}
    (printable : ∀ char ∈ key.toList, ' ' ≤ char ∧ char < '\x7f') (bare : Text.Bare key.toList) :
    Presents key ("Bearer " ++ key) := by
  refine ⟨?_, key.toList, String.toList_append, Text.trim_eq_self_iff.mpr bare⟩
  have word : ∀ char ∈ "Bearer ".toList, char = '\t' ∨ ' ' ≤ char ∧ char < '\x7f' := by simp
  rw [String.toList_append]
  intro char member
  rcases List.mem_append.mp member with before | within
  · exact word char before
  · exact .inr (printable char within)

theorem apiKey_of_validate {configuration : Configuration}
    (valid : configuration.validate = .ok ()) (enabled : configuration.admin.enabled = true) :
    configuration.admin.apiKey.toList ≠ [] := by
  have sound := Seeds.flaws_of_validate valid
  simp only [Configuration.flaws, List.append_eq_nil_iff] at sound
  have admin := sound.1.2
  rw [Configuration.adminFlaws, if_pos enabled, List.append_eq_nil_iff] at admin
  intro empty
  have blank : configuration.admin.apiKey.isEmpty = true := by
    rw [String.isEmpty_iff]
    exact String.toList_eq_nil_iff.mp empty
  rw [if_pos blank] at admin
  cases admin.2

private theorem bare_iff_of_printable {text : List Char} {first last : Char}
    (printable : ∀ char ∈ text, ' ' ≤ char ∧ char < '\x7f') (head : text.head? = some first)
    (final : text.getLast? = some last) : Text.Bare text ↔ first ≠ ' ' ∧ last ≠ ' ' := by
  have blankFirst := Text.isBlank_eq_true_iff (printable first (List.mem_of_head? head))
  have blankLast := Text.isBlank_eq_true_iff (printable last (List.mem_of_getLast? final))
  rw [Ne, Ne, ← blankFirst, ← blankLast, Bool.not_eq_true, Bool.not_eq_true]
  constructor
  · exact fun bare => ⟨bare.first first head, bare.last last final⟩
  · rintro ⟨clear, clearLast⟩
    refine ⟨fun char member => ?_, fun char member => ?_⟩
    · cases head.symm.trans member
      exact clear
    · cases final.symm.trans member
      exact clearLast

/-- A key that a valid configuration names, of characters that can be typed, lets in whoever
writes it down as it is, if it neither begins nor ends with a space. Otherwise nobody is let
in, whatever they write. -/
theorem configured_key_admits {configuration : Configuration}
    (valid : configuration.validate = .ok ()) (enabled : configuration.admin.enabled = true)
    (printable : ∀ char ∈ configuration.admin.apiKey.toList, ' ' ≤ char ∧ char < '\x7f') :
    let key := configuration.admin.apiKey
    ∃ first last token, key.toList.head? = some first ∧ key.toList.getLast? = some last ∧
      bearerToken? ("Bearer " ++ key) = some token ∧
      (keysMatch token key = true ↔ first ≠ ' ' ∧ last ≠ ' ') ∧
      (isAuthorized key (some ("Bearer " ++ key)) = true ↔ first ≠ ' ' ∧ last ≠ ' ') ∧
      (first = ' ' ∨ last = ' ' → ∀ header, isAuthorized key header = false) := by
  intro key
  have present := apiKey_of_validate valid enabled
  have bare := bare_iff_of_printable printable (List.head?_eq_some_head present)
    (List.getLast?_eq_some_getLast present)
  refine ⟨key.toList.head present, key.toList.getLast present, _, List.head?_eq_some_head present,
    List.getLast?_eq_some_getLast present, bearerToken?_append key, ?token, ?header, ?shut⟩
  case token =>
    rw [← bare, ← Text.trim_eq_self_iff, keysMatch_iff, ← String.toList_inj, String.toList_ofList]
  case header =>
    rw [← bare, isAuthorized_iff]
    constructor
    · rintro ⟨_, _, presented⟩
      exact presented.bare
    · exact fun bare => ⟨_, rfl, presents_append printable bare⟩
  case shut =>
    intro spaced header
    refine Bool.eq_false_iff.mpr fun admitted => ?_
    rcases isAuthorized_iff.mp admitted with ⟨_, _, presented⟩
    have clear := bare.mp presented.bare
    exact spaced.elim clear.1 clear.2

namespace Sample

def administered (key : String) : Configuration where
  service :=
    { identity := "0x0000000000000000000000000000000000000001"
      admin := "0x0000000000000000000000000000000000000002" }
  admin :=
    { enabled := true
      apiKey := key
      operator := "0x0000000000000000000000000000000000000002" }

end Sample

theorem configured_key_admits_sample :
    let configuration := Sample.administered "two words"
    configuration.validate = .ok () ∧ configuration.admin.enabled = true ∧
      isAuthorized "two words" (some ("Bearer " ++ "two words")) = true := by
  have valid : (Sample.administered "two words").validate = .ok () := rfl
  have admits := configured_key_admits valid rfl (by simp [Sample.administered])
  rcases admits with ⟨first, last, _, head, final, _, _, header, _⟩
  cases head
  cases final
  exact ⟨valid, rfl, header.mpr (by decide)⟩

/-- The configuration is valid, but the key that it names is taken for another one. -/
theorem spaced_key_refused_sample :
    let configuration := Sample.administered "secret "
    configuration.validate = .ok () ∧ configuration.admin.enabled = true ∧
      (∀ char ∈ configuration.admin.apiKey.toList, ' ' ≤ char ∧ char < '\x7f') ∧
      ¬∃ token, bearerToken? ("Bearer " ++ configuration.admin.apiKey) = some token ∧
        keysMatch token configuration.admin.apiKey = true := by
  refine ⟨rfl, rfl, by simp [Sample.administered], ?_⟩
  rintro ⟨token, presented, same⟩
  have shorter : bearerToken? ("Bearer " ++ "secret ") = some "secret" := by decide
  cases shorter.symm.trans presented
  exact absurd (keysMatch_iff.mp same) (by decide)

end Admin

end Turnstile
