import Turnstile.Proofs.Authority
import Turnstile.Proofs.Limiter.Charge
import Turnstile.Proofs.Run
import Turnstile.Whitelist

namespace Turnstile

/-! Orders about many accounts. A batch first changes everything and then announces
everything, and an account may stand in it more than once. All the same it leaves what one
order for each entry would leave, and announces what they would, unless it is refused: then
nothing of it was carried out. -/

/-! ## One by one -/

namespace Run

variable {World Item : Type} {single : World → Item → Outcome World}

/-- One call for each item is accepted, and together they lead here and publish this. -/
structure OneByOne (single : World → Item → Outcome World) (start : World) (items : List Item)
    (last : World) (events : List Event) : Prop where
  accepted : ∀ step ∈ trace single start items, step.accepted = true
  last : final single start items = last
  events : published single start items = events

/-- If every single call makes its own change and announces it, all of them together make all
changes, in their order, and all announcements. -/
theorem oneByOne_foldl {change : World → Item → World} {announce : Item → Event}
    (Fit : World → Prop)
    (arrives : ∀ world item, Fit world → (single world item).Arrives (change world item))
    (announces : ∀ world item, Fit world → (single world item).events = [announce item])
    (kept : ∀ world item, Fit world → Fit (change world item)) {start : World}
    (fit : Fit start) (items : List Item) :
    OneByOne single start items (items.foldl change start) (items.map announce) := by
  induction items generalizing start with
  | nil => exact ⟨List.forall_mem_nil _, rfl, rfl⟩
  | cons item rest induction =>
      have here := arrives start item fit
      have later := induction (kept start item fit)
      rw [← here.world] at later
      refine ⟨?accepted, ?last, ?events⟩
      case accepted =>
        refine List.forall_mem_cons.mpr ⟨?_, later.accepted⟩
        rw [Step.accepted, here.answer]
        rfl
      case last =>
        rw [final, later.last, List.foldl_cons, here.world]
      case events =>
        rw [published, heard_cons, ← published, announces start item fit, later.events]
        rfl

end Run

/-! ## Members -/

namespace Whitelist

variable {whitelist : Whitelist} {caller : Address}

/-- Make one account a member, or take its membership. -/
def setMember (whitelist : Whitelist) (caller account : Address) (whitelisted : Bool) :
    Outcome Whitelist :=
  whitelist.setMembership caller [account] whitelisted

private theorem withMembership_eq_foldl (whitelist : Whitelist) (accounts : List Address)
    (whitelisted : Bool) :
    whitelist.withMembership accounts whitelisted =
      accounts.foldl (fun whitelist account => whitelist.withMembership [account] whitelisted)
        whitelist := by
  induction accounts generalizing whitelist with
  | nil => rfl
  | cons account rest induction =>
      rw [List.foldl_cons, ← induction]
      rfl

private theorem setMembership_of_holds (held : whitelist.authority.holds .whitelister caller = true)
    (accounts : List Address) (whitelisted : Bool) :
    let changed := whitelist.withMembership accounts whitelisted
    whitelist.setMembership caller accounts whitelisted =
      .accepted changed (accounts.map fun account => .whitelistUpdated account whitelisted)
        [.whitelistMembers changed.memberCount] := by
  intro changed
  rw [setMembership, Authority.require_of_holds held]
  rfl

theorem oneByOne_setMembership (held : whitelist.authority.holds .whitelister caller = true)
    (accounts : List Address) (whitelisted : Bool) :
    Run.OneByOne (fun whitelist account => whitelist.setMember caller account whitelisted)
      whitelist accounts (whitelist.withMembership accounts whitelisted)
      (accounts.map fun account => .whitelistUpdated account whitelisted) := by
  rw [withMembership_eq_foldl]
  apply Run.oneByOne_foldl (fun whitelist => whitelist.authority.holds .whitelister caller = true)
  case arrives =>
    intro whitelist account held
    rw [setMember, setMembership_of_holds held]
    exact Outcome.arrives_accepted ..
  case announces =>
    intro whitelist account held
    rw [setMember, setMembership_of_holds held]
    rfl
  case kept => exact fun _ _ held => held
  case fit => exact held

/-- A batch of memberships takes the one role that each of them takes. -/
theorem meets_setMembership (whitelist : Whitelist) (caller : Address)
    (accounts : List Address) (whitelisted : Bool) :
    (whitelist.setMembership caller accounts whitelisted).Meets
      [⟨whitelist.authority.holds .whitelister caller, .unauthorized .whitelister caller⟩]
      (whitelist = ·)
      (Run.OneByOne (fun whitelist account => whitelist.setMember caller account whitelisted)
        whitelist accounts) := by
  rw [setMembership, Limiter.require_eq_verdict]
  apply Outcome.meets_required rfl
  intro held
  exact Outcome.meets_accepted (oneByOne_setMembership held accounts whitelisted)

end Whitelist

/-! ## Exemptions -/

namespace Limiter

variable {limiter : Limiter} {caller : Address} {accounts : List Address} {exempt : List Bool}

/-- Exempt one position, or end its exemption. -/
def setExemption (limiter : Limiter) (caller : Address) (position : Position) (exempt : Bool) :
    Outcome Limiter :=
  limiter.setExemptions caller position.asset [position.account] [exempt]

private theorem checkSameLength_eq_verdict :
    checkSameLength accounts exempt =
      verdict [⟨accounts.length = exempt.length,
        .invalidArgument (.lengthMismatch accounts.length exempt.length)⟩] := by
  simp only [checkSameLength, verdict, decide_eq_true_eq]

private theorem setExemptions_of_holds (held : limiter.authority.holds .admin caller = true)
    (paired : accounts.length = exempt.length) (asset : Address) :
    let changes := accounts.zip exempt
    let updated := changes.foldl
      (fun limiter change => limiter.withExemption ⟨asset, change.1⟩ change.2) limiter
    limiter.setExemptions caller asset accounts exempt =
      .accepted updated (changes.map fun change => .exemptionUpdated asset change.1 change.2)
        updated.tracking := by
  intro changes updated
  rw [setExemptions, Authority.require_of_holds held, checkSameLength, if_pos paired]
  rfl

theorem oneByOne_setExemptions (held : limiter.authority.holds .admin caller = true)
    (asset : Address) (changes : List (Address × Bool)) :
    Run.OneByOne
      (fun limiter change => limiter.setExemption caller ⟨asset, change.1⟩ change.2) limiter
      changes
      (changes.foldl (fun limiter change => limiter.withExemption ⟨asset, change.1⟩ change.2)
        limiter)
      (changes.map fun change => .exemptionUpdated asset change.1 change.2) := by
  apply Run.oneByOne_foldl (fun limiter => limiter.authority.holds .admin caller = true)
  case arrives =>
    intro limiter change held
    rw [setExemption, setExemptions_of_holds held rfl]
    exact Outcome.arrives_accepted ..
  case announces =>
    intro limiter change held
    rw [setExemption, setExemptions_of_holds held rfl]
    rfl
  case kept => exact fun _ _ held => held
  case fit => exact held

/-- A batch of exemptions is refused without the role, and then for lists that cannot be
paired, whichever of them is the longer one. -/
theorem meets_setExemptions (limiter : Limiter) (caller asset : Address)
    (accounts : List Address) (exempt : List Bool) :
    (limiter.setExemptions caller asset accounts exempt).Meets
      [⟨limiter.authority.holds .admin caller, .unauthorized .admin caller⟩,
        ⟨accounts.length = exempt.length,
          .invalidArgument (.lengthMismatch accounts.length exempt.length)⟩]
      (limiter = ·)
      (Run.OneByOne
        (fun limiter change => limiter.setExemption caller ⟨asset, change.1⟩ change.2) limiter
        (accounts.zip exempt)) := by
  rw [setExemptions, require_eq_verdict, checkSameLength_eq_verdict]
  apply Outcome.meets_required rfl
  intro held
  apply Outcome.meets_required rfl
  intro paired
  exact Outcome.meets_accepted (oneByOne_setExemptions held asset _)

end Limiter

/-- Memberships and exemptions set in batches come out as set one by one, in the state that
they leave and in the events that they publish. A batch is refused for lack of the role or for
lists of different lengths, and then leaves everything as it was and publishes nothing. -/
theorem batches_one_by_one :
    (∀ (whitelist : Whitelist) (caller : Address) (accounts : List Address)
        (whitelisted : Bool),
      (whitelist.setMembership caller accounts whitelisted).Meets
        [⟨whitelist.authority.holds .whitelister caller, .unauthorized .whitelister caller⟩]
        (whitelist = ·)
        (Run.OneByOne
          (fun whitelist account => whitelist.setMember caller account whitelisted) whitelist
          accounts)) ∧
      ∀ (limiter : Limiter) (caller asset : Address) (accounts : List Address)
        (exempt : List Bool),
      (limiter.setExemptions caller asset accounts exempt).Meets
        [⟨limiter.authority.holds .admin caller, .unauthorized .admin caller⟩,
          ⟨accounts.length = exempt.length,
            .invalidArgument (.lengthMismatch accounts.length exempt.length)⟩]
        (limiter = ·)
        (Run.OneByOne
          (fun limiter change => limiter.setExemption caller ⟨asset, change.1⟩ change.2)
          limiter (accounts.zip exempt)) :=
  ⟨Whitelist.meets_setMembership, Limiter.meets_setExemptions⟩

namespace Sample

def address (number : Nat) : Address :=
  (Address.ofNat? number).getD .zero

def limiter : Limiter :=
  (Limiter.founded (address 2) .unlimited).toOption.get rfl

/-- The first account stands twice. -/
def accounts : List Address :=
  [address 3, address 4, address 3]

def exempted (exempt : List Bool) : Outcome Limiter :=
  limiter.setExemptions (address 2) (address 5) accounts exempt

def whitelist : Whitelist :=
  let founded := (Whitelist.founded (address 2)).toOption.get rfl
  (founded.assignRole (address 2) .whitelister (address 2) true).world

end Sample

/-- What is said of an account last is what counts: the flags in another order leave another
state. An account that stands twice becomes one member, announced twice. -/
theorem batches_one_by_one_sample :
    let mixed := Sample.exempted [true, true, false]
    let turned := Sample.exempted [false, true, true]
    let uneven := Sample.exempted [true, true]
    let single := fun (limiter : Limiter) (change : Address × Bool) =>
      limiter.setExemption (Sample.address 2) ⟨Sample.address 5, change.1⟩ change.2
    let joined := Sample.whitelist.setMembership (Sample.address 2) Sample.accounts true
    mixed.answer = .ok () ∧
      Run.OneByOne single Sample.limiter
        [(Sample.address 3, true), (Sample.address 4, true), (Sample.address 3, false)]
        mixed.world mixed.events ∧
      mixed.events =
        [.exemptionUpdated (Sample.address 5) (Sample.address 3) true,
          .exemptionUpdated (Sample.address 5) (Sample.address 4) true,
          .exemptionUpdated (Sample.address 5) (Sample.address 3) false] ∧
      mixed.world.isExempt ⟨Sample.address 5, Sample.address 3⟩ = false ∧
      mixed.world.isExempt ⟨Sample.address 5, Sample.address 4⟩ = true ∧
      turned.answer = .ok () ∧
      turned.world.isExempt ⟨Sample.address 5, Sample.address 3⟩ = true ∧
      uneven.answer = .error (.invalidArgument (.lengthMismatch 3 2)) ∧
      uneven.world = Sample.limiter ∧ uneven.events = [] ∧
      Run.OneByOne
        (fun whitelist account => whitelist.setMember (Sample.address 2) account true)
        Sample.whitelist Sample.accounts joined.world joined.events ∧
      joined.world.memberCount = 2 ∧ joined.events.length = 3 := by
  intro mixed turned uneven single joined
  rcases batches_one_by_one with ⟨memberships, exemptions⟩
  have exempting := exemptions Sample.limiter (Sample.address 2) (Sample.address 5)
    Sample.accounts
  have whitelisting := memberships Sample.whitelist (Sample.address 2) Sample.accounts true
  have paired : mixed.answer = .ok () := (exempting [true, true, false]).answer
  have unpaired : uneven.answer = .error (.invalidArgument (.lengthMismatch 3 2)) :=
    (exempting [true, true]).answer
  have atomic := (exempting [true, true]).atomic
  refine ⟨paired, (exempting [true, true, false]).done paired, rfl, ?first, ?second,
    (exempting [false, true, true]).answer, ?turned, unpaired,
    (atomic.spared _ unpaired).symm, atomic.silent _ unpaired,
    whitelisting.done whitelisting.answer, ?joined, rfl⟩
  case first => decide
  case second => decide
  case turned => decide
  case joined => decide

end Turnstile
