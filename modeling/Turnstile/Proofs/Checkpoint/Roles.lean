import Turnstile.Proofs.Audit.Collaborators
import Turnstile.Proofs.Checkpoint.Invariant
import Turnstile.Proofs.Checkpoint.Supply
import Turnstile.Proofs.Roles

namespace Turnstile

/-! Roles over whole runs. Each component gives and takes only roles of its own, and never that
of its administrator. So whoever has founded a component administers it for as long as it
lasts, alone, whatever is asked of it and by whom. -/

namespace Component

/-- The roles that a component gives to others. -/
def roles : Component → List Role
  | .whitelist => [.whitelister, .caller]
  | .limiter => [.limitManager, .caller]
  | .gate => [.minter]

private theorem admin_notMem_roles (component : Component) : .admin ∉ component.roles := by
  cases component <;> decide

/-- Apart from its one administrator, the component knows only roles of its own. -/
def Confines (component : Component) (admin : Address) (authority : Authority) : Prop :=
  authority.Confined admin component.roles

private theorem confines_of_founded {admin : Address} {authority : Authority}
    (founded : Authority.founded admin = .ok authority) (component : Component) :
    component.Confines admin authority :=
  Authority.confined_of_founded founded component.roles

/-- What a component gives of its own keeps it confined. -/
theorem Confines.keeps_reassign {component : Component} {admin : Address} {authority : Authority}
    (confined : component.Confines admin authority) {role : Role} (own : role ∈ component.roles)
    {World : Type} {world : World} {Good : World → Prop} (good : Good world)
    {install : Authority → World}
    (installed : ∀ changed : Authority, component.Confines admin changed → Good (install changed))
    (caller account : Address) (held : Bool) :
    (authority.reassign world install caller role account held).Keeps Good := by
  have lesser : role ≠ .admin := fun same => component.admin_notMem_roles (same ▸ own)
  exact Authority.keeps_reassign_of_assign good fun changed _ assigned =>
    installed changed (Authority.Confined.of_assign confined own lesser assigned)

end Component

section Components

variable {admin : Address}

/-! ## Components -/

namespace Whitelist

def Ruled (admin : Address) (whitelist : Whitelist) : Prop :=
  Component.whitelist.Confines admin whitelist.authority

theorem ruled_of_founded {whitelist : Whitelist}
    (founded : Whitelist.founded admin = .ok whitelist) : whitelist.Ruled admin := by
  rcases exists_of_bind_eq_ok founded with ⟨authority, granted, done⟩
  cases done
  exact Component.confines_of_founded granted _

theorem Ruled.keeps_perform {whitelist : Whitelist} (ruled : whitelist.Ruled admin)
    (caller : Address) (command : Command) :
    (whitelist.perform caller command).Keeps (Ruled admin) := by
  cases command with
  | setMembership | setEnabled => exact Outcome.Keeps.guarded ⟨ruled⟩ ruled _
  | assignWhitelister =>
      refine Component.Confines.keeps_reassign ruled (.head _) ruled ?_ ..
      exact fun _ confined => confined
  | assignCaller =>
      refine Component.Confines.keeps_reassign ruled (.tail _ (.head _)) ruled ?_ ..
      exact fun _ confined => confined

theorem Ruled.final {start : Whitelist} (ruled : start.Ruled admin)
    (calls : List (Signed Command)) : (Run.final performSigned start calls).Ruled admin :=
  Run.final_of_step (Ruled admin)
    (fun _ call ruled => (ruled.keeps_perform call.caller call.command).kept) ruled calls

end Whitelist

namespace Limiter

def Ruled (admin : Address) (limiter : Limiter) : Prop :=
  Component.limiter.Confines admin limiter.authority

theorem ruled_of_founded {fallback : Limits} {limiter : Limiter}
    (founded : Limiter.founded admin fallback = .ok limiter) : limiter.Ruled admin := by
  rcases exists_of_bind_eq_ok founded with ⟨_, _, rest⟩
  rcases exists_of_bind_eq_ok rest with ⟨authority, granted, done⟩
  cases done
  exact Component.confines_of_founded granted _

theorem Ruled.keeps_perform {limiter : Limiter} (ruled : limiter.Ruled admin) (now : Seconds)
    (caller : Address) (command : Command) :
    (limiter.perform now caller command).Keeps (Ruled admin) := by
  by_cases target : command.target = .grants
  · cases command with
    | assignManager =>
        refine Component.Confines.keeps_reassign ruled (.head _) ruled ?_ ..
        exact fun _ confined => confined
    | assignCaller =>
        refine Component.Confines.keeps_reassign ruled (.tail _ (.head _)) ruled ?_ ..
        exact fun _ confined => confined
    | _ => cases target
  · have apart := (limiter.confined_perform now caller command).kept.authority target
    refine ⟨?_⟩
    rw [Ruled, apart]
    exact ruled

theorem Ruled.final {start : Limiter} (ruled : start.Ruled admin)
    (calls : List (Timed (Signed Command))) :
    (Run.final performSigned start calls).Ruled admin :=
  Run.final_of_step (Ruled admin)
    (fun _ call ruled =>
      (ruled.keeps_perform call.now call.command.caller call.command.command).kept) ruled calls

end Limiter

namespace Gate

def Ruled (admin : Address) (gate : Gate) : Prop :=
  Component.gate.Confines admin gate.authority

theorem ruled_of_founded {identity : Address} {gate : Gate}
    (founded : Gate.founded identity admin = .ok gate) : gate.Ruled admin := by
  rw [Gate.founded] at founded
  split at founded
  next => cases founded
  next =>
    rcases exists_of_bind_eq_ok founded with ⟨authority, granted, done⟩
    cases done
    exact Component.confines_of_founded granted _

end Gate

end Components

/-! ## The gate and its collaborators -/

namespace Checkpoint

/-- Each of the three has an administrator of its own. -/
structure Ruled (admins : Component → Address) (checkpoint : Checkpoint) : Prop where
  whitelist : checkpoint.whitelist.Ruled (admins .whitelist)
  limiter : checkpoint.limiter.Ruled (admins .limiter)
  gate : checkpoint.gate.Ruled (admins .gate)

/-- What the command puts in place, if anything, has the administrators, too. -/
structure Command.Installs (admins : Component → Address) (command : Command) : Prop where
  whitelist : ∀ caller whitelist, command = .gate (.replaceWhitelist caller whitelist) →
    whitelist.Ruled (admins .whitelist)
  limiter : ∀ caller limiter, command = .gate (.replaceLimiter caller limiter) →
    limiter.Ruled (admins .limiter)

variable {checkpoint : Checkpoint} {admins : Component → Address}

private theorem keeps_assignMinter {Good : Checkpoint → Prop} (good : Good checkpoint)
    {admin : Address} (ruled : checkpoint.gate.Ruled admin)
    (granted : ∀ authority : Authority, Component.gate.Confines admin authority →
      Good { checkpoint with gate.authority := authority })
    (caller account : Address) (held : Bool) :
    (checkpoint.assignMinter caller account held).Keeps Good :=
  Component.Confines.keeps_reassign ruled (.head _) good granted caller account held

/-- Whatever the gate asks, its own grants stay as they have to be. -/
theorem ruled_executeAt {admin : Address} (ruled : checkpoint.gate.Ruled admin)
    (call : Timed Command) : (checkpoint.executeAt call).world.gate.Ruled admin := by
  let Good (after : Checkpoint) : Prop := after.gate.Ruled admin
  have good : Good checkpoint := ruled
  rcases call with ⟨now, whitelist | limiter | command⟩
  case whitelist | limiter => exact ruled
  case gate =>
    refine (keeps_perform_of_pieces good now command ?limits ?wrote ?switched ?granted
      ?registered ?relimited).kept
    case limits => exact fun _ => ⟨ruled⟩
    case wrote => exact fun _ kept _ _ _ => kept
    case switched => exact fun _ => ruled
    case granted => exact keeps_assignMinter good ruled fun _ confined => confined
    case registered =>
      rintro _ _ rfl
      exact Outcome.Keeps.guarded ⟨ruled⟩ good _
    case relimited =>
      rintro _ _ rfl
      exact Outcome.Keeps.guarded ⟨ruled⟩ good _

theorem Ruled.keeps_execute (ruled : checkpoint.Ruled admins) (now : Seconds)
    {command : Command} (installs : command.Installs admins) :
    (checkpoint.execute now command).Keeps (Ruled admins) := by
  rcases ruled with ⟨whitelisted, limited, gated⟩
  have ruled : checkpoint.Ruled admins := ⟨whitelisted, limited, gated⟩
  cases command with
  | whitelist caller command =>
      exact ⟨⟨(whitelisted.keeps_perform caller command).kept, limited, gated⟩⟩
  | limiter caller command =>
      exact ⟨⟨whitelisted, (limited.keeps_perform now caller command).kept, gated⟩⟩
  | gate command =>
      refine keeps_perform_of_pieces ruled now command ?limits ?wrote ?switched ?granted
        ?registered ?relimited
      case limits =>
        intro asked
        have kept := limited.keeps_perform now checkpoint.gate.identity asked
        exact ⟨⟨whitelisted, kept.kept, gated⟩⟩
      case wrote => exact fun _ kept _ _ _ => ⟨kept.whitelist, kept.limiter, kept.gate⟩
      case switched => exact fun _ => ⟨whitelisted, limited, gated⟩
      case granted =>
        exact keeps_assignMinter ruled gated fun _ confined => ⟨whitelisted, limited, confined⟩
      case registered =>
        rintro caller whitelist rfl
        exact Outcome.Keeps.guarded ⟨⟨installs.whitelist caller whitelist rfl, limited, gated⟩⟩
          ruled _
      case relimited =>
        rintro caller limiter rfl
        exact Outcome.Keeps.guarded ⟨⟨whitelisted, installs.limiter caller limiter rfl, gated⟩⟩
          ruled _

theorem Ruled.final {start : Checkpoint} (ruled : start.Ruled admins)
    {calls : List (Timed Command)} (installs : ∀ call ∈ calls, call.command.Installs admins) :
    (Run.final executeAt start calls).Ruled admins :=
  (Run.met_of_step (Ruled admins) ruled fun moment member kept =>
    (kept.keeps_execute moment.call.now
      (installs moment.call (Run.call_mem_of_mem_past member))).kept).2

end Checkpoint

/-- From when it is new, and whatever is done at it, a component has the one administrator that
it was founded with and no roles but its own besides, and the null identity has none; so it is
for a gate and its collaborators together, unless collaborators of another kind are put in
place. As for tables of grants by themselves, they change only through administrators and
never for the null identity, the flag tells whether they have, and without administrators
they never change again. -/
theorem roles_confined :
    (∀ admin start, Whitelist.founded admin = .ok start →
        ∀ calls : List (Signed Whitelist.Command),
          (Run.final Whitelist.performSigned start calls).Ruled admin) ∧
      (∀ admin fallback start, Limiter.founded admin fallback = .ok start →
        ∀ calls : List (Timed (Signed Limiter.Command)),
          (Run.final Limiter.performSigned start calls).Ruled admin) ∧
      (∀ identity admin (start : Checkpoint), Gate.founded identity admin = .ok start.gate →
        ∀ calls : List (Timed Checkpoint.Command),
          (Run.final Checkpoint.executeAt start calls).gate.Ruled admin) ∧
      (∀ admins identity fallback (start : Checkpoint),
        Whitelist.founded (admins .whitelist) = .ok start.whitelist →
        Limiter.founded (admins .limiter) fallback = .ok start.limiter →
        Gate.founded identity (admins .gate) = .ok start.gate →
        ∀ calls : List (Timed Checkpoint.Command),
          (∀ call ∈ calls, call.command.Installs admins) →
            (Run.final Checkpoint.executeAt start calls).Ruled admins) ∧
      ∀ (start : Authority) (earlier later : List Authority.Assignment),
        let table := Run.final Authority.attempt start
        (∀ moment ∈ Run.past Authority.attempt start earlier,
            moment.world.Honest moment.call) ∧
          ((∀ account, (table earlier).holds .admin account = false) →
            table (earlier ++ later) = table earlier) := by
  refine ⟨?whitelist, ?limiter, ?gate, ?together, ?table⟩
  case whitelist =>
    intro admin start founded calls
    exact (Whitelist.ruled_of_founded founded).final calls
  case limiter =>
    intro admin fallback start founded calls
    exact (Limiter.ruled_of_founded founded).final calls
  case gate =>
    intro identity admin start founded calls
    exact Run.final_of_step (fun after : Checkpoint => after.gate.Ruled admin)
      (fun _ call ruled => Checkpoint.ruled_executeAt ruled call)
      (Gate.ruled_of_founded founded) calls
  case together =>
    intro admins identity fallback start whitelist limiter gate calls installs
    have ruled : start.Ruled admins := ⟨Whitelist.ruled_of_founded whitelist,
      Limiter.ruled_of_founded limiter, Gate.ruled_of_founded gate⟩
    exact ruled.final installs
  case table =>
    intro start earlier later table
    refine ⟨fun moment _ => moment.world.honest moment.call, fun leaderless => ?_⟩
    exact (Run.final_append start earlier later).trans (Authority.final_of_leaderless leaderless _)

namespace Authority.Sample

def address (number : Nat) : Address :=
  (Address.ofNat? number).getD .zero

def chief : Address := address 1

def clerk : Address := address 2

/-- The administrator makes a minter, who tries to become one of them, and then steps down. -/
def earlier : List Assignment :=
  [⟨chief, .minter, clerk, true⟩, ⟨clerk, .admin, clerk, true⟩, ⟨chief, .admin, chief, false⟩]

def later : List Assignment :=
  [⟨chief, .admin, chief, true⟩, ⟨clerk, .minter, clerk, false⟩]

def governed : Checkpoint where
  gate := { (default : Gate) with identity := clerk, authority := .sole chief }
  whitelist := { (default : Whitelist) with enabled := true, authority := .sole chief }
  limiter :=
    { fallback := .unlimited, defaults := .empty, standings := .empty, authority := .sole chief }

/-- The gate is given the whitelist that it has, as if it were another one. -/
def calls : List (Timed Checkpoint.Command) :=
  [⟨1, .whitelist chief (.assignWhitelister clerk true)⟩,
    ⟨2, .limiter clerk (.assignManager clerk true)⟩,
    ⟨3, .gate (.assignMinter chief .zero true)⟩,
    ⟨4, .gate (.replaceWhitelist chief governed.whitelist)⟩]

def admins (_ : Component) : Address :=
  chief

private theorem founded_whitelist : Whitelist.founded chief = .ok governed.whitelist := by
  decide

private theorem installs : ∀ call ∈ calls, call.command.Installs admins := by
  have ruled := Whitelist.ruled_of_founded founded_whitelist
  simp only [calls, List.forall_mem_cons]
  refine ⟨⟨nofun, nofun⟩, ⟨nofun, nofun⟩, ⟨nofun, nofun⟩, ⟨?_, nofun⟩, nofun⟩
  rintro _ _ ⟨⟩
  exact ruled

theorem leaderless (account : Address) :
    (Run.final attempt (.sole chief) earlier).holds .admin account = false := by
  have left : Run.final attempt (.sole chief) earlier = withGrants ⟨.empty⟩ .minter [clerk] := by
    decide
  rw [left, Bool.eq_false_iff]
  intro held
  rcases holds_withGrants.mp held with ⟨same, _⟩ | held
  · cases same
  · cases held

end Authority.Sample

theorem roles_confined_sample :
    let start := Authority.Sample.governed
    let chief := Authority.Sample.chief
    let table := Run.final Authority.attempt (.sole chief)
    Whitelist.founded chief = .ok start.whitelist ∧
      Limiter.founded chief .unlimited = .ok start.limiter ∧
      Gate.founded Authority.Sample.clerk chief = .ok start.gate ∧
      (∀ call ∈ Authority.Sample.calls, call.command.Installs Authority.Sample.admins) ∧
      (Run.final Checkpoint.executeAt start Authority.Sample.calls).Ruled
        Authority.Sample.admins ∧
      (∀ account, (table Authority.Sample.earlier).holds .admin account = false) ∧
      table (Authority.Sample.earlier ++ Authority.Sample.later) =
        table Authority.Sample.earlier := by
  intro start chief table
  rcases roles_confined with ⟨_, _, _, together, unchanging⟩
  have limiter : Limiter.founded chief .unlimited = .ok start.limiter := by decide
  have gate : Gate.founded Authority.Sample.clerk chief = .ok start.gate := by decide
  have ruled := together Authority.Sample.admins _ _ start Authority.Sample.founded_whitelist
    limiter gate _ Authority.Sample.installs
  have unchanged := (unchanging (.sole chief) Authority.Sample.earlier
    Authority.Sample.later).2 Authority.Sample.leaderless
  exact ⟨Authority.Sample.founded_whitelist, limiter, gate, Authority.Sample.installs, ruled,
    Authority.Sample.leaderless, unchanged⟩

end Turnstile
