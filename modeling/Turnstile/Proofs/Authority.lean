import Turnstile.Authority
import Turnstile.Proofs.Table
import Turnstile.Proofs.Verdict

namespace Turnstile.Authority

/-! Changes of grants, announced or not. Whatever holds of the world with the old table and
with any new one holds after the change. -/

variable {World : Type} {world : World}

theorem keeps_reassign_of_assign {Good : World → Prop} (good : Good world)
    {authority : Authority} {install : Authority → World} {caller account : Address} {role : Role}
    {held : Bool} (installed : ∀ changed turns,
      authority.assign caller role account held = .ok (changed, turns) → Good (install changed)) :
    (authority.reassign world install caller role account held).Keeps Good := by
  rw [reassign]
  split
  next refusal _ => exact Outcome.keeps_refused good refusal
  next changed assigned => exact Outcome.keeps_accepted (installed changed _ assigned) _ _
  next changed assigned => exact Outcome.keeps_accepted (installed changed _ assigned) _ _

theorem keeps_reassign {Good : World → Prop} (good : Good world) (authority : Authority)
    {install : Authority → World} (installed : ∀ changed, Good (install changed))
    (caller : Address) (role : Role) (account : Address) (held : Bool) :
    (authority.reassign world install caller role account held).Keeps Good :=
  keeps_reassign_of_assign good fun changed _ _ => installed changed

theorem atomic_reassign {Same : World → Prop} (same : Same world) (authority : Authority)
    (install : Authority → World) (caller : Address) (role : Role) (account : Address)
    (held : Bool) :
    (authority.reassign world install caller role account held).Atomic Same := by
  rw [reassign]
  split
  · exact Outcome.atomic_refused same _
  · exact Outcome.atomic_accepted ..
  · exact Outcome.atomic_accepted ..

theorem related_reassign {Same : World → World → Prop} {left right : World}
    (same : Same left right) (authority : Authority) {install other : Authority → World}
    (installed : ∀ changed, Same (install changed) (other changed)) (caller : Address)
    (role : Role) (account : Address) (held : Bool) :
    Outcome.Related Same (authority.reassign left install caller role account held)
      (authority.reassign right other caller role account held) := by
  unfold reassign
  split
  · exact Outcome.related_refused same _
  · exact Outcome.related_accepted (installed _) _ _ _
  · exact Outcome.related_accepted (installed _) _ _ _

/-! ## What a change does -/

section Assign

variable {authority changed : Authority} {caller account : Address} {role : Role}
  {held turns : Bool}

theorem holds_of_assign
    (assigned : authority.assign caller role account held = .ok (changed, turns))
    (other : Role) (who : Address) :
    changed.holds other who =
      if (⟨role, account⟩ : Grant) = ⟨other, who⟩ then held else authority.holds other who := by
  rcases exists_of_bind_eq_ok assigned with ⟨_, _, done⟩
  split at done
  next => cases done
  next =>
    cases done
    simp only [holds, KeySet.contains_assign, rank_eq_iff]

theorem turns_of_assign
    (assigned : authority.assign caller role account held = .ok (changed, turns)) :
    turns = (authority.holds role account != held) := by
  rcases exists_of_bind_eq_ok assigned with ⟨_, _, done⟩
  split at done
  next => cases done
  next =>
    cases done
    rfl

end Assign

/-! ## Grants to many

A role that an administrator gives to some accounts is held by them and by whoever held it
before. Nothing can go wrong but that one of them is the null identity. -/

theorem ext_holds {left right : Authority}
    (agree : ∀ role account, left.holds role account = right.holds role account) :
    left = right := by
  have grants : left.grants = right.grants :=
    KeySet.ext_contains fun grant => agree grant.role grant.account
  exact Authority.mk.injEq .. |>.mpr grants

/-- The table in which one account is administrator, and nothing else is granted. -/
def sole (admin : Address) : Authority :=
  ofGrants [⟨.admin, admin⟩]

def withGrants (authority : Authority) (role : Role) (accounts : List Address) : Authority :=
  ⟨authority.grants.withKeys (accounts.map fun account => ⟨role, account⟩)⟩

theorem holds_withGrants {authority : Authority} {given role : Role} {accounts : List Address}
    {account : Address} : (authority.withGrants given accounts).holds role account = true ↔
      (given = role ∧ account ∈ accounts) ∨ authority.holds role account = true := by
  rw [holds, withGrants, KeySet.contains_withKeys, holds]
  simp only [List.mem_map, Grant.mk.injEq]
  constructor
  · rintro (⟨_, member, rfl, rfl⟩ | held)
    · exact .inl ⟨rfl, member⟩
    · exact .inr held
  · rintro (⟨rfl, member⟩ | held)
    · exact .inl ⟨account, member, rfl, rfl⟩
    · exact .inr held

theorem holds_sole {admin : Address} {role : Role} {account : Address} :
    (sole admin).holds role account = true ↔ .admin = role ∧ account = admin := by
  have shape : sole admin = withGrants ⟨.empty⟩ .admin [admin] := rfl
  have nothing : ¬holds ⟨.empty⟩ role account = true := nofun
  rw [shape, holds_withGrants, List.mem_singleton]
  exact or_iff_left nothing

theorem holds_sole_admin (admin : Address) : (sole admin).holds .admin admin = true :=
  holds_sole.mpr ⟨rfl, rfl⟩

theorem holds_admin_withGrants {authority : Authority} {admin : Address}
    (held : authority.holds .admin admin = true) (role : Role) (accounts : List Address) :
    (authority.withGrants role accounts).holds .admin admin = true :=
  holds_withGrants.mpr (.inr held)

theorem founded_of_ne_zero {admin : Address} (proper : admin ≠ .zero) :
    founded admin = .ok (sole admin) :=
  if_neg proper

theorem withGrants_append (authority : Authority) (role : Role) (first second : List Address) :
    authority.withGrants role (first ++ second) =
      (authority.withGrants role first).withGrants role second := by
  simp only [withGrants, KeySet.withKeys, List.map_append, List.foldl_append]

theorem require_of_holds {authority : Authority} {role : Role} {caller : Address}
    (held : authority.holds role caller = true) : authority.require role caller = .ok () :=
  if_pos held

theorem require_of_unheld {authority : Authority} {role : Role} {caller : Address}
    (unheld : authority.holds role caller = false) :
    authority.require role caller = .error (.unauthorized role caller) := by
  rw [require, unheld]
  rfl

theorem arrives_reassign {authority : Authority} {install : Authority → World}
    {caller account : Address} (held : authority.holds .admin caller = true)
    (proper : account ≠ .zero) (world : World) (role : Role) :
    (authority.reassign world install caller role account true).Arrives
      (install ⟨authority.grants.assign ⟨role, account⟩ true⟩) := by
  have assigned : authority.assign caller role account true =
      .ok (⟨authority.grants.assign ⟨role, account⟩ true⟩,
        authority.holds role account != true) := by
    rw [assign, require_of_holds held]
    exact if_neg proper
  rw [reassign, assigned]
  cases authority.holds role account <;> exact Outcome.arrives_accepted ..

theorem arrives_grants {Command : Type} {perform : World → Command → Outcome World}
    (install : Authority → World) {command : Address → Command} {caller : Address} {role : Role}
    (performs : ∀ authority account, perform (install authority) (command account) =
      authority.reassign (install authority) install caller role account true)
    {authority : Authority} (held : authority.holds .admin caller = true)
    {accounts : List Address} (proper : ∀ account ∈ accounts, account ≠ .zero) :
    (Outcome.sequence perform (install authority) (accounts.map command)).Arrives
      (install (authority.withGrants role accounts)) := by
  let place (grants : KeySet Grant) : World := install ⟨grants⟩
  rw [withGrants, KeySet.withKeys, List.foldl_map]
  change (Outcome.sequence perform (place authority.grants) _).Arrives (place _)
  refine Outcome.arrives_map (fun grants => holds ⟨grants⟩ .admin caller = true) ?step ?kept held
  case step =>
    intro account member grants fit
    rw [performs]
    exact arrives_reassign fit (proper account member) _ role
  case kept =>
    intro grants account fit
    exact holds_admin_withGrants fit role [account]

end Turnstile.Authority
