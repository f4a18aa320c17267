import Turnstile.Proofs.Checkpoint.History

namespace Turnstile

/-! What the whitelist is for. While the gate asks it and it is not switched off, whoever comes
to hold something is a member at that moment, or is the gate itself, to which amounts can
stray, or is sent by an administrator what has strayed. -/

private theorem Amount.zero_lt {amount : Amount} (some : amount ≠ .zero) : zero < amount := by
  rw [lt_iff, toNat_zero]
  exact Nat.pos_of_ne_zero fun nothing => some (ext_toNat nothing)

/-- The accounts that have to be members. -/
def Gate.Command.gated : Gate.Command → List Address
  | .transfer _ source destination _ => [source, destination]
  | .transferFrom _ spender source destination _ => [source, destination, spender]
  | .mint _ _ destination _ => [destination]
  | .burn _ holder _ => [holder]
  | .admitTransfer _ source destination _ => [source, destination]
  | .recordConsumption .. | .assignMinter .. | .setChecks .. | .setPaused .. => []
  | .replaceWhitelist .. | .replaceLimiter .. | .recover .. | .deposit .. => []

theorem Movement.gated_command (movement : Movement) :
    movement.command.gated = movement.gated := by
  cases movement <;> rfl

namespace Checkpoint

/-! ## Access -/

section Access

variable {checkpoint : Checkpoint}

theorem members_of_checkAccess (asks : checkpoint.gate.switches.whitelistChecks = true)
    (enabled : checkpoint.whitelist.enabled = true) {accounts : List Address}
    (passed : checkpoint.checkAccess accounts = .ok ()) :
    ∀ account ∈ accounts, checkpoint.whitelist.isMember account = true := by
  intro account member
  have whitelisted := (checkAccess_eq_ok_iff.mp passed).2 asks account member
  simpa [Whitelist.isWhitelisted, enabled] using whitelisted

private theorem checkAccess_of_decision {now : Seconds} {operation : Operation} {charged : Position}
    {accounts : List Address} {amount : Amount} {check : Except Refusal Unit}
    (accepted : (checkpoint.decision now operation charged accounts amount check).answer =
      .ok ()) : checkpoint.checkAccess accounts = .ok () := by
  rw [decision, observed] at accepted
  exact Outcome.check_of_guarded accepted

private theorem checkAccess_of_movement {now : Seconds} (movement : Movement)
    (accepted : (checkpoint.perform now movement.command).answer = .ok ()) :
    checkpoint.checkAccess movement.gated = .ok () := by
  rw [perform_movement] at accepted
  rw [Outcome.guarded_of_ok accepted] at accepted
  exact checkAccess_of_decision (Outcome.first_of_andThen accepted)

private theorem checkAccess_of_perform {now : Seconds} {command : Gate.Command}
    (accepted : (checkpoint.perform now command).answer = .ok ())
    (gated : command.gated ≠ []) : checkpoint.checkAccess command.gated = .ok () := by
  cases command using Gate.Command.byMovement with
  | movement movement =>
      rw [movement.gated_command]
      exact checkAccess_of_movement movement accepted
  | admitTransfer => exact checkAccess_of_decision accepted
  | recordConsumption | assignMinter | setChecks | setPaused | replaceWhitelist
  | replaceLimiter | recover | deposit => exact absurd rfl gated

end Access

/-! ## Requests -/

namespace Request

def gated : Request → List Address
  | .execute (.gate command) => command.gated
  | _ => []

/-- It tells the gate not to ask the whitelist any more. -/
def dropsWhitelist : Request → Bool
  | .execute (.gate (.setChecks _ _ whitelistChecks)) => !whitelistChecks
  | _ => false

end Request

theorem Request.whitelistChecks_turned {switches : Switches}
    (asks : switches.whitelistChecks = true) {request : Request}
    (keeps : request.dropsWhitelist = false) :
    (request.turned switches).whitelistChecks = true := by
  cases request with
  | regrant => exact asks
  | execute command =>
      cases command with
      | whitelist | limiter => exact asks
      | gate command =>
          cases command with
          | setChecks caller limitChecks whitelistChecks =>
              cases whitelistChecks with
              | true => rfl
              | false => cases keeps
          | _ => exact asks

/-- A gate under its identity, with its book in order, that asks the whitelist. -/
structure Asking (identity : Address) (checkpoint : Checkpoint) : Prop where
  balanced : checkpoint.gate.ledger.Balanced
  same : checkpoint.ActsAs identity
  asks : checkpoint.gate.switches.whitelistChecks = true

private theorem asking_of_founded {identity admin : Address} {checkpoint : Checkpoint}
    (founded : Gate.founded identity admin = .ok checkpoint.gate) :
    checkpoint.Asking identity where
  balanced := balanced_of_founded founded
  same := (Gate.fields_of_founded founded).1
  asks := by
    rcases Gate.eq_of_founded founded with ⟨authority, same⟩
    rw [same]
    rfl

namespace Moment

variable {moment : Moment} {identity account : Address}

/-- What lets the call bring something to the account. -/
inductive Entitles (identity : Address) (moment : Moment) (account : Address) : Prop
  | member : moment.world.whitelist.isMember account = true → Entitles identity moment account
  | stray (asset : Address) (amount : Amount) :
      moment.call.command = .execute (.gate (.deposit asset amount)) → account = identity →
        Entitles identity moment account
  | recovery (caller asset : Address) (amount : Amount) :
      moment.call.command = .execute (.gate (.recover caller asset account amount)) →
        Entitles identity moment account

theorem asking_after (asking : moment.world.Asking identity)
    (keeps : moment.accepted = true → moment.call.command.dropsWhitelist = false) :
    moment.after.Asking identity := by
  have entered := entered_handle asking.balanced asking.same moment.call.now moment.call.command
  refine ⟨entered.balanced asking.balanced, (asking.same.keeps_handle ..).kept, ?_⟩
  apply switched_after (·.whitelistChecks = true) asking.asks
  exact fun accepted => Request.whitelistChecks_turned asking.asks (keeps accepted)

/-- Whom an accepted request concerns is a member. -/
theorem members_of_accepted (asking : moment.world.Asking identity)
    (enabled : moment.world.whitelist.enabled = true) (accepted : moment.accepted = true) :
    ∀ account ∈ moment.call.command.gated, moment.world.whitelist.isMember account = true := by
  rcases moment with ⟨checkpoint, now, request⟩
  have answer := accepted_iff.mp accepted
  intro account member
  cases request with
  | regrant => cases member
  | execute command =>
      cases command with
      | whitelist | limiter => cases member
      | gate command =>
          have passed := checkAccess_of_perform answer (List.ne_nil_of_mem member)
          exact members_of_checkAccess asking.asks enabled passed account member

private theorem entitles_of_posting {posting : Posting}
    (posted : moment.call.command.posting? identity = some posting)
    (reaches : posting.destination = some account)
    (members : ∀ account ∈ moment.call.command.gated,
      moment.world.whitelist.isMember account = true) : Entitles identity moment account := by
  rcases moment with ⟨checkpoint, now, request⟩
  cases request with
  | regrant => cases posted
  | execute command =>
      cases command with
      | whitelist | limiter => cases posted
      | gate command =>
          cases command with
          | transfer | transferFrom | mint =>
              cases posted
              cases reaches
              exact .member (members _ (by simp [Request.gated, Gate.Command.gated]))
          | recover caller asset destination amount =>
              cases posted
              cases reaches
              exact .recovery caller asset amount rfl
          | deposit asset amount =>
              cases posted
              cases reaches
              exact .stray asset amount rfl rfl
          | burn =>
              cases posted
              cases reaches
          | admitTransfer | recordConsumption | assignMinter | setChecks | setPaused
          | replaceWhitelist | replaceLimiter => cases posted

theorem entitles_of_lt (asking : moment.world.Asking identity)
    (enabled : moment.world.whitelist.enabled = true) {position : Position}
    (credited : moment.world.gate.ledger.balance position <
      moment.after.gate.ledger.balance position) :
    Entitles identity moment position.account := by
  have balance : (moment.after.gate.ledger.balance position).toNat +
        (if moment.accepted then moment.call.command.debit identity position else 0) =
      (moment.world.gate.ledger.balance position).toNat +
        (if moment.accepted then moment.call.command.credit identity position else 0) :=
    balance_handleAt asking.balanced asking.same moment.call position
  rw [Amount.lt_iff] at credited
  cases accepted : moment.accepted with
  | false =>
      rw [accepted] at balance
      exact absurd balance (by simp; omega)
  | true =>
      rw [accepted, if_pos rfl, if_pos rfl] at balance
      have received : 0 < moment.call.command.credit identity position := by omega
      rw [Request.credit] at received
      cases posted : moment.call.command.posting? identity with
      | none => simp [posted] at received
      | some posting =>
          have reaches : posting.destination = some position.account := by
            rw [posted, Option.elim_some, Posting.credit] at received
            by_contra elsewhere
            simp [elsewhere] at received
          exact entitles_of_posting posted reaches (members_of_accepted asking enabled accepted)

end Moment

/-! ## Runs -/

/-- The account holds nothing of any asset. -/
def HoldsNothing (account : Address) (checkpoint : Checkpoint) : Prop :=
  ∀ asset, checkpoint.gate.ledger.balance ⟨asset, account⟩ = .zero

theorem asking_met {start : Checkpoint} {identity admin : Address}
    (founded : Gate.founded identity admin = .ok start.gate) {calls : List (Timed Request)}
    (asked : ∀ moment ∈ start.past calls, moment.accepted = true →
      moment.call.command.dropsWhitelist = false) :
    ∀ moment ∈ start.past calls, moment.world.Asking identity :=
  (Run.met_of_step (Asking identity) (asking_of_founded founded) fun moment member asking =>
    Moment.asking_after asking (asked moment member)).1

/-- While a new gate asks the whitelists that are put in place, and they are not switched off,
an account that comes to hold something comes to it as a member, or it is the gate's own and
something strayed to it, or an administrator has sent it what had strayed. Nothing else adds
to what an account holds at any time. And whoever takes part in an accepted movement, or in a
transfer that is admitted, is a member at that time. -/
theorem held_by_members {start : Checkpoint} {identity admin : Address}
    (founded : Gate.founded identity admin = .ok start.gate) {calls : List (Timed Request)}
    (asked : ∀ moment ∈ start.past calls, moment.accepted = true →
      moment.call.command.dropsWhitelist = false)
    (enabled : ∀ moment ∈ start.past calls, moment.world.whitelist.enabled = true) :
    (∀ account, (∃ moment ∈ start.past calls, ¬moment.after.HoldsNothing account) →
        ∃ later moment earlier, start.past calls = later ++ moment :: earlier ∧
          (∀ met ∈ moment :: earlier, met.world.HoldsNothing account) ∧
          ¬moment.after.HoldsNothing account ∧ moment.Entitles identity account) ∧
      (∀ moment ∈ start.past calls, ∀ position : Position,
        moment.world.gate.ledger.balance position < moment.after.gate.ledger.balance position →
          moment.Entitles identity position.account) ∧
      (∀ moment ∈ start.past calls, moment.accepted = true →
        ∀ account ∈ moment.call.command.gated,
          moment.world.whitelist.isMember account = true) := by
  have asking := asking_met founded asked
  have entitled (moment : Moment) (member : moment ∈ start.past calls) (position : Position)
      (credited : moment.world.gate.ledger.balance position <
        moment.after.gate.ledger.balance position) :
      moment.Entitles identity position.account :=
    Moment.entitles_of_lt (asking moment member) (enabled moment member) credited
  refine ⟨?first, entitled, ?took_part⟩
  case first =>
    rintro account ⟨holding, member, held⟩
    have nothing : start.HoldsNothing account := by
      intro asset
      rw [(Gate.fields_of_founded founded).2]
      rfl
    rcases Run.always_or_first (HoldsNothing account) nothing calls with
      never | ⟨later, moment, earlier, split, before, broken⟩
    · exact absurd (never holding member) held
    · refine ⟨later, moment, earlier, split, before, broken, ?_⟩
      rcases Classical.not_forall.mp broken with ⟨asset, some⟩
      have here : moment ∈ start.past calls := by
        rw [past, split]
        exact List.mem_append_right later List.mem_cons_self
      apply entitled moment here ⟨asset, account⟩
      rw [before moment List.mem_cons_self asset]
      exact Amount.zero_lt some
  case took_part =>
    exact fun moment member =>
      Moment.members_of_accepted (asking moment member) (enabled moment member)

end Checkpoint

namespace Sample

/-- Something is minted for one member, who passes a part of it on to another. -/
def memberCalls : List (Timed Checkpoint.Request) :=
  [⟨1000, .execute (.gate (.assignMinter admin admin true))⟩,
    ⟨1000, .execute (.gate (.mint admin asset payer (.ofNat 10)))⟩,
    ⟨1060, .execute (.gate (.transfer asset payer payee (.ofNat 4)))⟩]

theorem asked : ∀ moment ∈ newCheckpoint.past memberCalls, moment.accepted = true →
    moment.call.command.dropsWhitelist = false := by
  have keeps : ∀ call ∈ memberCalls, call.command.dropsWhitelist = false := by decide
  exact fun moment member _ => keeps moment.call (Run.call_mem_of_mem_past member)

theorem enabled : ∀ moment ∈ newCheckpoint.past memberCalls,
    moment.world.whitelist.enabled = true := by
  decide

end Sample

theorem Checkpoint.held_by_members_sample :
    ∃ later moment earlier,
      Sample.newCheckpoint.past Sample.memberCalls = later ++ moment :: earlier ∧
        ¬moment.after.HoldsNothing Sample.payee ∧
          moment.Entitles Sample.identity Sample.payee := by
  have holding : ∃ moment ∈ Sample.newCheckpoint.past Sample.memberCalls,
      ¬moment.after.HoldsNothing Sample.payee := by
    refine ⟨_, List.mem_cons_self, fun nothing => ?_⟩
    exact absurd (nothing Sample.asset) (by decide)
  rcases (held_by_members Sample.founded Sample.asked Sample.enabled).1 Sample.payee holding with
    ⟨later, moment, earlier, split, _, held, entitled⟩
  exact ⟨later, moment, earlier, split, held, entitled⟩

end Turnstile
