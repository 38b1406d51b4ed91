import Xaytune.Storage.Governance
import Xaytune.Storage.Legality.Execution

/-!
# Governed actions as writes

A governed action is no cancellation, so it may move as its status allows; the
binding of a recovery decision is written with the action it binds.
-/

namespace Xaytune.Storage

open Xaytune.Core Xaytune.Library

section Governing

variable {L : Licence} {db : Db} {destinations : List String}

theorem Legal.governedAction {d : Debt} {post : GovernedAction → Debt → Db → Prop}
    {actionId : String} (holds : ∀ governed, post governed d db) :
    Legal L (governedAction actionId) d db post := by
  unfold Storage.governedAction
  exact Legal.load fun _ _ => .value (holds _)

/-- A bound proposal only reads until it binds its action. -/
structure BoundLegal (L : Licence) (bound : BoundRecoveryProposal) : Prop where
  replay : ∀ (db : Db) (post : Option GovernedAction → Debt → Db → Prop),
    (∀ governed, post governed [] db) → Legal L bound.replay [] db post
  requireCurrent : ∀ (db : Db) (post : Unit → Debt → Db → Prop),
    post () [] db → Legal L bound.requireCurrent [] db post
  insert : ∀ (d : Debt) (db : Db) (action : Action) (post : Unit → Debt → Db → Prop),
    db.actions.find? bound.actionId = some action → action.type = bound.spec.type →
      action.target = bound.spec.target →
      (∀ db', db'.actions = db.actions → post () d db') → Legal L bound.insert d db post

/-- The recorded action, where no binding was replayed. -/
def recordedGoverned (bound : Option BoundRecoveryProposal) (action : Action) :
    Option GovernedAction → Repo (Option GovernedAction)
  | some governed => pure (some governed)
  | none => do
      let existing ← getRow Action action.id
      match existing with
      | none => pure none
      | some existing => do
          assertSameAction existing action
          Transaction.require bound.isNone
            (.idempotencyConflict action.id ["recovery binding"] "Action")
          let governed ← Transaction.read fun db => db.governed existing
          pure (some governed)

theorem Legal.replayGoverned {post : Option GovernedAction → Debt → Db → Prop}
    {bound : Option BoundRecoveryProposal} {action : Action}
    (legal : ∀ proposal, bound = some proposal → BoundLegal L proposal)
    (holds : ∀ governed, post governed [] db) :
    Legal L (replayGoverned bound action) [] db post := by
  have recorded : ∀ replayed : Option GovernedAction,
      Legal L (recordedGoverned bound action replayed) [] db post := by
    intro replayed
    cases replayed with
    | some governed => exact .pure (holds _)
    | none =>
        unfold recordedGoverned
        refine Legal.get ?_
        split
        · exact .pure (holds _)
        · unfold assertSameAction
          exact .require fun _ => .require fun _ => .read (.pure (holds _))
  unfold Storage.replayGoverned
  cases bound with
  | none => exact .next (recorded none)
  | some proposal => exact .bind ((legal proposal rfl).replay db _ recorded)

/-- What a verdict is journalled under tells no answer and no execution. -/
theorem verdictEvent_tells (validated : Action) (verdict : PolicyVerdict) (engine : Actor) :
    MoveTells validated (verdictStatus verdict) (verdictEvent verdict) engine := by
  cases verdict with
  | allow => exact .quiet (by decide) (by decide)
  | deny => exact .reject
  | requireApproval => exact .quiet (by decide) (by decide)

theorem Legal.governAction {post : GovernedAction → Debt → Db → Prop} {validated : Action}
    {proposal : PolicyProposal} {decisionId : String} {capabilities : Document}
    (found : db.actions.find? validated.id = some validated)
    (governed : validated.isCancellation = false) (holds : ∀ governed db', post governed [] db') :
    Legal L (governAction validated proposal decisionId capabilities destinations) [] db post := by
  unfold Storage.governAction insertPolicyDecision
  refine .bind (.read (.require fun first => .bind (Legal.requireReference fun _ => ?_)))
  have unjudged : db.decisionForAction validated.id = none := by simpa using first
  refine Legal.insertAux
    (fun table inserted => .policyDecision _ table inserted unjudged ⟨validated, found, governed⟩)
    fun _ => .expect fun moved copied => ?_
  have moves := action_governedBy_moves copied
  have status : moved.status = verdictStatus proposal.verdict := by
    unfold Action.governedBy at copied
    split at copied
    · cases copied
      rfl
    · cases copied
  refine Legal.moveAction found moves List.not_mem_nil ?_ ?_ ?_ (.pure (holds _ _))
  · intro cancels
    rw [governed] at cancels
    cases cancels
  · -- a verdict never begins the action
    intro begins
    rw [status] at begins
    cases verdict : proposal.verdict <;> rw [verdict] at begins <;> cases begins
  · refine ⟨rfl, rfl, rfl, rfl, ?_⟩
    rw [status]
    exact verdictEvent_tells validated proposal.verdict _

/-- A governed action moves and is stored as moved. -/
theorem Legal.settleGoverned {post : Action → Debt → Db → Prop} {action : Action}
    {newStatus : ActionStatus} {eventType : String} {actor : Actor} {extra : EventExtra}
    (found : db.actions.find? action.id = some action) (governed : action.isCancellation = false)
    (idle : newStatus ≠ .executing) (tells : MoveTells action newStatus eventType actor)
    (plain : isPlain extra = true)
    (holds : ∀ moved db', db'.actions.find? moved.id = some moved →
      moved.isCancellation = false → post moved [] db') :
    Legal L (Storage.settleAction action newStatus none eventType actor destinations extra) [] db
      post := by
  refine Legal.settleAction found List.not_mem_nil ?_ (fun begins => absurd begins idle) tells plain
    ?_
  · intro _ _ cancels
    rw [governed] at cancels
    cases cancels
  · intro moved events outbox copied
    obtain ⟨_, rfl⟩ := action_withStatus_moves copied
    exact holds _ _ (Table.find?_replace_self found) governed

theorem Legal.judgeProposed {request : ActionRequest} (judgement : Judgement) (decisionId : String)
    (problems : List String) (stored : db.actions.find? request.actionId = some request.action)
    (governed : request.action.isCancellation = false) :
    Legal L (judgeProposed request judgement decisionId destinations problems)
      [.event ⟨.action, request.actionId⟩] db fun _ d _ => d = [] := by
  refine .bind (Legal.emit [] stored (typed_of_action (by decide)) rfl paid_head sub_head ?_)
  refine .bind (Legal.settleGoverned stored governed (by decide)
    (.quiet (by decide) (by decide)) rfl fun validating db₁ stored₁ gov₁ => ?_)
  refine .ite (fun _ => ?_) fun _ => .require fun _ => ?_
  · exact .bind (Legal.settleGoverned stored₁ gov₁ (by decide) .reject rfl
      fun _ _ _ _ => .pure rfl)
  · refine .bind (Legal.settleGoverned stored₁ gov₁ (by decide)
      (.quiet (by decide) (by decide)) rfl fun validated db₂ stored₂ gov₂ => ?_)
    exact Legal.governAction stored₂ gov₂ fun _ _ => rfl

theorem Legal.recordProposed {request : ActionRequest} (judgement : Judgement)
    (decisionId : String) {bound : Option BoundRecoveryProposal}
    (agrees : bound.all (fun bound => bound.actionId = request.action.id &&
      bound.spec = request.spec) = true)
    (legal : ∀ proposal, bound = some proposal → BoundLegal L proposal)
    (governed : request.action.isCancellation = false) :
    Legal L (recordProposed checks request judgement decisionId destinations bound) [] db
      fun _ d _ => d = [] := by
  unfold Storage.recordProposed insertAction
  refine Legal.load fun experiment _ => .read (.require fun _ => .read ?_)
  refine .bind (.require fun _ => .bind (Legal.requireReference fun _ => ?_))
  refine Legal.insertRow fun table insertedRow => ⟨_,
    .insertAction request.action table insertedRow ⟨rfl, rfl, ?_, ?_, ?_⟩, ?_⟩
  · intro isChild
    cases isChild
  · intro type
    rw [Action.isCancellation, type] at governed
    cases governed
  · intro type
    rw [Action.isCancellation, type] at governed
    cases governed
  · have nothing : actionDebt request.action = [] := by
      rw [actionDebt, if_neg (by rw [governed]; exact Bool.false_ne_true)]
    have stored : table.find? request.actionId = some request.action :=
      Table.find?_insert?_self insertedRow
    rw [nothing]
    cases bound with
    | none => exact .next (Legal.judgeProposed _ _ _ stored governed)
    | some proposal =>
        simp only [Option.all_some, Bool.and_eq_true, decide_eq_true_eq] at agrees
        obtain ⟨sameId, sameSpec⟩ := agrees
        refine .bind ((legal proposal rfl).insert _ _ request.action _ ?_ ?_ ?_ ?_)
        · rw [sameId]
          exact stored
        · rw [sameSpec]
          rfl
        · rw [sameSpec]
          rfl
        · intro db' sameActions
          exact Legal.judgeProposed _ _ _ (sameActions ▸ stored) governed

theorem proposeAction_closed (checks : Checks) (request : ActionRequest) (judgement : Judgement)
    (decisionId : String) (bound : Option BoundRecoveryProposal)
    (legal : ∀ proposal, bound = some proposal → BoundLegal L proposal) :
    Closed L (proposeAction checks request judgement decisionId destinations bound) db := by
  unfold Closed proposeAction
  refine .require fun notCancellation => .require fun agrees => ?_
  have governed : request.action.isCancellation = false := by simpa using notCancellation
  refine .bind (Legal.replayGoverned legal fun replayed => ?_)
  cases replayed with
  | some _ => exact .pure rfl
  | none =>
      have inserted : Legal L
          (recordProposed checks request judgement decisionId destinations bound) [] db
            fun _ d _ => d = [] :=
        Legal.recordProposed judgement decisionId agrees legal governed
      cases bound with
      | none => exact .next inserted
      | some proposal => exact .bind ((legal proposal rfl).requireCurrent db _ inserted)

/-- The two answers a human gives. -/
def Answers (newStatus : ActionStatus) (eventType : String) : Prop :=
  (newStatus = .approved ∧ eventType = "ActionApproved") ∨
    (newStatus = .rejected ∧ eventType = "ActionApprovalDenied")

theorem Answers.tells {newStatus : ActionStatus} {eventType : String} {action : Action}
    {approver : Actor} (answers : Answers newStatus eventType)
    (pending : action.status = .approvalPending) (human : approver.type = "human") :
    MoveTells action newStatus eventType approver ∧ newStatus ≠ .executing := by
  rcases answers with ⟨rfl, rfl⟩ | ⟨rfl, rfl⟩
  · refine ⟨?_, by decide⟩
    constructor <;> simp [human]
  · refine ⟨?_, by decide⟩
    constructor <;> simp [pending]

theorem resolveApproval_closed (actionId : String) (approver : Actor) (reason : String)
    (newStatus : ActionStatus) (eventType : String) (answers : Answers newStatus eventType) :
    Closed L (resolveApproval actionId approver reason newStatus eventType destinations) db := by
  unfold Closed resolveApproval
  refine .assume fun sound => .require fun human => .require fun _ => ?_
  refine Legal.load fun (action : Action) (found : db.actions.find? actionId = some action) => ?_
  refine .ite (fun pending => ?_) fun _ => .read (.expect fun _ _ => .require fun _ => .pure rfl)
  have stored : db.actions.find? action.id = some action :=
    Table.find?_of_mem (Table.mem_of_find? found)
  obtain ⟨tells, idle⟩ : MoveTells action newStatus eventType approver ∧ newStatus ≠ .executing :=
    answers.tells pending (of_decide_eq_true human)
  refine Legal.settleGoverned stored ?_ idle tells rfl fun _ _ _ _ => rfl
  -- a cancellation is executing or ended, never awaiting approval
  by_contra cancels
  rcases sound.cancellations _ action stored (by simpa using cancels) with owed | executing | ended
  · cases owed
  · rw [pending] at executing
    cases executing
  · rw [Action.isTerminal, pending] at ended
    cases ended

end Governing

end Xaytune.Storage
