import Xaytune.Storage.Legality.Execution

/-!
# Cancellation as writes

A cancellation is opened in one commit: proposed, executing, and either settled
against a target that has ended or left with the operation it causes. Settling one
recorded earlier needs the licence. The last commit of a saga ends every run,
evaluation run and node of its experiment.
-/

namespace Xaytune.Storage

open Xaytune.Core Xaytune.Library

/-! ## Opening -/

section Opening

variable {L : Licence} {d : Debt} {db : Db} {actor : Actor} {destinations : List String}

/-- No event of an action is owed. -/
def ActionsNoted (d : Debt) : Prop := ∀ id, .event ⟨.action, id⟩ ∉ d

theorem ActionsNoted.cons_opening (noted : ActionsNoted d) (id : String) :
    ActionsNoted (.opening id :: d) := by
  intro other due
  rcases List.mem_cons.mp due with here | due
  · cases here
  · exact noted other due

theorem opensTrue_of_live {moved : Action} (live : moved.isTerminal = false) :
    OpensTrue db moved := by
  intro _ ended
  rw [live] at ended
  cases ended

/-- What a moved action keeps, and the status it was moved to. -/
structure MovedTo (old moved : Action) (status : ActionStatus) : Prop where
  id : moved.id = old.id
  type : moved.type = old.type
  target : moved.target = old.target
  status : moved.status = status

theorem MovedTo.of_withStatus {old moved : Action} {status : ActionStatus}
    {outcome : Option ActionOutcome} (copied : old.withStatus status outcome = some moved) :
    MovedTo old moved status := by
  obtain ⟨_, rfl⟩ := action_withStatus_moves copied
  exact ⟨rfl, rfl, rfl, rfl⟩

theorem MovedTo.trans {first second third : Action} {status status' : ActionStatus}
    (one : MovedTo first second status) (two : MovedTo second third status') :
    MovedTo first third status' :=
  ⟨two.id.trans one.id, two.type.trans one.type, two.target.trans one.target, two.status⟩

theorem MovedTo.isCancellation {old moved : Action} {status : ActionStatus}
    (moves : MovedTo old moved status) (cancels : old.isCancellation = true) :
    moved.isCancellation = true := by
  rw [Action.isCancellation, moves.type]
  exact cancels

/-- A cancellation is begun without a decision. -/
theorem not_governed {action : Action} {newStatus : ActionStatus} {authorized : Prop}
    (cancels : action.isCancellation = true) :
    newStatus = .executing → action.isCancellation = false → authorized := by
  intro _ governed
  rw [cancels] at governed
  cases governed

theorem cancellationEvent_tells (action : Action) (status : ActionStatus)
    (outcome : Option ActionOutcome) (actor : Actor)
    (ends : status ≠ .approved ∧ status ≠ .executing) :
    MoveTells action status (cancellationEvent outcome) actor := by
  refine .quiet ?_ ends
  rcases outcome with _ | outcome
  · decide
  · cases outcome <;> decide

/-- A step of a cancellation that is still being opened. -/
theorem Legal.advanceCancellation {post : Action → Debt → Db → Prop} {action : Action}
    {newStatus : ActionStatus} {eventType : String}
    (found : db.actions.find? action.id = some action)
    (noted : ActionsNoted d) (opening : .opening action.id ∈ d)
    (live : actionMachine.isTerminal newStatus = false)
    (cancels : action.isCancellation = true) (tells : MoveTells action newStatus eventType actor)
    (holds : ∀ moved actions events outbox, MovedTo action moved newStatus →
      actions.find? moved.id = some moved →
      (∀ id, id ≠ action.id → actions.find? id = db.actions.find? id) →
        post moved d (db.setActed actions events outbox)) :
    Legal L (Storage.settleAction action newStatus none eventType actor destinations) d db
      post := by
  refine Legal.settleAction found (noted _) ?_ (not_governed cancels) tells rfl ?_
  · intro moved copied _
    have moves := MovedTo.of_withStatus copied
    refine .inl ⟨opening, opensTrue_of_live ?_⟩
    rw [Action.isTerminal, moves.status]
    exact live
  · intro moved events outbox copied
    have moves := MovedTo.of_withStatus copied
    refine holds moved _ events outbox moves ?_ fun id other => Table.find?_replace_of_ne ?_
    · exact Table.find?_replace_self (moves.id ▸ found)
    · exact moves.id ▸ other

theorem Db.setActed_setActed {actions actions' : Table Action.id}
    {events events' : List DomainEvent} {outbox outbox' : List OutboxRecord} :
    (db.setActed actions events outbox).setActed actions' events' outbox' =
      db.setActed actions' events' outbox' := rfl

theorem Db.record_setTable {actions : Table Action.id} {event : DomainEvent} :
    (Stored.setTable (α := Action) actions db).record event destinations =
      db.setActed actions (db.events ++ [event]) ((db.record event destinations).outbox) := rfl

theorem Legal.startCancellation {post : Action → Debt → Db → Prop} {checks : Checks}
    {proposed : Action} (new : NewAction db proposed) (cancels : proposed.isCancellation = true)
    (noted : ActionsNoted d)
    (holds : ∀ executing actions events outbox, MovedTo proposed executing .executing →
      actions.find? executing.id = some executing → db.actions.find? proposed.id = none →
      (∀ id, id ≠ proposed.id → actions.find? id = db.actions.find? id) →
        post executing (.opening proposed.id :: d) (db.setActed actions events outbox)) :
    Legal L (startCancellation checks proposed actor destinations) d db post := by
  unfold Storage.startCancellation insertAction
  refine .bind (.require fun _ => .bind (Legal.requireReference fun _ => ?_))
  refine Legal.insertRow fun table inserted => ⟨_, .insertAction proposed table inserted new, ?_⟩
  have stored : table.find? proposed.id = some proposed := Table.find?_insert?_self inserted
  have opens : actionDebt proposed = [.opening proposed.id] := by rw [actionDebt, if_pos cancels]
  rw [opens]
  refine .bind (Legal.emit (.opening proposed.id :: d) stored (typed_of_action (by decide)) rfl
    paid_head sub_head ?_)
  rw [Db.record_setTable]
  have noted' := noted.cons_opening proposed.id
  refine .bind (Legal.advanceCancellation stored noted' List.mem_cons_self rfl cancels
    (.quiet (by decide) (by decide)) ?_)
  intro validating actions₁ _ _ to₁ stored₁ others₁
  rw [Db.setActed_setActed]
  refine .bind (Legal.advanceCancellation stored₁ noted' (to₁.id ▸ List.mem_cons_self) rfl
    (to₁.isCancellation cancels) (.quiet (by decide) (by decide)) ?_)
  intro validated actions₂ _ _ to₂ stored₂ others₂
  rw [Db.setActed_setActed]
  have sameId : validated.id = proposed.id := to₂.id.trans to₁.id
  refine Legal.advanceCancellation stored₂ noted' (sameId ▸ List.mem_cons_self) rfl
    ((to₁.trans to₂).isCancellation cancels) .execute ?_
  intro executing actions₃ _ _ to₃ stored₃ others₃
  rw [Db.setActed_setActed]
  refine holds executing actions₃ _ _ ((to₁.trans to₂).trans to₃) stored₃
    (Table.find?_fresh inserted) ?_
  intro id other
  calc actions₃.find? id
      _ = actions₂.find? id := others₃ id (sameId ▸ other)
      _ = actions₁.find? id := others₂ id (to₁.id ▸ other)
      _ = table.find? id := others₁ id other
      _ = db.actions.find? id := Table.find?_insert?_of_ne inserted other

/-- An opened cancellation that is executing or ended is opened. -/
theorem opening_paid {id : String} {action : Action} (found : db.actions.find? id = some action)
    (opened : action.status = .executing ∨ action.isTerminal = true) :
    ∀ owed ∈ (.opening id :: d), owed ∈ d ∨ Paid db owed := by
  intro owed due
  rcases List.mem_cons.mp due with rfl | due
  · refine .inr ?_
    intro other otherFound
    have isOther : action = other := Option.some.inj (found.symm.trans otherFound)
    exact isOther ▸ opened
  · exact .inl due

theorem hasAttempt_of_state {target : ActionTarget} {state : TargetState}
    (ok : db.targetState? target = .ok state) : db.hasAttempt target.kind target.id := by
  unfold Db.targetState? at ok
  unfold Db.hasAttempt
  cases kind : target.kind with
  | trainingAttempt | evaluationAttempt =>
      rw [kind] at ok
      simp only at ok
      split at ok
      · cases ok
      · exact ⟨_, ‹_›⟩
  | experiment | node | run | evaluationRun =>
      rw [kind] at ok
      cases ok

theorem Legal.targetState {post : TargetState → Debt → Db → Prop} {target : ActionTarget}
    (holds : ∀ state, db.targetState? target = .ok state → post state d db) :
    Legal L (targetState target) d db post := by
  unfold Storage.targetState
  refine .read ?_
  split
  · exact .refuse
  · exact .pure (holds _ ‹_›)

/-- One attempt's cancellation, opened with what it causes. -/
theorem Legal.recordCancellation {post : Action × Option RuntimeOperation → Debt → Db → Prop}
    {checks : Checks} {proposed : Action} {target : RuntimeOperationTarget}
    {operationId requestDigest experimentId : String} (pristine : proposed.revision = 0)
    (isProposed : proposed.status = .proposed) (type : proposed.type = "cancel-attempt")
    (sameTarget : proposed.target = ⟨target.kind.toActionTargetKind, target.id⟩)
    (noted : ActionsNoted d)
    (holds : ∀ recorded db', (∀ id, db.actions.find? id ≠ none →
      db'.actions.find? id = db.actions.find? id) → post recorded d db') :
    Legal L (recordCancellation checks proposed target operationId requestDigest experimentId actor
      destinations) d db post := by
  unfold Storage.recordCancellation
  refine .bind (Legal.targetState fun state isState => ?_)
  have hasTarget := hasAttempt_of_state isState
  have cancels : proposed.isCancellation = true := by
    rw [Action.isCancellation, type]
    decide
  have new : NewAction db proposed := by
    refine ⟨pristine, isProposed, fun _ => type, fun _ => hasTarget, fun saga => ?_⟩
    rw [type] at saga
    exact absurd saga (by decide)
  refine .bind (Legal.startCancellation new cancels noted ?_)
  intro executing actions events outbox opened stored fresh others
  have noted' := noted.cons_opening proposed.id
  have kept : ∀ actions' : Table Action.id,
      (∀ id, id ≠ proposed.id → actions'.find? id = actions.find? id) →
      ∀ id, db.actions.find? id ≠ none → actions'.find? id = db.actions.find? id := by
    intro actions' others' id present
    have other : id ≠ proposed.id := by
      rintro rfl
      exact present fresh
    rw [others' id other, others id other]
  cases ended : state.terminalOutcome with
  | some outcome =>
      refine .bind (Legal.thenPay (Legal.settleAction stored (noted' _) ?_
        (not_governed (opened.isCancellation cancels)) (cancellationEvent_tells _ _ _ _ (by decide))
        rfl ?_))
      · intro moved copied _
        refine .inl ⟨opened.id ▸ List.mem_cons_self, fun _ _ => ?_⟩
        obtain ⟨_, rfl⟩ := action_withStatus_moves copied
        refine ⟨state, ?_, rfl, ended.symm, rfl⟩
        rw [← isState, ← opened.target]
        rfl
      · intro moved events' outbox' copied
        have moves := MovedTo.of_withStatus copied
        have sameId : moved.id = proposed.id := moves.id.trans opened.id
        have movedStored : (actions.replace moved).find? moved.id = some moved :=
          Table.find?_replace_self (moves.id ▸ stored)
        refine ⟨d, opening_paid (sameId ▸ movedStored) (.inr ?_), sub_head, .pure (holds _ _ ?_)⟩
        · rw [Action.isTerminal, moves.status]
          rfl
        · exact kept _ fun id other => Table.find?_replace_of_ne (sameId ▸ other)
  | none =>
      refine .bind (Legal.insertOperation rfl rfl ?_ ?_ ?_)
      · rw [sameTarget] at hasTarget
        exact hasTarget
      · rintro actionId action ⟨rfl⟩ _ _
        exact opened.id ▸ List.mem_cons_self
      · intro operation operations due isDue opFound
        refine .bind (Legal.note stored (typed_of_action (by decide)) rfl ?_)
        refine .bind (Legal.emitOperation isDue opFound ?_)
        refine Legal.pay d (opening_paid (opened.id ▸ stored) (.inl opened.status)) sub_head ?_
        exact .pure (holds _ _ (kept _ fun _ _ => rfl))

theorem Legal.replayCancellation
    {post : Option (Action × Option RuntimeOperation) → Debt → Db → Prop}
    {candidate : Action} {operationId : String} (holds : ∀ replayed, post replayed d db) :
    Legal L (replayCancellation candidate operationId) d db post := by
  unfold Storage.replayCancellation assertSameAction
  refine Legal.get (Legal.get ?_)
  split
  · exact .pure (holds _)
  · exact .refuse
  · exact .require fun _ => .read (.require fun _ => .pure (holds _))
  · exact .require fun _ => .require fun _ => .pure (holds _)

/-- An attempt's cancellation as it was recorded, or recorded now. -/
def openCancellation (checks : Checks) (proposed : Action) (attempt : RuntimeOperationTarget)
    (operationId requestDigest experimentId : String) (actor : Actor)
    (destinations : List String) : Repo (Action × Option RuntimeOperation) := do
  let replayed ← replayCancellation proposed operationId
  match replayed with
  | some replayed => do
      Transaction.require
        (replayed.2.all fun operation => operation.requestDigest = requestDigest)
        (.idempotencyConflict operationId ["request_digest"] "operation")
      pure replayed
  | none =>
      recordCancellation checks proposed attempt operationId requestDigest experimentId actor
        destinations

theorem requestCancellation_closed (checks : Checks) (target : ActionTarget) (reason : String)
    (requestDigest actionId operationId : String) :
    Closed L (requestCancellation checks target reason actor requestDigest actionId operationId
      destinations) db := by
  unfold Closed requestCancellation
  refine .expect fun kind _ => ?_
  have opens : ∀ experimentId, Legal L (openCancellation checks
      (cancelAttemptAction actionId experimentId ⟨kind, target.id⟩ actor reason) ⟨kind, target.id⟩
      operationId requestDigest experimentId actor destinations) [] db fun _ d _ => d = [] := by
    intro experimentId
    unfold openCancellation
    refine .bind (Legal.replayCancellation fun replayed => ?_)
    split
    · exact .require fun _ => .pure rfl
    · exact Legal.recordCancellation rfl rfl rfl rfl (fun _ => List.not_mem_nil) fun _ _ _ => rfl
  exact .bind (Legal.experimentOfAttempt (fun _ _ _ _ _ => opens _) fun _ _ _ _ _ => opens _)

theorem requestExperimentCancellation_closed (checks : Checks)
    (experimentId reason actionId : String)
    (named : Bool) (ids : RuntimeOperationTarget → ChildIds) :
    Closed L (requestExperimentCancellation checks experimentId reason actor actionId named ids
      destinations) db := by
  unfold Closed requestExperimentCancellation
  refine Legal.get (.expect fun (experiment : Experiment)
    (found : db.experiments.find? experimentId = some experiment) => Legal.get ?_)
  have stored : db.experiments.find? experiment.id = some experiment :=
    Table.find?_of_mem (Table.mem_of_find? found)
  split
  · unfold assertSameAction
    exact .require fun _ => .pure rfl
  · refine .read ?_
    split
    · exact .require fun _ => .pure rfl
    · have type : (cancelExperimentAction actionId experiment actor reason).type =
          "cancel-experiment" := rfl
      have new : NewAction db (cancelExperimentAction actionId experiment actor reason) := by
        refine ⟨rfl, rfl, fun isChild => ?_, fun other => ?_, fun _ => ⟨experiment, stored⟩⟩
        · cases isChild
        · exact absurd (type.symm.trans other) (by decide)
      refine .bind (Legal.startCancellation new rfl (fun _ => List.not_mem_nil) ?_)
      intro executing actions events outbox opened executingStored _ _
      have openId : executing.id = actionId := opened.id
      refine .ite (fun _ => ?_) fun _ => .read (.bind ?_)
      · refine Legal.thenPay (Legal.settleAction executingStored (by simp) ?_
          (not_governed (opened.isCancellation rfl)) (cancellationEvent_tells _ _ _ _ (by decide))
          rfl ?_)
        · intro moved copied _
          have moves := MovedTo.of_withStatus copied
          refine .inl ⟨opened.id ▸ List.mem_cons_self, fun other _ => ?_⟩
          exact absurd (type.symm.trans ((opened.trans moves).type.symm.trans other)) (by decide)
        · intro moved _ _ copied
          have moves := MovedTo.of_withStatus copied
          have sameId : moved.id = actionId := (opened.trans moves).id
          have movedStored : (actions.replace moved).find? actionId = some moved :=
            sameId ▸ Table.find?_replace_self (moves.id ▸ executingStored)
          refine ⟨[], opening_paid movedStored (.inr ?_), sub_head, rfl⟩
          rw [Action.isTerminal, moves.status]
          rfl
      · refine .forEach (fun _ d db' => d = [.opening actionId] ∧
          db'.actions.find? executing.id = some executing) ⟨rfl, executingStored⟩ ?_ ?_
        · rintro target _ _ db' ⟨rfl, stillStored⟩
          unfold recordChild
          refine .bind (Legal.recordCancellation rfl rfl rfl rfl (by simp [ActionsNoted]) ?_)
          intro _ _ kept
          refine .pure ⟨rfl, ?_⟩
          rw [kept _ (by rw [stillStored]; exact Option.some_ne_none _)]
          exact stillStored
        · rintro _ db' ⟨rfl, stillStored⟩
          refine .bind (Legal.note stillStored (typed_of_action (by decide)) rfl ?_)
          exact Legal.pay [] (opening_paid (openId ▸ stillStored) (.inl opened.status)) sub_head
            (.pure rfl)

end Opening

end Xaytune.Storage
