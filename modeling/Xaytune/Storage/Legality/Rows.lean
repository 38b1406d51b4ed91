import Xaytune.Storage.Accounting

/-!
# Rows inserted and moved

The rules for writing one row of each kind, and for the methods that return the
copy that is written.
-/

namespace Xaytune.Storage

open Xaytune.Core Xaytune.Library

/-! ## Copies -/

theorem experiment_withStatus_moves {old new : Experiment} {status : ExperimentStatus}
    (copied : old.withStatus status = some new) :
    ExperimentMoves old new ∧ new.status = status := by
  unfold Experiment.withStatus at copied
  split at copied
  · cases copied
    exact ⟨⟨status, old.bestNodeId, ‹_›, rfl⟩, rfl⟩
  · cases copied

theorem experiment_succeededWith_moves {old new : Experiment} {nodeId : String}
    (copied : old.succeededWith nodeId = some new) : ExperimentMoves old new := by
  obtain ⟨moved, isMoved, rfl⟩ := Option.map_eq_some_iff.mp copied
  obtain ⟨⟨status, _, permitted, rfl⟩, _⟩ := experiment_withStatus_moves isMoved
  exact ⟨status, some nodeId, permitted, rfl⟩

theorem node_withStatus_eq {old new : ExperimentNode} {status : ExperimentNodeStatus}
    (copied : old.withStatus status = some new) :
    nodeMachine.can old.status status = true ∧
      new = { old with
        status := status
        revision := old.revision + 1
        evaluationCycle :=
          if status = .evaluating then old.evaluationCycle + 1 else old.evaluationCycle } := by
  unfold ExperimentNode.withStatus at copied
  by_cases permitted : nodeMachine.can old.status status = true
  · rw [if_pos permitted, Option.some.injEq] at copied
    exact ⟨permitted, copied.symm⟩
  · rw [if_neg permitted] at copied
    cases copied

theorem node_withStatus_moves {old new : ExperimentNode} {status : ExperimentNodeStatus}
    (copied : old.withStatus status = some new) : NodeMoves old new ∧ new.status = status := by
  obtain ⟨permitted, rfl⟩ := node_withStatus_eq copied
  exact ⟨⟨status, _, old.decisionIds, permitted, rfl⟩, rfl⟩

/-- A change of status starts a cycle if it is to `EVALUATING`, and names no decision. -/
theorem node_withStatus_advances {L : Licence} {d : Debt} {db : Db} {old new : ExperimentNode}
    {status : ExperimentNodeStatus} (copied : old.withStatus status = some new)
    (deciding : status = .deciding → L.skips ∨ (d = [] ∧ CycleEnded db old)) :
    NodeAdvances L d db old new ∧ nodeDebt old new = [] := by
  obtain ⟨_, rfl⟩ := node_withStatus_eq copied
  exact ⟨⟨rfl, .inl rfl, deciding⟩, by simp [nodeDebt]⟩

/-- A decision closes a node in `DECIDING`, and is owed by it. -/
theorem node_withDecision_advances {L : Licence} {d : Debt} {db : Db} {old new : ExperimentNode}
    {decisionId : String} {status : ExperimentNodeStatus}
    (ends : nodeMachine.isTerminal status = true)
    (copied : old.withDecision decisionId status = some new) :
    NodeAdvances L d db old new ∧ nodeDebt old new = [.decision new.id decisionId] ∧
      new.evaluationCycle = old.evaluationCycle := by
  have notEvaluating : status ≠ .evaluating := by
    rintro rfl
    cases ends
  have notDeciding : status ≠ .deciding := by
    rintro rfl
    cases ends
  unfold ExperimentNode.withDecision at copied
  split at copied
  · rename_i isDeciding
    obtain ⟨moved, isMoved, rfl⟩ := Option.map_eq_some_iff.mp copied
    obtain ⟨_, rfl⟩ := node_withStatus_eq isMoved
    refine ⟨⟨rfl, .inr ⟨isDeciding, ends, decisionId, rfl⟩, ?_⟩, ?_, if_neg notEvaluating⟩
    · exact fun again => absurd again notDeciding
    · simp [nodeDebt]
  · cases copied

theorem node_withDecision_moves {old new : ExperimentNode} {decisionId : String}
    {status : ExperimentNodeStatus} (copied : old.withDecision decisionId status = some new) :
    NodeMoves old new := by
  unfold ExperimentNode.withDecision at copied
  split at copied
  · obtain ⟨moved, isMoved, rfl⟩ := Option.map_eq_some_iff.mp copied
    obtain ⟨⟨status, cycle, _, permitted, rfl⟩, _⟩ := node_withStatus_moves isMoved
    exact ⟨status, cycle, _, permitted, rfl⟩
  · cases copied

theorem run_withStatus_moves {old new : Run} {status : RunStatus}
    (copied : old.withStatus status = some new) : RunMoves old new ∧ new.status = status := by
  unfold Run.withStatus at copied
  split at copied
  · cases copied
    exact ⟨⟨status, ‹_›, rfl⟩, rfl⟩
  · cases copied

theorem attempt_withStatus_moves {old new : RunAttempt} {status : RunAttemptStatus}
    (copied : old.withStatus status = some new) :
    AttemptMoves old new ∧ new.status = status ∧ old.isTerminal = false := by
  unfold RunAttempt.withStatus at copied
  split at copied
  · rename_i permitted
    cases copied
    exact ⟨⟨status, old.artifactRefs, .inl permitted, rfl⟩, rfl,
      StateMachine.not_terminal_of_can permitted⟩
  · cases copied

theorem attempt_withArtifact_moves {old new : RunAttempt} {artifact : ArtifactRef}
    (copied : old.withArtifact artifact = some new) :
    AttemptMoves old new ∧ new.status = old.status := by
  unfold RunAttempt.withArtifact at copied
  split at copied
  · cases copied
  · cases copied
    exact ⟨⟨old.status, _, .inr rfl, rfl⟩, rfl⟩

theorem evaluationRun_withStatus_moves {old new : EvaluationRun} {status : EvaluationRunStatus}
    (copied : old.withStatus status = some new) :
    EvaluationRunMoves old new ∧ new.status = status := by
  unfold EvaluationRun.withStatus at copied
  split at copied
  · cases copied
    exact ⟨⟨status, ‹_›, rfl⟩, rfl⟩
  · cases copied

theorem evaluationAttempt_withStatus_moves {old new : EvaluationAttempt}
    {status : EvaluationAttemptStatus} (copied : old.withStatus status = some new) :
    EvaluationAttemptMoves old new ∧ new.status = status := by
  unfold EvaluationAttempt.withStatus at copied
  split at copied
  · cases copied
    exact ⟨⟨status, ‹_›, rfl⟩, rfl⟩
  · cases copied

theorem action_withStatus_moves {old new : Action} {status : ActionStatus}
    {outcome : Option ActionOutcome} (copied : old.withStatus status outcome = some new) :
    ActionMoves old new ∧
      new = { old with status := status, outcome := outcome, revision := old.revision + 1 } := by
  unfold Action.withStatus at copied
  split at copied
  · rename_i permitted
    cases copied
    exact ⟨⟨status, outcome, old.policyDecisionId, .inl permitted.1, rfl⟩, rfl⟩
  · cases copied

theorem action_governedBy_moves {old new : Action} {decisionId : String} {status : ActionStatus}
    (copied : old.governedBy decisionId status = some new) : ActionMoves old new := by
  unfold Action.governedBy at copied
  split at copied
  · rename_i permitted
    cases copied
    refine ⟨status, old.outcome, some decisionId, ?_, rfl⟩
    rcases permitted.2.2 with rfl | permitted'
    · exact .inr ⟨permitted.1.symm, permitted.1⟩
    · exact .inl permitted'
  · cases copied

theorem operation_withState_moves {old new : RuntimeOperation} {state : OperationState}
    {ref : Option Document} (copied : old.withState state ref = some new) :
    OperationMoves old new ∧ new.state = state := by
  unfold RuntimeOperation.withState at copied
  split at copied
  · cases copied
    exact ⟨⟨state, _, ‹_›, rfl⟩, rfl⟩
  · cases copied

/-! ## One row -/

section Rows

variable {L : Licence} {d : Debt} {db : Db} {post : Unit → Debt → Db → Prop}

theorem Legal.moveExperiment {old new : Experiment} (found : db.experiments.find? old.id = some old)
    (moved : ExperimentMoves old new) (journalled : .event ⟨.experiment, new.id⟩ ∉ d)
    (holds : post () (.event ⟨.experiment, new.id⟩ :: d)
      (db.setExperiments (db.experiments.replace new))) :
    Legal L (Storage.updateRow new) d db post := by
  refine Legal.updateRow ?_
  intro stored storedFound _
  exact ⟨_, .moveExperiment old new (moved.id ▸ found) moved journalled, holds⟩

theorem Legal.moveNode {old new : ExperimentNode} (found : db.nodes.find? old.id = some old)
    (moved : NodeMoves old new) (journalled : .event ⟨.experimentNode, new.id⟩ ∉ d)
    (advances : NodeAdvances L d db old new)
    (holds : post () (.event ⟨.experimentNode, new.id⟩ :: (nodeDebt old new ++ d))
      (db.setNodes (db.nodes.replace new))) :
    Legal L (Storage.updateRow new) d db post := by
  refine Legal.updateRow ?_
  intro stored storedFound _
  exact ⟨_, .moveNode old new (moved.id ▸ found) moved journalled advances, holds⟩

/-- A node moved to another status than `DECIDING`. -/
theorem Legal.stepNode {old new : ExperimentNode} {status : ExperimentNodeStatus}
    (found : db.nodes.find? old.id = some old) (copied : old.withStatus status = some new)
    (journalled : .event ⟨.experimentNode, new.id⟩ ∉ d)
    (deciding : status = .deciding → L.skips ∨ (d = [] ∧ CycleEnded db old))
    (holds : post () (.event ⟨.experimentNode, new.id⟩ :: d)
      (db.setNodes (db.nodes.replace new))) :
    Legal L (Storage.updateRow new) d db post := by
  have advanced : NodeAdvances L d db old new ∧ nodeDebt old new = [] :=
    node_withStatus_advances copied deciding
  obtain ⟨advances, nothing⟩ := advanced
  refine Legal.moveNode found (node_withStatus_moves copied).1 journalled advances ?_
  rw [nothing]
  exact holds

theorem Legal.moveRun {old new : Run} (found : db.runs.find? old.id = some old)
    (moved : RunMoves old new) (journalled : .event ⟨.run, new.id⟩ ∉ d)
    (opened : .quota new.id ∉ d)
    (holds : post () (.event ⟨.run, new.id⟩ :: (runDebt new ++ d))
      (db.setRuns (db.runs.replace new))) :
    Legal L (Storage.updateRow new) d db post := by
  refine Legal.updateRow ?_
  intro stored storedFound _
  exact ⟨_, .moveRun old new (moved.id ▸ found) moved journalled opened, holds⟩

theorem Legal.moveAttempt {old new : RunAttempt} (found : db.attempts.find? old.id = some old)
    (moved : AttemptMoves old new) (journalled : .event ⟨.runAttempt, new.id⟩ ∉ d)
    (opened : .slot new.id ∉ d)
    (holds : post () (.event ⟨.runAttempt, new.id⟩ :: (attemptDebt old new ++ d))
      (db.setAttempts (db.attempts.replace new))) :
    Legal L (Storage.updateRow new) d db post := by
  refine Legal.updateRow ?_
  intro stored storedFound _
  exact ⟨_, .moveAttempt old new (moved.id ▸ found) moved journalled opened, holds⟩

theorem Legal.moveEvaluationRun {old new : EvaluationRun}
    (found : db.evaluationRuns.find? old.id = some old)
    (moved : EvaluationRunMoves old new) (journalled : .event ⟨.evaluationRun, new.id⟩ ∉ d)
    (succeeds : new.status = .succeeded → .success new.id ∈ d)
    (holds : post () (.event ⟨.evaluationRun, new.id⟩ :: d)
      (db.setEvaluationRuns (db.evaluationRuns.replace new))) :
    Legal L (Storage.updateRow new) d db post := by
  refine Legal.updateRow ?_
  intro stored storedFound _
  exact ⟨_, .moveEvaluationRun old new (moved.id ▸ found) moved journalled succeeds, holds⟩

theorem Legal.moveEvaluationAttempt {old new : EvaluationAttempt}
    (found : db.evaluationAttempts.find? old.id = some old)
    (moved : EvaluationAttemptMoves old new) (journalled : .event ⟨.evaluationAttempt, new.id⟩ ∉ d)
    (succeeds : new.status = .succeeded → .success new.evaluationRunId ∉ d ∧
      ∃ run, db.evaluationRuns.find? new.evaluationRunId = some run ∧ run.isTerminal = false)
    (holds : post () (.event ⟨.evaluationAttempt, new.id⟩ ::
        ((evaluationAttemptDebt new ++ successDebt new) ++ d))
      (db.setEvaluationAttempts (db.evaluationAttempts.replace new))) :
    Legal L (Storage.updateRow new) d db post := by
  refine Legal.updateRow ?_
  intro stored storedFound _
  exact ⟨_, .moveEvaluationAttempt old new (moved.id ▸ found) moved journalled succeeds, holds⟩

/-- An action moved and journalled. -/
theorem Legal.moveAction {β : Type} {done : β → Debt → Db → Prop} {old new : Action}
    {eventType experimentId : String} {actor : Actor} {destinations : List String}
    {extra : EventExtra} {rest : Repo β} (found : db.actions.find? old.id = some old)
    (moved : ActionMoves old new) (journalled : .event ⟨.action, new.id⟩ ∉ d)
    (cancellation : old.isCancellation = true → (.opening old.id ∈ d ∧ OpensTrue db new) ∨
      L.settles)
    (authorized : Authorizes db old new)
    (said : ActionEvent old new (eventOf new eventType experimentId actor extra))
    (legal : Legal L rest d ((db.setActions (db.actions.replace new)).record
      (eventOf new eventType experimentId actor extra) destinations) done) :
    Legal L (do
      Storage.updateRow new
      Storage.emit new eventType experimentId actor destinations extra
      rest) d db done := by
  intro sound a s ran
  have found' : db.actions.find? new.id = some old := moved.id ▸ found
  have next : old.revision + 1 = new.revision := by
    obtain ⟨_, _, _, _, rfl⟩ := moved
    rfl
  have ran' : rest ((db.setActions (db.actions.replace new)).record
      (eventOf new eventType experimentId actor extra) destinations) = .ok (a, s) := by
    have stored : (tableOf Action db).find? (Stored.id new) = some old := found'
    have follows : Stored.revision old + 1 = Stored.revision new := next
    simp only [Transaction.bind_apply, Storage.updateRow, stored, if_pos follows, Storage.emit,
      Transaction.write_apply] at ran
    exact ran
  have write : Write L d db d _ := .moveAction old new
    (eventOf new eventType experimentId actor extra) destinations found' moved journalled
    cancellation authorized said
  obtain ⟨d', chain, kept, holds⟩ := legal (write.sound sound) a s ran'
  exact ⟨d', (Steps.tail .refl write).trans chain, kept, holds⟩

theorem Legal.moveOperation {old new : RuntimeOperation}
    (found : db.operations.find? old.id = some old)
    (moved : OperationMoves old new) (journalled : .event ⟨.runtimeOperation, new.id⟩ ∉ d)
    (holds : post () (.event ⟨.runtimeOperation, new.id⟩ :: (operationDebt new ++ d))
      (db.setOperations (db.operations.replace new))) :
    Legal L (Storage.updateRow new) d db post := by
  refine Legal.updateRow ?_
  intro stored storedFound _
  exact ⟨_, .moveOperation old new (moved.id ▸ found) moved journalled, holds⟩

end Rows

end Xaytune.Storage
