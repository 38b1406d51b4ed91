import Xaytune.Storage.Evaluation
import Xaytune.Storage.Legality.Execution

/-!
# Evaluation and decisions as writes
-/

namespace Xaytune.Storage

open Xaytune.Core Xaytune.Library

section Cycles

variable {L : Licence} {d : Debt} {db : Db} {post : Unit → Debt → Db → Prop} {actor : Actor}
  {destinations : List String}

/-- The run belongs to the cycle the node is in. -/
def RunOfCycle (run : EvaluationRun) (node : ExperimentNode) : Prop :=
  run.nodeId = node.id ∧ run.experimentId = node.experimentId ∧ node.status = .evaluating

theorem Legal.requireRunOfCycle {run : EvaluationRun} {node : ExperimentNode}
    (holds : RunOfCycle run node → post () d db) :
    Legal L (requireRunOfCycle run node) d db post := by
  unfold Storage.requireRunOfCycle
  refine .require fun owned => .require fun evaluating => .check fun _ => holds ?_
  simp only [Bool.and_eq_true, decide_eq_true_eq] at owned evaluating
  exact ⟨owned.1, owned.2, evaluating⟩

/-- An evaluation run of the current cycle, inserted and journalled. -/
theorem Legal.recordEvaluationRun {run : EvaluationRun} {node : ExperimentNode}
    (created : run.status = .created) (pristine : run.revision = 0)
    (found : db.nodes.find? node.id = some node) (ofCycle : RunOfCycle run node)
    (holds : ∀ table events outbox,
      post () d ((db.setEvaluationRuns table).setBooks db.ledger events outbox)) :
    Legal L (recordEvaluationRun run actor destinations) d db post := by
  obtain ⟨ofNode, owner, evaluating⟩ := ofCycle
  unfold Storage.recordEvaluationRun insertEvaluationRun
  refine .bind (.bind (Legal.requireReference fun _ => .bind (Legal.requireReference fun _ => ?_)))
  refine .require fun _ => Legal.insertRow fun table inserted => ⟨_,
    .insertEvaluationRun run table inserted
      ⟨pristine, ⟨node, ofNode ▸ found, owner.symm, ?_⟩, created, ?_⟩, ?_⟩
  · rw [ExperimentNode.isTerminal, evaluating]
    rfl
  · intro other otherFound
    rw [ofNode, found, Option.some.injEq] at otherFound
    exact otherFound ▸ evaluating
  · refine Legal.emit d (Table.find?_insert?_self inserted) (typed_of_kind (by decide)) rfl
      paid_head sub_head ?_
    exact holds table _ _

theorem beginEvaluationCycle_closed (nodeId : String) (expectedRevision : Nat)
    (runs : List EvaluationRun) :
    Closed L (beginEvaluationCycle nodeId expectedRevision runs actor destinations) db := by
  unfold Closed beginEvaluationCycle
  refine .bind (.forEachCheck (fun run => run.status = .created ∧ run.revision = 0)
    (fun run _ holds => Legal.requirePristine fun created pristine => holds ⟨created, pristine⟩)
    fun pristine => ?_)
  refine Legal.loadAt fun (old : ExperimentNode) (found : db.nodes.find? nodeId = some old) => ?_
  -- the budget is asked for a cycle that has runs
  have rest : Legal L (do
      let moved ← Transaction.expect (old.withStatus .evaluating)
        (.invalidTransition "ExperimentNode" (value old.status) "evaluating")
      Transaction.forEach runs fun run => requireRunOfCycle run moved
      updateRow moved
      emit moved "ExperimentNodeStatusChanged" moved.experimentId actor destinations
        (.evaluationCycle moved.evaluationCycle)
      Transaction.forEach runs fun run => recordEvaluationRun run actor destinations
      pure moved) [] db fun _ d _ => d = [] := by
    refine .expect fun moved copied => ?_
    refine .bind (.forEachCheck (fun run => RunOfCycle run moved)
      (fun run _ holds => Legal.requireRunOfCycle holds) fun ofCycle => ?_)
    obtain ⟨moves, _⟩ := node_withStatus_moves copied
    have stored : db.nodes.find? old.id = some old := Table.find?_of_mem (Table.mem_of_find? found)
    have movedStored : (db.nodes.replace moved).find? moved.id = some moved :=
      Table.find?_replace_self (moves.id ▸ stored)
    refine .bind (Legal.stepNode stored copied List.not_mem_nil (by rintro ⟨⟩) ?_)
    refine .bind (Legal.emit [] movedStored (typed_of_kind (by decide)) rfl paid_head sub_head ?_)
    refine .bind (.forEach (fun rest d db => d = [] ∧ db.nodes.find? moved.id = some moved ∧
      ∀ run ∈ rest, run ∈ runs) ⟨rfl, movedStored, fun _ member => member⟩ ?_ ?_)
    · rintro run rest _ db' ⟨rfl, stillStored, subset⟩
      have member := subset run List.mem_cons_self
      refine Legal.recordEvaluationRun (pristine run member).1 (pristine run member).2 stillStored
        (ofCycle run member) ?_
      intro _ _ _
      exact ⟨rfl, stillStored, fun other inRest => subset other (List.mem_cons_of_mem _ inRest)⟩
    · rintro _ _ ⟨rfl, _⟩
      exact .pure rfl
  exact .ite (fun _ => rest) fun _ => .bind (Legal.requireBudget fun _ _ _ => rest)

theorem createEvaluationRun_closed (run : EvaluationRun) :
    Closed L (createEvaluationRun run actor destinations) db := by
  unfold Closed createEvaluationRun
  refine .bind (Legal.requirePristine fun created pristine => ?_)
  refine Legal.load fun (node : ExperimentNode) (found : db.nodes.find? run.nodeId = some node) =>
    ?_
  refine .bind (Legal.requireRunOfCycle fun ofCycle => ?_)
  refine Legal.recordEvaluationRun created pristine ?_ ofCycle fun _ _ _ => rfl
  exact Table.find?_of_mem (Table.mem_of_find? found)

theorem transitionEvaluationRun_closed (id : String) (expectedRevision : Nat)
    (newStatus : EvaluationRunStatus) (reason : Option String) :
    Closed L (transitionEvaluationRun id expectedRevision newStatus actor destinations reason)
      db := by
  unfold Closed transitionEvaluationRun applyTransition
  refine .require fun unsucceeded => Legal.loadAt fun (old : EvaluationRun)
    (found : db.evaluationRuns.find? id = some old) => ?_
  refine .expect fun (moved : EvaluationRun) (copied : old.withStatus newStatus = some moved) => ?_
  obtain ⟨moves, status⟩ := evaluationRun_withStatus_moves copied
  have stored : db.evaluationRuns.find? old.id = some old :=
    Table.find?_of_mem (Table.mem_of_find? found)
  refine .bind (Legal.moveEvaluationRun stored moves List.not_mem_nil ?_ ?_)
  · exact fun succeeded => absurd (status.symm.trans succeeded) (of_decide_eq_true unsucceeded)
  refine .next (.next (.next (.bind (Legal.emit [] ?_ (typed_of_kind (by decide)) ?_ paid_head
    sub_head (.pure rfl)))))
  · exact Table.find?_replace_self (moves.id ▸ stored)
  · cases reason <;> rfl

end Cycles

section Attempts

variable {L : Licence} {d : Debt} {db : Db} {post : Unit → Debt → Db → Prop} {actor : Actor}
  {destinations : List String}

theorem createEvaluationAttemptWithSubmitIntent_closed (attempt : EvaluationAttempt)
    (operationId requestDigest : String) :
    Closed L (createEvaluationAttemptWithSubmitIntent attempt operationId requestDigest actor
      destinations) db := by
  unfold Closed createEvaluationAttemptWithSubmitIntent
  refine .bind (Legal.requirePristine fun created pristine => Legal.get ?_)
  split
  · unfold assertSameOperation
    exact .require fun _ => Legal.get (.expect fun _ _ => .require fun _ => .pure rfl)
  · refine Legal.load fun (run : EvaluationRun)
      (runFound : db.evaluationRuns.find? attempt.evaluationRunId = some run) => ?_
    refine .require fun live => .bind (Legal.requireBudget fun _ _ _ => ?_)
    unfold insertEvaluationAttempt
    refine .bind (.bind (Legal.requireReference fun _ => .read (.require fun _ => ?_)))
    refine Legal.insertRow fun table inserted => ⟨_, .insertEvaluationAttempt attempt table inserted
      ⟨pristine, created, run, runFound, by simpa using live⟩, ?_⟩
    have stored : table.find? attempt.id = some attempt := Table.find?_insert?_self inserted
    refine .bind (Legal.insertOperation rfl rfl ⟨attempt, stored⟩ ?_ ?_)
    · intro _ _ caused
      cases caused
    · intro operation operations due isDue opFound
      refine .bind (Legal.emit (due ++ []) stored (typed_of_kind (by decide)) rfl ?_ ?_ ?_)
      · intro owed member
        rw [List.append_nil]
        rcases List.mem_append.mp member with fresh | isEvent
        · exact .inl fresh
        · exact .inr (List.mem_singleton.mp isEvent)
      · intro owed member
        rw [List.append_nil] at member
        exact List.mem_append_left _ member
      · exact .bind (Legal.emitOperation isDue opFound (.pure rfl))

theorem mem_evaluationAttemptDebt {new : EvaluationAttempt} {owed : Owed}
    (due : owed ∈ evaluationAttemptDebt new) :
    owed = .failure .evaluationAttempt new.id ∧ new.status = .failed := by
  unfold evaluationAttemptDebt at due
  split at due
  · exact ⟨List.mem_singleton.mp due, ‹_›⟩
  · cases due

/-- Settling what an ended evaluation attempt owes leaves the rest. -/
theorem Legal.payEvaluationAttempt {moved : EvaluationAttempt} (rest : Debt)
    (found : db.evaluationAttempts.find? moved.id = some moved)
    (paid : ∀ owed ∈ d, owed ∈ rest ∨ owed ∈ evaluationAttemptDebt moved)
    (sub : ∀ owed ∈ rest, owed ∈ d)
    (holds : ∀ ledger events outbox, post () rest (db.setBooks ledger events outbox)) :
    Legal L (Storage.settleEvaluationAttempt moved actor destinations) d db post := by
  refine Legal.thenPay (Legal.settleEvaluationAttempt found ?_)
  intro ledger events outbox _ counted
  refine ⟨rest, ?_, sub, holds ledger events outbox⟩
  intro owed due
  rcases paid owed due with kept | ended
  · exact .inl kept
  · obtain ⟨rfl, failed⟩ := mem_evaluationAttemptDebt ended
    exact .inr (counted failed)

theorem transitionEvaluationAttempt_closed (id : String) (expectedRevision : Nat)
    (newStatus : EvaluationAttemptStatus) (telemetryPosition : Option (Nat × Nat))
    (reason : Option String)
    (streams : ∀ position, telemetryPosition = some position →
      L.streams ⟨.evaluationAttempt, id⟩ (position.1, position.2)) :
    Closed L (transitionEvaluationAttempt id expectedRevision newStatus actor destinations
      telemetryPosition reason) db := by
  unfold Closed transitionEvaluationAttempt applyTransition
  refine .require fun unsucceeded => Legal.loadAt fun (old : EvaluationAttempt)
    (found : db.evaluationAttempts.find? id = some old) => ?_
  refine .expect fun (moved : EvaluationAttempt)
    (copied : old.withStatus newStatus = some moved) => ?_
  obtain ⟨moves, status⟩ := evaluationAttempt_withStatus_moves copied
  have notSucceeded : moved.status ≠ .succeeded := status ▸ of_decide_eq_true unsucceeded
  have stored : db.evaluationAttempts.find? old.id = some old :=
    Table.find?_of_mem (Table.mem_of_find? found)
  have movedStored : (db.evaluationAttempts.replace moved).find? moved.id = some moved :=
    Table.find?_replace_self (moves.id ▸ stored)
  refine .bind (Legal.moveEvaluationAttempt stored moves List.not_mem_nil
    (fun succeeded => absurd succeeded notSucceeded) ?_)
  rw [successDebt, if_neg notSucceeded, List.append_nil]
  have isId : moved.id = id := moves.id.trans (Table.key_of_find? found)
  refine .bind (Legal.advanceTelemetryGiven (isId ▸ streams) fun other => ?_)
  refine .bind (Legal.payEvaluationAttempt [.event ⟨.evaluationAttempt, moved.id⟩] movedStored ?_ ?_
    fun ledger events outbox => ?_)
  · intro owed due
    rw [List.append_nil] at due
    rcases List.mem_cons.mp due with rfl | due
    · exact .inl (List.mem_singleton.mpr rfl)
    · exact .inr due
  · intro owed due
    exact List.mem_singleton.mp due ▸ List.mem_cons_self
  · refine .bind (Legal.experimentOfEvaluationRun fun _ _ => ?_)
    refine .bind (Legal.emit [] movedStored (typed_of_kind (by decide)) ?_ paid_head sub_head
      (.pure rfl))
    cases reason <;> rfl

theorem holdEvaluationCompletion_closed (attemptId : String) (completion : Document)
    (telemetryPosition : Nat × Nat)
    (streams : L.streams ⟨.evaluationAttempt, attemptId⟩
      (telemetryPosition.1, telemetryPosition.2)) :
    Closed L (holdEvaluationCompletion attemptId completion telemetryPosition actor destinations)
      db := by
  unfold Closed holdEvaluationCompletion
  refine Legal.load fun (attempt : EvaluationAttempt)
    (found : db.evaluationAttempts.find? attemptId = some attempt) => ?_
  refine .require fun _ => .read ?_
  split
  · exact .pure rfl
  · refine .bind (Legal.insertAux (.pendingCompletion _) fun _ => ?_)
    refine .bind (Legal.advanceTelemetry streams fun _ => ?_)
    refine .bind (Legal.experimentOfEvaluationRun fun _ _ => ?_)
    exact .bind (Legal.note (Table.find?_of_mem (Table.mem_of_find? found))
      (typed_of_kind (by decide)) rfl (.pure rfl))

/-- A result inserted for a run that has just succeeded; then nothing is owed for its success. -/
theorem Legal.insertEvaluationResult {result : EvaluationResult} {run : EvaluationRun} (rest : Debt)
    (succeeds : .success result.evaluationRunId ∈ d)
    (found : db.evaluationRuns.find? result.evaluationRunId = some run)
    (succeeded : run.status = .succeeded)
    (paid : ∀ owed ∈ d, owed ∈ rest ∨ owed = .success result.evaluationRunId)
    (sub : ∀ owed ∈ rest, owed ∈ d)
    (holds : ∀ table, post () rest { db with results := table }) :
    Legal L (insertEvaluationResult result) d db post := by
  unfold Storage.insertEvaluationResult
  refine Legal.load fun _ _ => .require fun _ => .read (.require fun untaken => ?_)
  have first : db.evaluationResultForRun result.evaluationRunId = none := by simpa using untaken
  refine Legal.thenPay (Legal.insertInto fun table inserted => ⟨?_, rest, ?_, sub, holds table⟩)
  · exact .aux _ (.result result table inserted ⟨succeeds, ⟨run, found, succeeded⟩, first⟩)
  · intro owed due
    rcases paid owed due with kept | rfl
    · exact .inl kept
    · refine .inr ⟨⟨run, found, succeeded⟩, ?_⟩
      have member : result ∈ table.rows := (Table.mem_insert? inserted).mpr (.inr rfl)
      rw [Db.evaluationResultForRun, List.find?_isSome]
      exact ⟨result, member, decide_eq_true rfl⟩

theorem recordEvaluationResult_closed (checks : Checks) (attemptId : String)
    (result : EvaluationResult) (expectedRevision : Nat) (telemetryPosition : Option (Nat × Nat))
    (streams : ∀ position, telemetryPosition = some position →
      L.streams ⟨.evaluationAttempt, attemptId⟩ (position.1, position.2)) :
    Closed L (recordEvaluationResult checks attemptId result expectedRevision actor
      telemetryPosition destinations) db := by
  unfold Closed recordEvaluationResult
  refine Legal.loadAt fun (attempt : EvaluationAttempt)
    (attemptFound : db.evaluationAttempts.find? attemptId = some attempt) => ?_
  refine Legal.load fun (run : EvaluationRun)
    (runFound : db.evaluationRuns.find? attempt.evaluationRunId = some run) => ?_
  refine .require fun provenance => .read (.require fun _ => ?_)
  simp only [Bool.and_eq_true, decide_eq_true_eq] at provenance
  have ofRun : result.evaluationRunId = run.id := provenance.1.1
  refine .expect fun movedAttempt attemptCopied => .expect fun movedRun runCopied => ?_
  obtain ⟨attemptMoves, attemptStatus⟩ := evaluationAttempt_withStatus_moves attemptCopied
  obtain ⟨runMoves, runStatus⟩ := evaluationRun_withStatus_moves runCopied
  have attemptStored : db.evaluationAttempts.find? attempt.id = some attempt :=
    Table.find?_of_mem (Table.mem_of_find? attemptFound)
  have runStored : db.evaluationRuns.find? run.id = some run :=
    Table.find?_of_mem (Table.mem_of_find? runFound)
  have sameAttempt : movedAttempt.id = attempt.id := by
    obtain ⟨_, _, rfl⟩ := attemptMoves
    rfl
  have sameRun : movedRun.id = run.id := by
    obtain ⟨_, _, rfl⟩ := runMoves
    rfl
  have attemptStored' : (db.evaluationAttempts.replace movedAttempt).find? movedAttempt.id =
      some movedAttempt := Table.find?_replace_self (sameAttempt ▸ attemptStored)
  have runStored' : (db.evaluationRuns.replace movedRun).find? movedRun.id = some movedRun :=
    Table.find?_replace_self (sameRun ▸ runStored)
  have attemptRun : movedAttempt.evaluationRunId = run.id := by
    obtain ⟨_, _, rfl⟩ := attemptMoves
    exact (Table.key_of_find? runFound).symm
  have live : run.isTerminal = false := by
    obtain ⟨_, permitted, _⟩ := runMoves
    exact StateMachine.not_terminal_of_can permitted
  have owed : evaluationAttemptDebt movedAttempt ++ successDebt movedAttempt =
      [.success run.id] := by
    simp [evaluationAttemptDebt, successDebt, attemptStatus, attemptRun]
  refine .bind (Legal.moveEvaluationAttempt attemptStored attemptMoves List.not_mem_nil ?_ ?_)
  · exact fun _ => ⟨List.not_mem_nil, run, attemptRun ▸ runStored, live⟩
  rw [owed]
  refine .bind (Legal.moveEvaluationRun runStored runMoves (by simp) ?_ ?_)
  · exact fun _ => sameRun ▸ List.mem_cons_of_mem _ List.mem_cons_self
  refine .bind (Legal.payEvaluationAttempt _ attemptStored' (fun _ due => .inl due)
    (fun _ due => due) fun ledger events outbox => ?_)
  refine .bind (Legal.insertEvaluationResult
    [.event ⟨.evaluationRun, movedRun.id⟩, .event ⟨.evaluationAttempt, movedAttempt.id⟩]
    (by simp [ofRun]) (by rw [ofRun, ← sameRun]; exact runStored') runStatus ?_ ?_ fun _ => ?_)
  · intro owed due
    simp only [List.singleton_append, List.mem_cons, List.not_mem_nil, or_false] at due ⊢
    rw [ofRun]
    tauto
  · intro owed due
    simp only [List.singleton_append, List.mem_cons, List.not_mem_nil, or_false] at due ⊢
    tauto
  have isId : attempt.id = attemptId := Table.key_of_find? attemptFound
  refine .bind (Legal.advanceTelemetryGiven (isId ▸ streams) fun _ => ?_)
  refine .bind (Legal.emit [.event ⟨.evaluationRun, movedRun.id⟩] attemptStored'
    (typed_of_kind (by decide)) rfl ?_ ?_ ?_)
  · intro owed due
    rcases List.mem_cons.mp due with rfl | due
    · exact .inl (List.mem_singleton.mpr rfl)
    · exact .inr (List.mem_singleton.mp due)
  · intro owed due
    exact List.mem_singleton.mp due ▸ List.mem_cons_self
  · refine .bind (Legal.emit [] runStored' (typed_of_kind (by decide)) rfl paid_head sub_head ?_)
    exact Legal.note runStored' (typed_of_kind (by decide)) rfl rfl

theorem recordTelemetryDegraded_closed (target : RuntimeOperationTarget)
    (streams : L.streams target ((db.telemetryPosition target).1 + 1, -1)) :
    Closed L (recordTelemetryDegraded target actor destinations) db := by
  have degrades : ∀ {α : Type} [Stored α] [LawfulStored α] (attempt : α) (owner : Repo String),
      (Stored.kind α ≠ .run ∧ Stored.kind α ≠ .action) →
      (∀ other : Db, (tableOf α (db.withAux other)).find? (Stored.id attempt) = some attempt) →
      (∀ (db : Db) post, (∀ id, post id [] db) → Legal L owner [] db post) →
      Legal L (recordTelemetryDegraded.degrade target actor destinations attempt
        (db.telemetryPosition target) owner) [] db fun _ d _ => d = [] := by
    intro α _ _ attempt owner notRun stored readsOwner
    unfold recordTelemetryDegraded.degrade
    refine .read (.ite (fun _ => .pure rfl) fun _ => ?_)
    have advanced := Nat.lt_succ_self (db.telemetryPosition target).1
    refine .bind (Legal.aux (.telemetry _ (.inl advanced) streams) fun other => ?_)
    refine .bind (readsOwner _ _ fun id => ?_)
    exact .bind (Legal.note (stored other) (typed_of_kind notRun) rfl (.pure rfl))
  unfold Closed recordTelemetryDegraded
  refine .read ?_
  split
  · refine Legal.load fun (attempt : RunAttempt)
      (found : db.attempts.find? target.id = some attempt) => ?_
    refine degrades attempt _ (by decide) ?_ ?_
    · intro _
      exact Table.find?_of_mem (Table.mem_of_find? found)
    · intro _ _ holds
      exact Legal.experimentOfRun fun run _ => holds run.experimentId
  · refine Legal.load fun (attempt : EvaluationAttempt)
      (found : db.evaluationAttempts.find? target.id = some attempt) => ?_
    refine degrades attempt _ (by decide) ?_ ?_
    · intro _
      exact Table.find?_of_mem (Table.mem_of_find? found)
    · intro _ _ holds
      exact Legal.experimentOfEvaluationRun fun run _ => holds run.experimentId

end Attempts

section Decisions

variable {L : Licence} {d : Debt} {db : Db} {post : Unit → Debt → Db → Prop} {actor : Actor}
  {destinations : List String}

theorem mem_evaluationRunsOfCycle {nodeId : String} {cycle : Nat} {run : EvaluationRun} :
    run ∈ db.evaluationRunsOfCycle nodeId cycle ↔
      run ∈ db.evaluationRuns ∧ run.nodeId = nodeId ∧ run.evaluationCycle = cycle := by
  simp only [Db.evaluationRunsOfCycle, Db.evaluationRunsForNode, List.mem_filter,
    decide_eq_true_eq, and_assoc]
  rfl

theorem reconcileEvaluatingNode_closed (nodeId : String) :
    Closed L (reconcileEvaluatingNode nodeId actor destinations) db := by
  unfold Closed reconcileEvaluatingNode
  refine Legal.load fun (node : ExperimentNode) (found : db.nodes.find? nodeId = some node) => ?_
  have stored : db.nodes.find? node.id = some node := Table.find?_of_mem (Table.mem_of_find? found)
  refine .require fun _ => .read (.ite (fun _ => .pure rfl) fun finished => .read ?_)
  have ended : CycleEnded db node := by
    intro id run runFound ofNode ofCycle
    by_contra live
    apply finished
    rw [List.any_eq_true]
    exact ⟨run, mem_evaluationRunsOfCycle.mpr ⟨Table.mem_of_find? runFound, ofNode, ofCycle⟩,
      by simpa using live⟩
  refine .ite (fun _ => .expect fun moved copied => ?_) fun _ => .read ?_
  · obtain ⟨moves, _⟩ := node_withStatus_moves copied
    refine .bind (Legal.stepNode stored copied List.not_mem_nil (fun _ => .inr ⟨rfl, ended⟩) ?_)
    exact .bind (Legal.emit [] (Table.find?_replace_self (moves.id ▸ stored))
      (typed_of_kind (by decide)) rfl paid_head sub_head (.pure rfl))
  · refine .ite (fun _ => .pure rfl) fun _ => ?_
    exact .bind (Legal.note stored (typed_of_kind (by decide)) rfl (.pure rfl))

theorem Legal.concludeExperiment {decision : Decision} (holds : ∀ db', post () [] db') :
    Legal L (concludeExperiment decision actor destinations) [] db post := by
  have concludes : ∀ ending : Experiment → Option Experiment,
      (∀ old new, ending old = some new → ExperimentMoves old new) →
      Legal L (concludeExperiment.conclude decision actor destinations ending) [] db post := by
    intro ending ends
    unfold concludeExperiment.conclude
    refine Legal.load fun (experiment : Experiment)
      (found : db.experiments.find? decision.proposal.experimentId = some experiment) => ?_
    refine .ite (fun _ => .pure (holds db)) fun _ => .expect fun ended copied => ?_
    have moves := ends experiment ended copied
    have stored : db.experiments.find? experiment.id = some experiment :=
      Table.find?_of_mem (Table.mem_of_find? found)
    refine .bind (Legal.moveExperiment stored moves List.not_mem_nil ?_)
    exact Legal.emit [] (Table.find?_replace_self (moves.id ▸ stored))
      (typed_of_kind (by decide)) rfl
      paid_head sub_head (holds _)
  unfold Storage.concludeExperiment
  split
  · exact .pure (holds db)
  · exact .pure (holds db)
  · exact concludes _ fun _ _ => experiment_succeededWith_moves
  · exact concludes _ fun _ _ copied => (experiment_withStatus_moves copied).1

/-- A decision inserted after its node has named it; then it is no longer owed. -/
theorem Legal.insertDecision {decision : Decision} (rest : Debt) (decides : Decides d db decision)
    (paid : ∀ owed ∈ d, owed ∈ rest ∨ owed = .decision decision.proposal.nodeId decision.id)
    (sub : ∀ owed ∈ rest, owed ∈ d)
    (holds : ∀ table, post () rest { db with decisions := table }) :
    Legal L (insertDecision decision) d db post := by
  unfold Storage.insertDecision
  refine Legal.load fun _ _ => .require fun _ => .read (.require fun _ => ?_)
  refine Legal.thenPay (Legal.insertInto fun table inserted => ⟨?_, rest, ?_, sub, holds table⟩)
  · exact .aux _ (.decision decision table inserted decides)
  · intro owed due
    rcases paid owed due with kept | rfl
    · exact .inl kept
    · exact .inr ⟨decision, Table.find?_insert?_self inserted, rfl⟩

/-- Every outcome ends the node it is about. -/
theorem DecisionOutcome.nodeStatus_terminal (outcome : DecisionOutcome) :
    nodeMachine.isTerminal outcome.nodeStatus = true := by
  cases outcome <;> rfl

theorem recordDecision_closed (checks : Checks) (proposal : DecisionProposal) (decisionId : String)
    (expectedNodeRevision : Nat) :
    Closed L (recordDecision checks proposal decisionId expectedNodeRevision actor destinations)
      db := by
  unfold Closed recordDecision
  refine Legal.load fun (node : ExperimentNode)
    (found : db.nodes.find? proposal.nodeId = some node) => .read ?_
  split
  · exact .require fun _ => .pure rfl
  · refine .read (.require fun about => ?_)
    refine Legal.load fun _ _ => .require fun _ => .require fun _ => ?_
    refine .expect fun decided copied => ?_
    simp only [Bool.and_eq_true, decide_eq_true_eq, List.all_eq_true,
      List.contains_iff_mem] at about
    obtain ⟨⟨⟨⟨⟨_, ofCycle⟩, _⟩, known⟩, complete⟩, _⟩ := about
    have moves := node_withDecision_moves copied
    have advanced : NodeAdvances L [] db node decided ∧
        nodeDebt node decided = [.decision decided.id decisionId] ∧
          decided.evaluationCycle = node.evaluationCycle :=
      node_withDecision_advances proposal.outcome.nodeStatus_terminal copied
    obtain ⟨advances, owed, sameCycle⟩ := advanced
    have stored : db.nodes.find? node.id = some node :=
      Table.find?_of_mem (Table.mem_of_find? found)
    have decidedStored : (db.nodes.replace decided).find? decided.id = some decided :=
      Table.find?_replace_self (moves.id ▸ stored)
    have isNode : decided.id = proposal.nodeId := moves.id.trans (Table.key_of_find? found)
    refine .bind (Legal.moveNode stored moves List.not_mem_nil advances ?_)
    rw [owed]
    refine .bind (Legal.insertDecision [.event ⟨.experimentNode, decided.id⟩]
      ⟨?_, ⟨decided, isNode ▸ decidedStored, sameCycle.trans ofCycle.symm⟩, ?_⟩ ?_ ?_ fun _ => ?_)
    · simp [isNode]
    · intro id
      have sameNode : proposal.nodeId = node.id := (Table.key_of_find? found).symm
      show id ∈ proposal.evaluationResultIds ↔ ∃ run result,
        run ∈ db.evaluationRunsOfCycle proposal.nodeId proposal.evaluationCycle ∧
          db.evaluationResultForRun run.id = some result ∧ result.id = id
      rw [sameNode, ofCycle]
      constructor
      · intro isNamed
        obtain ⟨result, ofRun, rfl⟩ := List.mem_map.mp (known id isNamed)
        obtain ⟨run, inCycle, isResult⟩ := List.mem_filterMap.mp ofRun
        exact ⟨run, result, inCycle, isResult, rfl⟩
      · rintro ⟨run, result, inCycle, isResult, rfl⟩
        exact complete _ (List.mem_map_of_mem (List.mem_filterMap.mpr ⟨run, inCycle, isResult⟩))
    · intro owed due
      simp only [List.singleton_append, List.mem_cons, List.not_mem_nil, or_false] at due ⊢
      rw [← isNode]
      exact due
    · intro owed due
      exact List.mem_cons.mpr (.inl (List.mem_singleton.mp due))
    refine .bind (Legal.emit [] decidedStored (typed_of_kind (by decide)) rfl paid_head sub_head ?_)
    refine .bind (Legal.note decidedStored (typed_of_kind (by decide)) rfl ?_)
    exact .bind (Legal.concludeExperiment fun _ => .pure rfl)

theorem deferDecision_closed (nodeId : String) :
    Closed L (deferDecision nodeId actor destinations) db := by
  unfold Closed deferDecision
  refine Legal.load fun (node : ExperimentNode) (found : db.nodes.find? nodeId = some node) => ?_
  refine .require fun _ => .read (.ite (fun _ => .pure rfl) fun _ => ?_)
  exact .bind (Legal.note (Table.find?_of_mem (Table.mem_of_find? found))
    (typed_of_kind (by decide)) rfl (.pure rfl))

end Decisions

end Xaytune.Storage
