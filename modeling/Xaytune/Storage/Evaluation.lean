import Xaytune.Storage.Execution

/-!
# Evaluation and decisions

A node is evaluated in cycles: its runs belong to the cycle it is in, an attempt
succeeds only together with its run and the result they measured, and the cycle
ends in one decision that is applied where it is recorded.
-/

namespace Xaytune.Storage

open Xaytune.Core Xaytune.Library
open Transaction (read write refuse require expect forEach)

/-! ## Reads -/

namespace Db

/-- The node's evaluation runs of one cycle. -/
def evaluationRunsOfCycle (db : Db) (nodeId : String) (cycle : Nat) : List EvaluationRun :=
  (db.evaluationRunsForNode nodeId).filter fun run => run.evaluationCycle = cycle

def evaluationResultForRun (db : Db) (runId : String) : Option EvaluationResult :=
  db.results.rows.find? fun result => result.evaluationRunId = runId

def decisionForCycle (db : Db) (nodeId : String) (cycle : Nat) : Option Decision :=
  db.decisions.rows.find? fun decision =>
    decision.proposal.nodeId = nodeId ∧ decision.proposal.evaluationCycle = cycle

/-- Whether the node was already noted, in this cycle, with an event of the type. -/
def notedInCycle (db : Db) (node : ExperimentNode) (eventType : String) : Bool :=
  (db.eventsFor ⟨.experimentNode, node.id⟩).any fun event =>
    event.eventType = eventType && event.extra = .evaluationCycle node.evaluationCycle

end Db

/-! ## Cycles and runs -/

/-- Refuse an evaluation run that does not belong to the node's current cycle. -/
def requireRunOfCycle (run : EvaluationRun) (node : ExperimentNode) : Repo Unit := do
  require (run.nodeId = node.id && run.experimentId = node.experimentId)
    (.storage "the evaluation run names another node or experiment")
  require (node.status = .evaluating)
    (.storage "evaluation runs belong to a node that is evaluating")
  require (run.evaluationCycle = node.evaluationCycle)
    (.storage "a run of another round would be counted, or waited for, by the wrong one")

def insertEvaluationRun (run : EvaluationRun) : Repo Unit := do
  requireReference Db.experiments run.experimentId
  requireReference Db.nodes run.nodeId
  require (1 ≤ run.evaluationCycle) (.integrity "CHECK evaluation_cycle")
  insertRow run

/-- An evaluation run with its creation event. -/
def recordEvaluationRun (run : EvaluationRun) (actor : Actor) (destinations : List String) :
    Repo Unit := do
  insertEvaluationRun run
  emit run "EvaluationRunCreated" run.experimentId actor destinations

/-- Move a node into `EVALUATING` and record the runs its new cycle requires. -/
def beginEvaluationCycle (nodeId : String) (expectedRevision : Nat) (runs : List EvaluationRun)
    (actor : Actor) (destinations : List String) : Repo ExperimentNode := do
  forEach runs fun run => requirePristine run.status .created run.revision
  let current ← loadAt ExperimentNode nodeId expectedRevision
  if runs.isEmpty then pure () else requireBudget current.experimentId false
  let moved ← expect (current.withStatus .evaluating)
    (.invalidTransition "ExperimentNode" (value current.status) "evaluating")
  forEach runs fun run => requireRunOfCycle run moved
  updateRow moved
  emit moved "ExperimentNodeStatusChanged" moved.experimentId actor destinations
    (.evaluationCycle moved.evaluationCycle)
  forEach runs fun run => recordEvaluationRun run actor destinations
  pure moved

/-- Add a run, such as a replicate, to the cycle a node is evaluating. -/
def createEvaluationRun (run : EvaluationRun) (actor : Actor) (destinations : List String) :
    Repo Unit := do
  requirePristine run.status .created run.revision
  let node ← loadRow ExperimentNode run.nodeId
  requireRunOfCycle run node
  recordEvaluationRun run actor destinations

/-- The `reason` of a transition as its event carries it. -/
def reasonExtra : Option String → EventExtra
  | none => .none
  | some reason => .other reason

/-- Not to `SUCCEEDED`: a run succeeds only with its result. -/
def transitionEvaluationRun (id : String) (expectedRevision : Nat)
    (newStatus : EvaluationRunStatus) (actor : Actor) (destinations : List String)
    (reason : Option String) : Repo EvaluationRun := do
  require (newStatus ≠ .succeeded) (.storage "an evaluation run succeeds only with its result")
  applyTransition EvaluationRun id expectedRevision newStatus actor none destinations
    (fun _ => pure ()) (reasonExtra reason)

/-! ## Attempts -/

def insertEvaluationAttempt (attempt : EvaluationAttempt) : Repo Unit := do
  requireReference Db.evaluationRuns attempt.evaluationRunId
  let taken ← read fun db => db.evaluationAttempts.rows.any fun other =>
    other.evaluationRunId = attempt.evaluationRunId &&
      other.attemptNumber = attempt.attemptNumber
  require (!taken && 1 ≤ attempt.attemptNumber) (.integrity "idx_evaluation_attempts_number")
  insertRow attempt

/-- Get-or-create: an evaluation attempt and its `INTENDED` submit operation in one commit. -/
def createEvaluationAttemptWithSubmitIntent (attempt : EvaluationAttempt)
    (operationId requestDigest : String) (actor : Actor) (destinations : List String) :
    Repo (EvaluationAttempt × RuntimeOperation) := do
  let operation := submitOperation operationId ⟨.evaluationAttempt, attempt.id⟩ requestDigest
  requirePristine attempt.status .created attempt.revision
  let existing ← getRow RuntimeOperation operationId
  match existing with
  | some stored => do
      assertSameOperation stored operation
      let found ← getRow EvaluationAttempt stored.target.id
      let storedAttempt ← expect found
        (.storage "the two are written in one transaction, so this is a corrupted record")
      require (storedAttempt.evaluationRunId = attempt.evaluationRunId &&
          storedAttempt.attemptNumber = attempt.attemptNumber)
        (.idempotencyConflict attempt.id ["run_id", "attempt_number"] "attempt")
      pure (storedAttempt, stored)
  | none => do
      let run ← loadRow EvaluationRun attempt.evaluationRunId
      require (!run.isTerminal)
        (.storage "a new attempt at a finished run would execute an evaluation nothing will record")
      requireBudget run.experimentId false
      insertEvaluationAttempt attempt
      let stored ← insertOperation operation
      emit attempt "EvaluationAttemptCreated" run.experimentId actor destinations
      emit stored "RuntimeOperationIntended" run.experimentId actor destinations
      pure (attempt, stored)

/-- Not to `SUCCEEDED`: an attempt succeeds only with its result. -/
def transitionEvaluationAttempt (id : String) (expectedRevision : Nat)
    (newStatus : EvaluationAttemptStatus) (actor : Actor) (destinations : List String)
    (telemetryPosition : Option (Nat × Nat)) (reason : Option String) : Repo EvaluationAttempt := do
  require (newStatus ≠ .succeeded) (.storage "an evaluation attempt succeeds only with its result")
  applyTransition EvaluationAttempt id expectedRevision newStatus actor none destinations
    (fun moved => advanceTelemetryGiven ⟨.evaluationAttempt, moved.id⟩ telemetryPosition)
    (reasonExtra reason)

/-- Keep a completion durably until the workload's end decides it; the first one is kept. -/
def holdEvaluationCompletion (attemptId : String) (completion : Document)
    (telemetryPosition : Nat × Nat) (actor : Actor) (destinations : List String) :
    Repo PendingCompletion := do
  let attempt ← loadRow EvaluationAttempt attemptId
  require (!attempt.isTerminal) (.storage "a completion held for it now could never be settled")
  let held ← read fun db => db.pendingCompletions.find? attemptId
  match held with
  | some held => pure held
  | none => do
      let fresh : PendingCompletion :=
        ⟨attemptId, completion, telemetryPosition.1, telemetryPosition.2⟩
      insertInto Db.pendingCompletions
        (fun table db => { db with pendingCompletions := table }) fresh
      advanceTelemetry ⟨.evaluationAttempt, attemptId⟩ telemetryPosition
      let owner ← experimentOfEvaluationRun attempt.evaluationRunId
      emit attempt "EvaluationCompletionHeld" owner actor destinations (.other completion)
      pure fresh

/-- One result for each run, about the run's own node. -/
def insertEvaluationResult (result : EvaluationResult) : Repo Unit := do
  let run ← loadRow EvaluationRun result.evaluationRunId
  require (run.nodeId = result.nodeId)
    (.integrity "evaluation result provenance disagrees with its run")
  let taken ← read fun db => (db.evaluationResultForRun result.evaluationRunId).isSome
  require (!taken) (.integrity "UNIQUE evaluation_run_id")
  insertInto Db.results (fun table db => { db with results := table }) result

/-- Record what an evaluation measured, and that it succeeded, in one commit. -/
def recordEvaluationResult (checks : Checks) (attemptId : String) (result : EvaluationResult)
    (expectedRevision : Nat) (actor : Actor) (telemetryPosition : Option (Nat × Nat))
    (destinations : List String) : Repo Unit := do
  let attempt ← loadAt EvaluationAttempt attemptId expectedRevision
  let run ← loadRow EvaluationRun attempt.evaluationRunId
  require (result.evaluationRunId = run.id && result.nodeId = run.nodeId &&
      checks.resultProvenance result run) (.provenance "the result disagrees with its run")
  let answered ← read fun db => (db.evaluationResultForRun run.id).isSome
  require (!answered) (.storage "a second result would be a second answer from one execution")
  let succeededAttempt ← expect (attempt.withStatus .succeeded)
    (.invalidTransition "EvaluationAttempt" (value attempt.status) "succeeded")
  let succeededRun ← expect (run.withStatus .succeeded)
    (.invalidTransition "EvaluationRun" (value run.status) "succeeded")
  updateRow succeededAttempt
  updateRow succeededRun
  settleEvaluationAttempt succeededAttempt actor destinations
  insertEvaluationResult result
  advanceTelemetryGiven ⟨.evaluationAttempt, attempt.id⟩ telemetryPosition
  emit succeededAttempt "EvaluationAttemptStatusChanged" run.experimentId actor destinations
  emit succeededRun "EvaluationRunStatusChanged" run.experimentId actor destinations
  emit succeededRun "EvaluationResultRecorded" run.experimentId actor destinations
    (.other result.id)

/-- A dead stream over a live workload: advance the generation, once for each stream, and say so. -/
def recordTelemetryDegraded (target : RuntimeOperationTarget) (actor : Actor)
    (destinations : List String) : Repo (Nat × Int) := do
  let position ← read fun db => db.telemetryPosition target
  match target.kind with
  | .trainingAttempt => do
      let attempt ← loadRow RunAttempt target.id
      degrade attempt position (experimentOfRun attempt.runId)
  | .evaluationAttempt => do
      let attempt ← loadRow EvaluationAttempt target.id
      degrade attempt position (experimentOfEvaluationRun attempt.evaluationRunId)
where
  degrade {α : Type} [Stored α] (attempt : α) (position : Nat × Int) (owner : Repo String) :
      Repo (Nat × Int) := do
    let noted ← read fun db => (db.eventsFor ⟨Stored.kind α, Stored.id attempt⟩).any fun event =>
      event.eventType = "TelemetryDegraded" && event.extra = .toGeneration position.1
    if position.2 = -1 ∧ noted then pure (position.1, -1)
    else do
      write fun db => db.setTelemetry ⟨target, position.1 + 1, -1⟩
      let owner ← owner
      emit attempt "TelemetryDegraded" owner actor destinations (.toGeneration (position.1 + 1))
      pure (position.1 + 1, -1)

/-! ## Reconciling a cycle and deciding it -/

inductive EvaluationReconciliation where
  | waiting | deciding | stalled

/-- Resolve a node in `EVALUATING` to exactly one of wait, decide or stall. -/
def reconcileEvaluatingNode (nodeId : String) (actor : Actor) (destinations : List String) :
    Repo EvaluationReconciliation := do
  let node ← loadRow ExperimentNode nodeId
  require (node.status = .evaluating) (.storage "there is no evaluation cycle to reconcile")
  let runs ← read fun db => db.evaluationRunsOfCycle node.id node.evaluationCycle
  if runs.any fun run => !run.isTerminal then pure .waiting
  else do
    let unsatisfied ← read fun db => runs.filter fun run =>
      run.status ≠ .succeeded || (db.evaluationResultForRun run.id).isNone
    if runs ≠ [] ∧ unsatisfied = [] then do
      let deciding ← expect (node.withStatus .deciding)
        (.invalidTransition "ExperimentNode" (value node.status) "deciding")
      updateRow deciding
      emit deciding "ExperimentNodeStatusChanged" deciding.experimentId actor destinations
        (.evaluationCycle deciding.evaluationCycle)
      pure .deciding
    else do
      let noted ← read fun db => db.notedInCycle node "EvaluationStalled"
      if noted then pure .stalled
      else do
        emit node "EvaluationStalled" node.experimentId actor destinations
          (.evaluationCycle node.evaluationCycle)
        pure .stalled

/-- End an `ACTIVE` experiment when the decision says to stop it; otherwise nothing. -/
def concludeExperiment (decision : Decision) (actor : Actor) (destinations : List String) :
    Repo Unit :=
  match decision.proposal.outcome with
  | .reject | .branch => pure ()
  | .stopSucceeded => conclude fun experiment => experiment.succeededWith decision.proposal.nodeId
  | .stopFailed => conclude fun experiment => experiment.withStatus .failed
where
  conclude (ending : Experiment → Option Experiment) : Repo Unit := do
    let experiment ← loadRow Experiment decision.proposal.experimentId
    if experiment.status ≠ .active then pure ()
    else do
      let ended ← expect (ending experiment)
        (.invalidTransition "Experiment" (value experiment.status) "")
      updateRow ended
      emit ended "ExperimentStatusChanged" ended.id actor destinations (.other decision.id)

/-- One decision for each cycle of a node, about an experiment the node belongs to. -/
def insertDecision (decision : Decision) : Repo Unit := do
  let node ← loadRow ExperimentNode decision.proposal.nodeId
  require (node.experimentId = decision.proposal.experimentId)
    (.integrity "decision names an experiment its node does not belong to")
  let taken ← read fun db =>
    (db.decisionForCycle decision.proposal.nodeId decision.proposal.evaluationCycle).isSome
  require (!taken) (.integrity "idx_decisions_cycle")
  insertInto Db.decisions (fun table db => { db with decisions := table }) decision

/-- Record a proposal as a decision and apply it, in one commit; idempotent for each cycle. -/
def recordDecision (checks : Checks) (proposal : DecisionProposal) (decisionId : String)
    (expectedNodeRevision : Nat) (actor : Actor) (destinations : List String) : Repo Decision := do
  let node ← loadRow ExperimentNode proposal.nodeId
  let recorded ← read fun db => db.decisionForCycle node.id proposal.evaluationCycle
  match recorded with
  | some recorded => do
      require (recorded.proposal = proposal)
        (.decisionConflict "a different decision for the same cycle is refused")
      pure recorded
  | none => do
      let results ← read fun db =>
        (db.evaluationRunsOfCycle node.id node.evaluationCycle).filterMap fun run =>
          db.evaluationResultForRun run.id
      let named := proposal.evaluationResultIds
      let cycleResults := results.map EvaluationResult.id
      require (proposal.experimentId = node.experimentId &&
          proposal.evaluationCycle = node.evaluationCycle && named.Nodup &&
          named.all cycleResults.contains && cycleResults.all named.contains &&
          proposal.evidenceResultIds.all cycleResults.contains)
        (.provenance "the decision is not about its node's current cycle")
      let experiment ← loadRow Experiment node.experimentId
      require (proposal.inputFingerprint = checks.decisionInput experiment node results)
        (.provenance "the objective and the cycle's results fingerprint to another input")
      require (node.revision = expectedNodeRevision)
        (.concurrentModification "ExperimentNode" node.id expectedNodeRevision)
      let decision : Decision := ⟨decisionId, proposal⟩
      let decided ← expect (node.withDecision decision.id proposal.outcome.nodeStatus)
        (.invalidTransition "ExperimentNode" (value node.status)
          (value proposal.outcome.nodeStatus))
      updateRow decided
      insertDecision decision
      emit decided "DecisionRecorded" node.experimentId actor destinations (.other decision.id)
      emit decided "ExperimentNodeStatusChanged" node.experimentId actor destinations
        (.other decision.id)
      concludeExperiment decision actor destinations
      pure decision

/-- Record that the node's current cycle could not be decided, once for each cycle. -/
def deferDecision (nodeId : String) (actor : Actor) (destinations : List String) : Repo Bool := do
  let node ← loadRow ExperimentNode nodeId
  require (node.status = .deciding) (.storage "there is no decision to defer")
  let noted ← read fun db => db.notedInCycle node "DecisionDeferred"
  if noted then pure false
  else do
    emit node "DecisionDeferred" node.experimentId actor destinations
      (.evaluationCycle node.evaluationCycle)
    pure true

end Xaytune.Storage
