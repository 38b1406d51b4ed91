import Xaytune.Storage.Ledger

/-!
# Experiments, runs and attempts

Creation and lifecycle of the training aggregates: every row is written with its
event, an attempt with the intent to submit it, and a settled operation with what
its outcome means for the budget and for the action that caused it.
-/

namespace Xaytune.Storage

open Xaytune.Core Xaytune.Library
open Transaction (read write refuse require expect forEach)

/-! ## Reads -/

namespace Db

def nodesForExperiment (db : Db) (experimentId : String) : List ExperimentNode :=
  db.nodes.rows.filter fun node => node.experimentId = experimentId

def runsForNode (db : Db) (nodeId : String) : List Run :=
  db.runs.rows.filter fun run => run.nodeId = nodeId

/-- The run's attempts in attempt-number order. -/
def attemptsForRun (db : Db) (runId : String) : List RunAttempt :=
  sortedBy RunAttempt.attemptNumber (db.attempts.rows.filter fun attempt => attempt.runId = runId)

def evaluationRunsForNode (db : Db) (nodeId : String) : List EvaluationRun :=
  db.evaluationRuns.rows.filter fun run => run.nodeId = nodeId

def evaluationAttemptsForRun (db : Db) (runId : String) : List EvaluationAttempt :=
  sortedBy EvaluationAttempt.attemptNumber
    (db.evaluationAttempts.rows.filter fun attempt => attempt.evaluationRunId = runId)

/-- Every training attempt of the experiment, through its nodes and runs. -/
def attemptsOf (db : Db) (experimentId : String) : List RunAttempt :=
  (db.nodesForExperiment experimentId).flatMap fun node =>
    (db.runsForNode node.id).flatMap fun run => db.attemptsForRun run.id

/-- Every evaluation attempt of the experiment, through its nodes and runs. -/
def evaluationAttemptsOf (db : Db) (experimentId : String) : List EvaluationAttempt :=
  (db.nodesForExperiment experimentId).flatMap fun node =>
    (db.evaluationRunsForNode node.id).flatMap fun run => db.evaluationAttemptsForRun run.id

/-- Whether the experiment has an attempt of either kind that is not yet terminal. -/
def hasLiveAttempts (db : Db) (experimentId : String) : Bool :=
  (db.attemptsOf experimentId).any (fun attempt => !attempt.isTerminal) ||
    (db.evaluationAttemptsOf experimentId).any fun attempt => !attempt.isTerminal

/-- Every operation against one attempt, oldest first. -/
def operationsFor (db : Db) (target : RuntimeOperationTarget) : List RuntimeOperation :=
  db.operations.rows.filter fun operation => operation.target = target

def directivesForAttempt (db : Db) (attemptId : String) : List InterventionDirective :=
  sortedBy InterventionDirective.ordinal
    ((db.directives.rows.map DirectiveRow.directive).filter fun directive =>
      directive.attemptId = attemptId)

theorem mem_nodesForExperiment {db : Db} {experimentId : String} {node : ExperimentNode} :
    node ∈ db.nodesForExperiment experimentId ↔
      db.nodes.find? node.id = some node ∧ node.experimentId = experimentId := by
  simp [nodesForExperiment, Table.find?_eq_some_iff, Table.mem_iff]

theorem mem_runsForNode {db : Db} {nodeId : String} {run : Run} :
    run ∈ db.runsForNode nodeId ↔ db.runs.find? run.id = some run ∧ run.nodeId = nodeId := by
  simp [runsForNode, Table.find?_eq_some_iff, Table.mem_iff]

theorem mem_attemptsForRun {db : Db} {runId : String} {attempt : RunAttempt} :
    attempt ∈ db.attemptsForRun runId ↔
      db.attempts.find? attempt.id = some attempt ∧ attempt.runId = runId := by
  simp [attemptsForRun, Table.find?_eq_some_iff, Table.mem_iff]

theorem mem_evaluationRunsForNode {db : Db} {nodeId : String} {run : EvaluationRun} :
    run ∈ db.evaluationRunsForNode nodeId ↔
      db.evaluationRuns.find? run.id = some run ∧ run.nodeId = nodeId := by
  simp [evaluationRunsForNode, Table.find?_eq_some_iff, Table.mem_iff]

theorem mem_evaluationAttemptsForRun {db : Db} {runId : String} {attempt : EvaluationAttempt} :
    attempt ∈ db.evaluationAttemptsForRun runId ↔
      db.evaluationAttempts.find? attempt.id = some attempt ∧
        attempt.evaluationRunId = runId := by
  simp [evaluationAttemptsForRun, Table.find?_eq_some_iff, Table.mem_iff]

/-- The attempt's directives no confirmed application answers yet. -/
def unconfirmedDirectives (db : Db) (attemptId : String) : List InterventionDirective :=
  (db.directivesForAttempt attemptId).filter fun directive =>
    (db.applications.find? directive.applicationId).isNone

/-- Directives of the run's final attempt that no confirmed application answers. -/
def unconfirmedFinalDirectives (db : Db) (runId : String) : List InterventionDirective :=
  match (db.attemptsForRun runId).getLast? with
  | none => []
  | some final => db.unconfirmedDirectives final.id

end Db

/-! ## Telemetry cursors -/

/-- The attempt's durable cursor; `(0, -1)` before anything was recorded from it. -/
def Db.telemetryPosition (db : Db) (target : RuntimeOperationTarget) : Nat × Int :=
  match db.telemetry.find? target with
  | none => (0, -1)
  | some cursor => (cursor.generation, cursor.sequence)

/-- Write an attempt's cursor. -/
def Db.setTelemetry (db : Db) (cursor : TelemetryCursor) : Db :=
  { db with telemetry := db.telemetry.put cursor }

/-- Move the cursor forward to a position, or leave it if already past. -/
def advanceTelemetry (target : RuntimeOperationTarget) (position : Nat × Nat) : Repo Unit :=
  write fun db =>
    let current := db.telemetryPosition target
    if current.1 < position.1 ∨ (current.1 = position.1 ∧ current.2 < position.2) then
      db.setTelemetry ⟨target, position.1, position.2⟩
    else db

def advanceTelemetryGiven (target : RuntimeOperationTarget) : Option (Nat × Nat) → Repo Unit
  | none => pure ()
  | some position => advanceTelemetry target position

/-! ## Inserts -/

def insertExperiment (experiment : Experiment) : Repo Unit := insertRow experiment

def insertNode (node : ExperimentNode) : Repo Unit := do
  requireReference Db.experiments node.experimentId
  insertRow node
  write fun db =>
    { db with edges := db.edges ++ node.parentIds.map fun parent => (parent, node.id) }

def insertRun (run : Run) : Repo Unit := do
  requireReference Db.experiments run.experimentId
  requireReference Db.nodes run.nodeId
  insertRow run

def insertAttempt (attempt : RunAttempt) : Repo Unit := do
  requireReference Db.runs attempt.runId
  let taken ← read fun db => db.attempts.rows.any fun other =>
    other.runId = attempt.runId && other.attemptNumber = attempt.attemptNumber
  require (!taken && 1 ≤ attempt.attemptNumber) (.integrity "idx_run_attempts_number")
  insertRow attempt

/-- The fields of two operations under one id that differ. -/
def operationDiffers (existing requested : RuntimeOperation) : List String :=
  (if existing.target = requested.target then [] else ["target"]) ++
    (if existing.type = requested.type then [] else ["type"]) ++
    (if existing.requestDigest = requested.requestDigest then [] else ["request_digest"]) ++
    (if existing.causedByActionId = requested.causedByActionId then [] else ["caused_by_action_id"])

def assertSameOperation (existing requested : RuntimeOperation) : Repo Unit :=
  require (operationDiffers existing requested).isEmpty
    (.idempotencyConflict existing.id (operationDiffers existing requested) "operation")

/-- Insert an operation, or return the identical existing one. -/
def insertOperation (operation : RuntimeOperation) : Repo RuntimeOperation := do
  let existing ← getRow RuntimeOperation operation.id
  match existing with
  | some stored => do
      assertSameOperation stored operation
      pure stored
  | none => do
      match operation.causedByActionId with
      | none => pure ()
      | some actionId => requireReference Db.actions actionId
      insertRow operation
      pure operation

/-! ## Creation -/

def createExperiment (experiment : Experiment) (actor : Actor) (destinations : List String) :
    Repo Unit := do
  requirePristine experiment.status .created experiment.revision
  insertExperiment experiment
  emit experiment "ExperimentCreated" experiment.id actor destinations

/-- The nodes an id descends from within `fuel` generations. -/
def ancestorsWithin (edges : List (String × String)) : Nat → String → List String
  | 0, _ => []
  | fuel + 1, id =>
      (edges.filter fun edge => edge.2 = id).flatMap fun edge =>
        edge.1 :: ancestorsWithin edges fuel edge.1

/-- Whether a parent may be taken: it is another node of the experiment and no descendant. -/
def parentProblem (db : Db) (node : ExperimentNode) (parentId : String) : Option String :=
  if parentId = node.id then some "cannot be its own parent"
  else
    match db.nodes.find? parentId with
    | none => some "names a parent which does not exist"
    | some parent =>
        if parent.experimentId ≠ node.experimentId then some "lineage may not span experiments"
        else if (ancestorsWithin db.edges db.edges.length parentId).contains node.id then
          some "the edge would close a cycle"
        else none

def validateParents (node : ExperimentNode) : Repo Unit := do
  require (node.parentIds.Nodup) (.lineage "names a parent more than once")
  let problems ← read fun db => node.parentIds.filterMap (parentProblem db node)
  require problems.isEmpty (.lineage (problems.headD ""))

/-- Refuse a node whose stored fingerprint does not describe its candidate. -/
def requireConsistentCandidate (checks : Checks) (node : ExperimentNode) : Repo Unit :=
  require (node.candidateFingerprint = checks.candidateFingerprint node.candidate)
    (.storage "the stored identity would not describe the proposition it indexes")

def createNode (checks : Checks) (node : ExperimentNode) (actor : Actor)
    (destinations : List String) : Repo Unit := do
  requirePristine node.status .created node.revision
  requireConsistentCandidate checks node
  require node.branchOrigin.isNone
    (.provenance "a branch_origin is minted only by materialize_candidate_proposal()")
  validateParents node
  insertNode node
  emit node "NodeCreated" node.experimentId actor destinations

/-- Refuse a run whose ownership, fingerprint or inherited seed contradicts its node's. -/
def requireConsistentRun (run : Run) : Repo Unit := do
  let node ← loadRow ExperimentNode run.nodeId
  require (node.experimentId = run.experimentId)
    (.storage "lineage and provenance would disagree about which experiment owns it")
  require (node.candidateFingerprint = run.candidateFingerprint)
    (.storage "a run realizes its node's candidate, not a different one")
  match run.seedOrigin with
  | none => pure ()
  | some sourceId => do
      let found ← getRow Run sourceId
      let source ← expect found (.storage "inherits its seed from a run that does not exist")
      require (node.parentIds.contains source.nodeId)
        (.storage "inherits its seed from a run that is not of the node's parents")
      require (source.seed = run.seed) (.storage "claims a seed its source does not have")

/-- A run, its creation event and its `max_runs` reservation. -/
def insertRunWithReservation (run : Run) (actor : Actor) (destinations : List String) :
    Repo Unit := do
  requireConsistentRun run
  requireBudget run.experimentId true
  insertRun run
  emit run "RunCreated" run.experimentId actor destinations
  ledger run.experimentId .runs .reserve 1 .run run.id actor destinations

def createRun (run : Run) (actor : Actor) (destinations : List String) : Repo Unit := do
  requirePristine run.status .created run.revision
  insertRunWithReservation run actor destinations

/-- The writes of a new training attempt and its intended submit, after its checks. -/
def recordAttemptIntent (attempt : RunAttempt) (operation : RuntimeOperation)
    (experimentId : String) (actor : Actor) (destinations : List String) :
    Repo RuntimeOperation := do
  let stored ← insertOperation operation
  emit attempt "RunAttemptCreated" experimentId actor destinations
  ledger experimentId .parallelRuns .reserve 1 .trainingAttempt attempt.id actor destinations
  emit stored "RuntimeOperationIntended" experimentId actor destinations
  pure stored

/-- A new training attempt and its `INTENDED` submit, with the quota and the slot they need. -/
def insertTrainingAttemptWithIntent (attempt : RunAttempt) (operation : RuntimeOperation)
    (actor : Actor) (destinations : List String) : Repo RuntimeOperation := do
  let experimentId ← experimentOfRun attempt.runId
  requireBudget experimentId false
  requireCapacity experimentId
  insertAttempt attempt
  recordAttemptIntent attempt operation experimentId actor destinations

/-- The submit operation of an attempt, as it is first intended. -/
def submitOperation (operationId : String) (target : RuntimeOperationTarget)
    (requestDigest : String) (causedByActionId : Option String := none) : RuntimeOperation :=
  { id := operationId, target := target, type := .submit, requestDigest := requestDigest,
    causedByActionId := causedByActionId }

/-- Get-or-create: a training attempt and its `INTENDED` submit operation in one commit. -/
def createAttemptWithSubmitIntent (attempt : RunAttempt) (operationId requestDigest : String)
    (actor : Actor) (destinations : List String) : Repo (RunAttempt × RuntimeOperation) := do
  let operation := submitOperation operationId ⟨.trainingAttempt, attempt.id⟩ requestDigest
  requirePristine attempt.status .created attempt.revision
  let existing ← getRow RuntimeOperation operationId
  match existing with
  | some stored => do
      assertSameOperation stored operation
      let found ← getRow RunAttempt stored.target.id
      let storedAttempt ← expect found
        (.storage "the two are written in one transaction, so this is a corrupted record")
      require (storedAttempt.runId = attempt.runId &&
          storedAttempt.attemptNumber = attempt.attemptNumber)
        (.idempotencyConflict attempt.id ["run_id", "attempt_number"] "attempt")
      pure (storedAttempt, stored)
  | none => do
      let stored ← insertTrainingAttemptWithIntent attempt operation actor destinations
      pure (attempt, stored)

/-! ## Transitions -/

def transitionExperiment (id : String) (expectedRevision : Nat) (newStatus : ExperimentStatus)
    (actor : Actor) (eventType : Option String) (destinations : List String) : Repo Experiment :=
  applyTransition Experiment id expectedRevision newStatus actor eventType destinations

def transitionNode (id : String) (expectedRevision : Nat) (newStatus : ExperimentNodeStatus)
    (actor : Actor) (eventType : Option String) (destinations : List String) :
    Repo ExperimentNode :=
  applyTransition ExperimentNode id expectedRevision newStatus actor eventType destinations

/-- A run does not succeed while its final attempt left a directive unconfirmed. -/
def transitionRun (id : String) (expectedRevision : Nat) (newStatus : RunStatus)
    (actor : Actor) (eventType : Option String) (destinations : List String) : Repo Run := do
  let unconfirmed ← read fun db => db.unconfirmedFinalDirectives id
  require (newStatus ≠ .succeeded || unconfirmed.isEmpty)
    (.provenance "its final attempt did not confirm every intervention it was directed to apply")
  applyTransition Run id expectedRevision newStatus actor eventType destinations

/-- Move an action and journal it: `_update` then `_emit_action`. -/
def settleAction (action : Action) (newStatus : ActionStatus) (outcome : Option ActionOutcome)
    (eventType : String) (actor : Actor) (destinations : List String)
    (extra : EventExtra := .none) : Repo Action := do
  let moved ← expect (action.withStatus newStatus outcome)
    (.invalidTransition "Action" (value action.status) (value newStatus))
  updateRow moved
  emit moved eventType moved.experimentId actor destinations extra
  pure moved

/-- The initial directive of a numerical successor, if it carries one. -/
def Db.initialDirective? (db : Db) (attemptId : String) : Option InterventionDirective :=
  (db.directivesForAttempt attemptId).find? fun directive => directive.kind = .initial

/-- Whether a successor's first effect was confirmed by the worker. -/
def Db.initialConfirmed (db : Db) (attemptId : String) : Bool :=
  match db.initialDirective? attemptId with
  | none => false
  | some directive => (db.applications.find? directive.applicationId).isSome

/-- A successor that ended without confirming its first effect fails the action. -/
def failUnconfirmedNumericalAction (attempt : RunAttempt) (actor : Actor)
    (destinations : List String) : Repo Unit :=
  if attempt.isTerminal then do
    let receipt ← read fun db => db.numericalReceipts.rows.find? fun receipt =>
      receipt.successorAttemptId = some attempt.id
    match receipt with
    | none => pure ()
    | some receipt => do
        let found ← getRow Action receipt.actionId
        match found with
        | none => pure ()
        | some action => do
            let confirmed ← read fun db => db.initialConfirmed attempt.id
            if receipt.outcome = .executed ∧ action.status = .executing ∧ !confirmed then do
              let _ ← settleAction action .failed none "ActionFailed" actor destinations
                (.other "successor ended before confirming the intervention's effect")
              pure ()
            else pure ()
  else pure ()

/-- The cursor advances to the telemetry event that caused the transition, in one commit. -/
def transitionAttempt (id : String) (expectedRevision : Nat) (newStatus : RunAttemptStatus)
    (actor : Actor) (eventType : Option String) (destinations : List String)
    (telemetryPosition : Option (Nat × Nat)) : Repo RunAttempt :=
  applyTransition RunAttempt id expectedRevision newStatus actor eventType destinations
    fun moved => do
      advanceTelemetryGiven ⟨.trainingAttempt, moved.id⟩ telemetryPosition
      failUnconfirmedNumericalAction moved actor destinations

/-- Record an artifact an attempt produced; the producer is made explicit. -/
def recordArtifact (attemptId : String) (artifact : ArtifactRef) (expectedRevision : Nat)
    (actor : Actor) (destinations : List String) (telemetryPosition : Option (Nat × Nat)) :
    Repo RunAttempt := do
  require (artifact.producerAttemptId = none || artifact.producerAttemptId = some attemptId)
    (.provenance "recording it here would misattribute it")
  let current ← loadAt RunAttempt attemptId expectedRevision
  let recorded ← expect
    (current.withArtifact { artifact with producerAttemptId := some attemptId })
    (.value "attempt already records the artifact")
  updateRow recorded
  let owner ← experimentOfRun recorded.runId
  emit recorded "ArtifactRecorded" owner actor destinations (.other artifact.content)
  advanceTelemetryGiven ⟨.trainingAttempt, attemptId⟩ telemetryPosition
  pure recorded

/-! ## Operations -/

/-- A numerical action whose submission definitively failed fails with it. -/
def settleNumericalSubmission (operation : RuntimeOperation) (state : OperationState)
    (actor : Actor) (destinations : List String) : Repo Unit :=
  match operation.causedByActionId with
  | none => pure ()
  | some actionId =>
      if operation.type = .submit ∧ state = .failed then do
        let receipt ← read fun db => db.numericalReceipts.find? actionId
        let found ← getRow Action actionId
        match receipt, found with
        | some _, some action =>
            if action.status = .executing then do
              let _ ← settleAction action .failed none "ActionFailed" actor destinations
              pure ()
            else pure ()
        | _, _ => pure ()
      else pure ()

/-- An OOM action succeeds or fails with its confirmed or failed submission. -/
def settleOOMSubmission (operation : RuntimeOperation) (state : OperationState)
    (actor : Actor) (destinations : List String) : Repo Unit :=
  match operation.causedByActionId with
  | none => pure ()
  | some actionId =>
      if operation.type = .submit ∧ (state = .confirmed ∨ state = .failed) then do
        let binding ← read fun db => db.oomBindings.find? actionId
        match binding with
        | none => pure ()
        | some _ => do
            let found ← getRow Action actionId
            let action ← expect found (.domain "AssertionError")
            if action.status = .executing then
              if state = .confirmed then do
                let _ ← settleAction action .succeeded (some .applied) "ActionApplied" actor
                  destinations
                pure ()
              else do
                let _ ← settleAction action .failed none "ActionFailed" actor destinations
                pure ()
            else pure ()
      else pure ()

/-- `RuntimeOperationSent`, `RuntimeOperationConfirmed` or `RuntimeOperationFailed`. -/
def operationEvent : OperationState → String
  | .intended => "RuntimeOperationIntended"
  | .sent => "RuntimeOperationSent"
  | .confirmed => "RuntimeOperationConfirmed"
  | .failed => "RuntimeOperationFailed"

/-- `_settle`: record an operation's outcome and everything that follows from it. -/
def settleOperation (operationId : String) (state : OperationState) (expectedRevision : Nat)
    (actor : Actor) (runtimeRef : Option Document) (destinations : List String) :
    Repo RuntimeOperation := do
  let current ← loadAt RuntimeOperation operationId expectedRevision
  require (!(state = .confirmed && current.type = .submit) ||
      (runtimeRef <|> current.runtimeRef).isSome)
    (.storage "a submit operation cannot be confirmed without a RuntimeRef")
  let moved ← expect (current.withState state runtimeRef)
    (.invalidTransition "RuntimeOperation" (value current.state) (value state))
  let experimentId ← experimentOfAttempt moved.target
  updateRow moved
  if state = .confirmed ∧ moved.type = .submit ∧ moved.target.kind = .trainingAttempt then
    commitBudget experimentId moved.target.id actor destinations
  else pure ()
  emit moved (operationEvent state) experimentId actor destinations
  settleNumericalSubmission moved state actor destinations
  settleOOMSubmission moved state actor destinations
  pure moved

def confirmOperation (operationId : String) (expectedRevision : Nat) (actor : Actor)
    (runtimeRef : Option Document) (destinations : List String) : Repo RuntimeOperation :=
  settleOperation operationId .confirmed expectedRevision actor runtimeRef destinations

def markOperationSent (operationId : String) (expectedRevision : Nat) (actor : Actor)
    (destinations : List String) : Repo RuntimeOperation :=
  settleOperation operationId .sent expectedRevision actor none destinations

def failOperation (operationId : String) (expectedRevision : Nat) (actor : Actor)
    (destinations : List String) : Repo RuntimeOperation :=
  settleOperation operationId .failed expectedRevision actor none destinations

end Xaytune.Storage
