import Xaytune.Library.Obligations
import Xaytune.Storage.Cancellation
import Xaytune.Storage.Planning
import Xaytune.Storage.RecoveryExecution

/-!
# What a write can do

Every repository operation is a chain of the writes below: one row inserted or
moved, one event journalled, one ledger entry posted. A write that begins
something names what the transaction owes before it commits: the event of a row,
the ledger entry of a new or ended subject, the rest of a cancellation being opened.
The guards are what the code checks, or what it relies on, at that statement. An
action is moved and journalled by one statement of its own, so its event is never owed.
-/

namespace Xaytune.Storage

open Xaytune.Core Xaytune.Library

/-! ## Moves -/

/-- What a method's copy changes of an experiment that had not ended. -/
def ExperimentMoves (old new : Experiment) : Prop :=
  ∃ status best, experimentMachine.can old.status status = true ∧
    new = { old with status := status, bestNodeId := best, revision := old.revision + 1 }

def NodeMoves (old new : ExperimentNode) : Prop :=
  ∃ status cycle decisions, nodeMachine.can old.status status = true ∧
    new = { old with
      status := status, evaluationCycle := cycle, decisionIds := decisions
      revision := old.revision + 1 }

def RunMoves (old new : Run) : Prop :=
  ∃ status, runMachine.can old.status status = true ∧
    new = { old with status := status, revision := old.revision + 1 }

/-- An artifact is recorded without a status change, also on an attempt that has ended. -/
def AttemptMoves (old new : RunAttempt) : Prop :=
  ∃ status artifacts, (attemptMachine.can old.status status = true ∨ status = old.status) ∧
    new = { old with status := status, artifactRefs := artifacts, revision := old.revision + 1 }

def EvaluationRunMoves (old new : EvaluationRun) : Prop :=
  ∃ status, evaluationRunMachine.can old.status status = true ∧
    new = { old with status := status, revision := old.revision + 1 }

def EvaluationAttemptMoves (old new : EvaluationAttempt) : Prop :=
  ∃ status, evaluationAttemptMachine.can old.status status = true ∧
    new = { old with status := status, revision := old.revision + 1 }

/-- A policy decision may leave a validated action where it is. -/
def ActionMoves (old new : Action) : Prop :=
  ∃ status outcome decision,
    (actionMachine.can old.status status = true ∨
      (status = old.status ∧ old.status = .validated)) ∧
    new = { old with
      status := status, outcome := outcome, policyDecisionId := decision
      revision := old.revision + 1 }

def OperationMoves (old new : RuntimeOperation) : Prop :=
  ∃ state ref, operationMachine.can old.state state = true ∧
    new = { old with state := state, runtimeRef := ref, revision := old.revision + 1 }

theorem ExperimentMoves.id {old new : Experiment} (moved : ExperimentMoves old new) :
    new.id = old.id := by
  obtain ⟨_, _, _, rfl⟩ := moved
  rfl

theorem NodeMoves.id {old new : ExperimentNode} (moved : NodeMoves old new) : new.id = old.id := by
  obtain ⟨_, _, _, _, rfl⟩ := moved
  rfl

theorem RunMoves.id {old new : Run} (moved : RunMoves old new) : new.id = old.id := by
  obtain ⟨_, _, rfl⟩ := moved
  rfl

theorem AttemptMoves.id {old new : RunAttempt} (moved : AttemptMoves old new) :
    new.id = old.id := by
  obtain ⟨_, _, _, rfl⟩ := moved
  rfl

theorem EvaluationRunMoves.id {old new : EvaluationRun} (moved : EvaluationRunMoves old new) :
    new.id = old.id := by
  obtain ⟨_, _, rfl⟩ := moved
  rfl

theorem EvaluationAttemptMoves.id {old new : EvaluationAttempt}
    (moved : EvaluationAttemptMoves old new) : new.id = old.id := by
  obtain ⟨_, _, rfl⟩ := moved
  rfl

theorem ActionMoves.id {old new : Action} (moved : ActionMoves old new) : new.id = old.id := by
  obtain ⟨_, _, _, _, rfl⟩ := moved
  rfl

theorem OperationMoves.id {old new : RuntimeOperation} (moved : OperationMoves old new) :
    new.id = old.id := by
  obtain ⟨_, _, _, rfl⟩ := moved
  rfl

/-! ## What the record says -/

/-- The revision and status of the aggregate stored under a key. -/
def Db.standing (db : Db) (key : AggregateKey) : Option (Nat × String) :=
  match key.kind with
  | .experiment => (db.experiments.find? key.id).map fun row => (row.revision, value row.status)
  | .experimentNode => (db.nodes.find? key.id).map fun row => (row.revision, value row.status)
  | .run => (db.runs.find? key.id).map fun row => (row.revision, value row.status)
  | .runAttempt => (db.attempts.find? key.id).map fun row => (row.revision, value row.status)
  | .evaluationRun =>
      (db.evaluationRuns.find? key.id).map fun row => (row.revision, value row.status)
  | .evaluationAttempt =>
      (db.evaluationAttempts.find? key.id).map fun row => (row.revision, value row.status)
  | .action => (db.actions.find? key.id).map fun row => (row.revision, value row.status)
  | .runtimeOperation =>
      (db.operations.find? key.id).map fun row => (row.revision, value row.state)

/-- The experiment a budget subject belongs to. -/
def Db.ownerOf? (db : Db) : BudgetSubjectKind → String → Option String
  | .run, id => (db.runs.find? id).map Run.experimentId
  | .trainingAttempt, id =>
      (db.attempts.find? id).bind fun attempt =>
        (db.runs.find? attempt.runId).map Run.experimentId
  | .evaluationAttempt, id =>
      (db.evaluationAttempts.find? id).bind fun attempt =>
        (db.evaluationRuns.find? attempt.evaluationRunId).map EvaluationRun.experimentId

/-- The limit an experiment sets on a dimension. -/
def Db.limitOn (db : Db) (experimentId : String) (dimension : BudgetDimension) : Option Int :=
  (db.experiments.find? experimentId).bind fun experiment => limit? experiment.budget dimension

/-- The entry is written, if the subject's experiment limits the dimension. -/
def Db.Accounted (db : Db) (subjectKind : BudgetSubjectKind) (subjectId : String)
    (dimension : BudgetDimension) (kind : LedgerEntryKind) : Prop :=
  ∀ experimentId, db.ownerOf? subjectKind subjectId = some experimentId →
    (db.limitOn experimentId dimension).isSome →
      (db.entryOf subjectKind subjectId dimension kind).isSome

/-- An attempt of either kind is stored. -/
def Db.hasAttempt (db : Db) (kind : ActionTargetKind) (id : String) : Prop :=
  match kind with
  | .trainingAttempt => ∃ attempt, db.attempts.find? id = some attempt
  | .evaluationAttempt => ∃ attempt, db.evaluationAttempts.find? id = some attempt
  | _ => False

/-! ## Debts -/

/-- What a transaction has begun and must finish before it commits. -/
inductive Owed where
  | event (key : AggregateKey)
  | slot (attemptId : String)
  | release (attemptId : String)
  | quota (runId : String)
  | settlement (runId : String)
  | failure (kind : AttemptKind) (attemptId : String)
  | commit (operationId : String)
  | opening (actionId : String)
  | success (runId : String)
  | decision (nodeId decisionId : String)
  deriving DecidableEq

abbrev Debt := List Owed

def budgetSubject : AttemptKind → BudgetSubjectKind
  | .trainingAttempt => .trainingAttempt
  | .evaluationAttempt => .evaluationAttempt

/-- What is owed has been done. -/
def Paid (db : Db) : Owed → Prop
  | .event key => ∃ event ∈ db.events, event.aggregate = key ∧
      db.standing key = some (event.aggregateRevision, event.status)
  | .slot id => db.Accounted .trainingAttempt id .parallelRuns .reserve
  | .release id => db.Accounted .trainingAttempt id .parallelRuns .release
  | .quota id => db.Accounted .run id .runs .reserve
  | .settlement id => db.Accounted .run id .runs .release ∨ db.Accounted .run id .runs .consume
  | .failure kind id => db.Accounted (budgetSubject kind) id .failures .consume
  | .commit id => ∀ operation, db.operations.find? id = some operation →
      db.Accounted .trainingAttempt operation.target.id .parallelRuns .commit ∧
        ∀ attempt, db.attempts.find? operation.target.id = some attempt →
          db.Accounted .run attempt.runId .runs .commit
  | .opening id => ∀ action, db.actions.find? id = some action →
      action.status = .executing ∨ action.isTerminal = true
  | .success id => (∃ run, db.evaluationRuns.find? id = some run ∧ run.status = .succeeded) ∧
      (db.evaluationResultForRun id).isSome
  | .decision nodeId id => ∃ decision, db.decisions.find? id = some decision ∧
      decision.proposal.nodeId = nodeId

/-- What ending a training attempt leaves to be accounted. -/
def attemptDebt (old new : RunAttempt) : Debt :=
  if new.isTerminal ∧ !old.isTerminal then
    .release new.id :: if new.status = .failed then [.failure .trainingAttempt new.id] else []
  else []

def evaluationAttemptDebt (new : EvaluationAttempt) : Debt :=
  if new.status = .failed then [.failure .evaluationAttempt new.id] else []

/-- An evaluation attempt succeeds with its run and the result they measured. -/
def successDebt (new : EvaluationAttempt) : Debt :=
  if new.status = .succeeded then [.success new.evaluationRunId] else []

/-- A node names a decision before it is recorded. -/
def nodeDebt (old new : ExperimentNode) : Debt :=
  (new.decisionIds.drop old.decisionIds.length).map (Owed.decision new.id)

def runDebt (new : Run) : Debt := if new.isTerminal then [.settlement new.id] else []

def actionDebt (new : Action) : Debt := if new.isCancellation then [.opening new.id] else []

/-- A confirmed training submission commits its slot and its run. -/
def submitConfirmed (operation : RuntimeOperation) : Bool :=
  operation.state = .confirmed && operation.type = .submit &&
    operation.target.kind = .trainingAttempt

def operationDebt (new : RuntimeOperation) : Debt :=
  if submitConfirmed new then [.commit new.id] else []

/-! ## Licences -/

/-- What an operation may do that the others may not. -/
structure Licence where
  /-- The experiments that may be given nodes, runs and attempts whatever their status. -/
  orphans : String → Prop := fun _ => False
  /-- Whether a run's quota may be settled otherwise than by what was committed when it ended. -/
  late : Prop := False
  /-- Whether a run's transition may be journalled under an intervention's event type. -/
  retyped : Prop := False
  /-- Whether a cancellation recorded earlier may be settled. -/
  settles : Prop := False
  /-- The submissions that may be accepted. -/
  accepts : String → Prop := fun _ => False
  /-- Whether a node may be decided on, or be created decided, before its cycle has ended. -/
  skips : Prop := False
  /-- The nodes that may be created. -/
  plants : ExperimentNode → Prop := fun _ => False
  /-- The positions an attempt's cursor may be moved to. -/
  streams : RuntimeOperationTarget → Nat × Int → Prop := fun _ _ => False

/-- The licence that permits whatever one may. -/
def Licence.unlimited : Licence :=
  ⟨fun _ => True, True, True, True, fun _ => True, True, fun _ => True, fun _ _ => True⟩

/-- A cancellation of an attempt that is settled where it is opened says how its target ended. -/
def OpensTrue (db : Db) (new : Action) : Prop :=
  new.type = "cancel-attempt" → new.isTerminal = true →
    ∃ state, db.targetState? new.target = .ok state ∧ new.status = .succeeded ∧
      new.outcome = state.terminalOutcome ∧ new.outcome.isSome = true

/-- No evaluation run of the node's current cycle is still to end. -/
def CycleEnded (db : Db) (node : ExperimentNode) : Prop :=
  ∀ id run, db.evaluationRuns.find? id = some run → run.nodeId = node.id →
    run.evaluationCycle = node.evaluationCycle → run.isTerminal = true

/-- A cycle begins with each evaluation, and a decision closes the node it is about. -/
structure NodeAdvances (L : Licence) (d : Debt) (db : Db) (old new : ExperimentNode) : Prop where
  cycle : new.evaluationCycle =
    if new.status = .evaluating then old.evaluationCycle + 1 else old.evaluationCycle
  decisions : new.decisionIds = old.decisionIds ∨
    (old.status = .deciding ∧ new.isTerminal = true ∧ ∃ id,
      new.decisionIds = old.decisionIds ++ [id])
  deciding : new.status = .deciding → L.skips ∨ (d = [] ∧ CycleEnded db old)

/-- The decision a node has just named: the first of its cycle, on exactly the cycle's results. -/
structure Decides (d : Debt) (db : Db) (row : Decision) : Prop where
  named : .decision row.proposal.nodeId row.id ∈ d
  cycle : ∃ node, db.nodes.find? row.proposal.nodeId = some node ∧
    node.evaluationCycle = row.proposal.evaluationCycle
  results : ∀ id, id ∈ row.proposal.evaluationResultIds ↔
    ∃ run result, run ∈ db.evaluationRunsOfCycle row.proposal.nodeId row.proposal.evaluationCycle ∧
      db.evaluationResultForRun run.id = some result ∧ result.id = id

/-- The result of a run that has just succeeded, which had none. -/
structure NewResult (d : Debt) (db : Db) (row : EvaluationResult) : Prop where
  succeeds : .success row.evaluationRunId ∈ d
  run : ∃ run, db.evaluationRuns.find? row.evaluationRunId = some run ∧ run.status = .succeeded
  first : db.evaluationResultForRun row.evaluationRunId = none

/-- The payload of an event that no projection takes apart. -/
def isPlain : EventExtra → Bool
  | .trainingIntervention _ | .interventionApplication _ _ => false
  | .overrun dimension _ _ => dimension ≠ .failures
  | _ => true

/-- The events that say an action was answered, turned down or begun. -/
def governingEvents : List String :=
  ["ActionApproved", "ActionApprovalDenied", "ActionRejected", "ActionExecuting"]

/-- An event journalled by itself is not taken for an intervention's, nor for an action's move. -/
def TypedAs (L : Licence) (kind : AggregateKind) (eventType : String) : Prop :=
  (L.retyped ∨ eventType ≠ "TrainingInterventionRecorded" ∨ kind ≠ .run) ∧
    (kind = .action → eventType ∉ governingEvents)

/-- What the event of an action's move says of it: an action is approved, denied or begun under
that event only, and the approval is a human's. -/
structure MoveTells (old : Action) (status : ActionStatus) (eventType : String) (actor : Actor) :
    Prop where
  approved : eventType = "ActionApproved" ↔ status = .approved
  denied : eventType = "ActionApprovalDenied" → old.status = .approvalPending ∧ status = .rejected
  rejected : eventType = "ActionRejected" → status = .rejected
  executing : eventType = "ActionExecuting" ↔ status = .executing
  human : eventType = "ActionApproved" → actor.type = "human"

/-- The event of an action's move. -/
structure ActionEvent (old new : Action) (event : DomainEvent) : Prop where
  aggregate : event.aggregate = ⟨.action, new.id⟩
  revision : event.aggregateRevision = new.revision
  status : event.status = value new.status
  plain : isPlain event.extra = true
  tells : MoveTells old new.status event.eventType event.actor

/-- A governed action is begun on its decision: allowed, or approved where approval was required. -/
def Authorizes (db : Db) (old new : Action) : Prop :=
  new.status = .executing → old.isCancellation = false →
    ∃ decision ∈ db.policyDecisions.rows, decision.actionId = old.id ∧
      ((old.status = .validated ∧ decision.verdict = .allow) ∨
        (old.status = .approved ∧ decision.verdict = .requireApproval))

/-- What an entry posted by itself is about. -/
def Postable (L : Licence) (d : Debt) (db : Db) (entry : BudgetLedgerEntry) : Prop :=
  match entry.dimension, entry.kind, entry.subjectKind with
  | .parallelRuns, .reserve, .trainingAttempt => .slot entry.subjectId ∈ d
  | .parallelRuns, .commit, .trainingAttempt => True
  | .parallelRuns, .release, .trainingAttempt =>
      ∃ attempt, db.attempts.find? entry.subjectId = some attempt ∧ attempt.isTerminal = true
  | .runs, .reserve, .run => .quota entry.subjectId ∈ d
  | .runs, .commit, .run =>
      L.late ∨ ∃ run, db.runs.find? entry.subjectId = some run ∧ run.isTerminal = false
  | .runs, .release, .run =>
      (∃ run, db.runs.find? entry.subjectId = some run ∧ run.isTerminal = true) ∧
        (L.late ∨ db.entryOf .run entry.subjectId .runs .commit = none)
  | .runs, .consume, .run =>
      (∃ run, db.runs.find? entry.subjectId = some run ∧ run.isTerminal = true) ∧
        (L.late ∨ (db.entryOf .run entry.subjectId .runs .commit).isSome)
  | _, _, _ => False

/-- The entry is for one, and for the experiment that owns its subject and limits its dimension. -/
structure Owned (db : Db) (entry : BudgetLedgerEntry) : Prop where
  one : entry.amount = 1
  owner : db.ownerOf? entry.subjectKind entry.subjectId = some entry.experimentId
  limited : (db.limitOn entry.experimentId entry.dimension).isSome

/-- The events of a failure that took consumption past the limit. -/
def overrunEvents (experiment : Experiment) (limit : Int) (before after : List BudgetLedgerEntry)
    (actor : Actor) : List DomainEvent :=
  if (dimensionStatus after .failures limit).overrun &&
      !(dimensionStatus before .failures limit).overrun then
    [eventOf experiment "BudgetOverrun" experiment.id actor
      (.overrun .failures limit (dimensionStatus after .failures limit).consumed)]
  else []

/-- The tables beside the aggregates, taken from another database. -/
def Db.withAux (db other : Db) : Db :=
  { db with
    results := other.results
    decisions := other.decisions, policyDecisions := other.policyDecisions
    incidents := other.incidents, checkpointReceipts := other.checkpointReceipts
    memberships := other.memberships, plans := other.plans, oomReceipts := other.oomReceipts
    directives := other.directives, requests := other.requests, rests := other.rests
    invocations := other.invocations, metricPoints := other.metricPoints
    telemetry := other.telemetry, pendingCompletions := other.pendingCompletions }

/-! ## New rows -/

structure NewExperiment (row : Experiment) : Prop where
  pristine : row.revision = 0
  created : row.status = .created

/-- The parents of a new node: distinct, stored, of its experiment and not the node itself. -/
structure Lineage (db : Db) (row : ExperimentNode) : Prop where
  distinct : row.parentIds.Nodup
  parents : ∀ parentId ∈ row.parentIds, parentId ≠ row.id ∧
    ∃ parent, db.nodes.find? parentId = some parent ∧ parent.experimentId = row.experimentId

/-- A node is given to an experiment that has not ended, unless the licence says otherwise. -/
structure NewNode (L : Licence) (db : Db) (row : ExperimentNode) : Prop where
  pristine : row.revision = 0
  owner : ∃ experiment, db.experiments.find? row.experimentId = some experiment ∧
    (L.orphans row.experimentId ∨ experiment.isTerminal = false)
  lineage : Lineage db row
  created : row.status = .created
  undecided : L.skips ∨ row.decisionIds = []
  planted : L.plants row

/-- A run belongs to its node's experiment, and its quota has one left. -/
structure NewRun (L : Licence) (db : Db) (row : Run) : Prop where
  pristine : row.revision = 0
  created : row.status = .created
  node : ∃ node, db.nodes.find? row.nodeId = some node ∧ node.experimentId = row.experimentId
  owner : ∃ experiment, db.experiments.find? row.experimentId = some experiment ∧
    (L.orphans row.experimentId ∨ experiment.isTerminal = false) ∧
    ∀ limit, limit? experiment.budget .runs = some limit →
      1 ≤ (dimensionStatus (db.entries experiment.id) .runs limit).remaining

/-- An attempt is given to a run that has not ended, and a slot is free. -/
structure NewAttempt (L : Licence) (db : Db) (row : RunAttempt) : Prop where
  pristine : row.revision = 0
  created : row.status = .created
  owner : ∃ run experiment, db.runs.find? row.runId = some run ∧
    db.experiments.find? run.experimentId = some experiment ∧
    (L.orphans run.experimentId ∨ run.isTerminal = false) ∧
    ∀ limit, limit? experiment.budget .parallelRuns = some limit →
      (dimensionStatus (db.entries experiment.id) .parallelRuns limit).outstanding < limit

structure NewEvaluationRun (db : Db) (row : EvaluationRun) : Prop where
  pristine : row.revision = 0
  node : ∃ node, db.nodes.find? row.nodeId = some node ∧
    node.experimentId = row.experimentId ∧ node.isTerminal = false
  created : row.status = .created
  evaluating : ∀ node, db.nodes.find? row.nodeId = some node → node.status = .evaluating

structure NewEvaluationAttempt (db : Db) (row : EvaluationAttempt) : Prop where
  pristine : row.revision = 0
  created : row.status = .created
  run : ∃ run, db.evaluationRuns.find? row.evaluationRunId = some run ∧ run.isTerminal = false

/-- Only a cancellation of an attempt is another action's child; a cancellation has its target. -/
structure NewAction (db : Db) (row : Action) : Prop where
  pristine : row.revision = 0
  proposed : row.status = .proposed
  child : row.parentActionId.isSome → row.type = "cancel-attempt"
  target : row.type = "cancel-attempt" → db.hasAttempt row.target.kind row.target.id
  saga : row.type = "cancel-experiment" →
    ∃ experiment, db.experiments.find? row.target.id = some experiment

/-- A cancellation causes an operation only while it is being opened. -/
structure NewOperation (d : Debt) (db : Db) (row : RuntimeOperation) : Prop where
  pristine : row.revision = 0
  intended : row.state = .intended
  target : db.hasAttempt row.target.kind.toActionTargetKind row.target.id
  caused : ∀ actionId, row.causedByActionId = some actionId → ∃ action,
    db.actions.find? actionId = some action ∧
      (action.isCancellation = true → .opening actionId ∈ d)

/-! ## Tables replaced -/

namespace Db

def setExperiments (db : Db) (table : Table Experiment.id) : Db := { db with experiments := table }
def setNodes (db : Db) (table : Table ExperimentNode.id) : Db := { db with nodes := table }
def setRuns (db : Db) (table : Table Run.id) : Db := { db with runs := table }
def setAttempts (db : Db) (table : Table RunAttempt.id) : Db := { db with attempts := table }
def setEvaluationRuns (db : Db) (table : Table EvaluationRun.id) : Db :=
  { db with evaluationRuns := table }
def setEvaluationAttempts (db : Db) (table : Table EvaluationAttempt.id) : Db :=
  { db with evaluationAttempts := table }
def setActions (db : Db) (table : Table Action.id) : Db := { db with actions := table }
def setOperations (db : Db) (table : Table RuntimeOperation.id) : Db :=
  { db with operations := table }

/-- The edges of a new node, one for each of its parents. -/
def addEdges (db : Db) (node : ExperimentNode) : Db :=
  { db with edges := db.edges ++ node.parentIds.map fun parent => (parent, node.id) }

/-- The ledger, the journal and its deliveries. -/
def setBooks (db : Db) (ledger : Table BudgetLedgerEntry.key) (events : List DomainEvent)
    (outbox : List OutboxRecord) : Db :=
  { db with ledger := ledger, events := events, outbox := outbox }

def setLedger (db : Db) (ledger : Table BudgetLedgerEntry.key) : Db := { db with ledger := ledger }

end Db

/-! ## Tables beside the aggregates -/

/-- A planning round is asked again only once every attempt of it is closed, for the same
request. -/
structure NewInvocation (db : Db) (row : AgentInvocation) : Prop where
  intended : row.status = .intended
  numbered : row.attempt =
    1 + ((db.latestForRound row.intent.roundKey).map AgentInvocation.attempt).getD 0
  closed : ∀ other ∈ db.invocations, other.intent.roundKey = row.intent.roundKey →
    other.status = .failed ∨ other.status = .outcomeUnknown
  request : db.latestForRound row.intent.roundKey = none ∨
    ∃ other ∈ db.invocations, other.intent.roundKey = row.intent.roundKey ∧
      other.intent.requestFingerprint = row.intent.requestFingerprint

/-- An invocation keeps what was asked and moves along its edges. -/
def InvocationMoves (old new : AgentInvocation) : Prop :=
  ∃ status response failure proposal, agentInvocationMachine.can old.status status = true ∧
    new = { old with
      status := status, response := response, failure := failure, proposal := proposal
      revision := old.revision + 1 }

/-- One statement over a table beside the aggregates. -/
inductive Aside (L : Licence) (d : Debt) (db : Db) : Db → Prop
  | result (row : EvaluationResult) (table : Table EvaluationResult.id)
      (inserted : db.results.insert? row = some table) (new : NewResult d db row) :
      Aside L d db { db with results := table }
  | decision (row : Decision) (table : Table Decision.id)
      (inserted : db.decisions.insert? row = some table) (decides : Decides d db row) :
      Aside L d db { db with decisions := table }
  | policyDecision (row : PolicyDecision) (table : Table PolicyDecision.id)
      (inserted : db.policyDecisions.insert? row = some table)
      (first : db.decisionForAction row.actionId = none)
      (governs : ∃ action, db.actions.find? row.actionId = some action ∧
        action.isCancellation = false) :
      Aside L d db { db with policyDecisions := table }
  | incident (row : Incident) (table : Table Incident.id)
      (inserted : db.incidents.insert? row = some table) :
      Aside L d db { db with incidents := table }
  | checkpointReceipt (row : CheckpointReceipt) (table : Table CheckpointReceipt.key)
      (inserted : db.checkpointReceipts.insert? row = some table) :
      Aside L d db { db with checkpointReceipts := table }
  | membership (row : RecoveryEpisodeIncident) (table : Table RecoveryEpisodeIncident.incidentId)
      (inserted : db.memberships.insert? row = some table) :
      Aside L d db { db with memberships := table }
  | plan (row : RecoveryPlan) (table : Table RecoveryPlan.id)
      (inserted : db.plans.insert? row = some table) : Aside L d db { db with plans := table }
  | oomReceipt (row : RecoveryExecutionReceipt) (table : Table RecoveryExecutionReceipt.actionId)
      (inserted : db.oomReceipts.insert? row = some table) :
      Aside L d db { db with oomReceipts := table }
  | directive (row : DirectiveRow) (table : Table DirectiveRow.id)
      (inserted : db.directives.insert? row = some table) :
      Aside L d db { db with directives := table }
  | request (row : ControllerRequest) (table : Table ControllerRequest.id)
      (inserted : db.requests.insert? row = some table) (pending : row.state = .pending) :
      Aside L d db { db with requests := table }
  | moveRequest (old new : ControllerRequest) (state : ControllerRequestState)
      (error : Option Document) (found : db.requests.find? old.id = some old)
      (moved : old.withState state error = some new)
      (accepted : state = .accepted → L.accepts old.id) :
      Aside L d db { db with requests := db.requests.replace new }
  | rest (row : ControllerRest) : Aside L d db { db with rests := db.rests.put row }
  | invocation (row : AgentInvocation) (table : Table AgentInvocation.id)
      (inserted : db.invocations.insert? row = some table) (new : NewInvocation db row) :
      Aside L d db { db with invocations := table }
  | moveInvocation (old new : AgentInvocation) (found : db.invocations.find? old.id = some old)
      (moved : InvocationMoves old new) :
      Aside L d db { db with invocations := db.invocations.replace new }
  | metricPoints (row : MetricPoints) (table : Table MetricPoints.key)
      (inserted : db.metricPoints.insert? row = some table) :
      Aside L d db { db with metricPoints := table }
  | telemetry (cursor : TelemetryCursor)
      (advanced : (db.telemetryPosition cursor.target).1 < cursor.generation ∨
        ((db.telemetryPosition cursor.target).1 = cursor.generation ∧
          (db.telemetryPosition cursor.target).2 < cursor.sequence))
      (streams : L.streams cursor.target (cursor.generation, cursor.sequence)) :
      Aside L d db (db.setTelemetry cursor)
  | pendingCompletion (row : PendingCompletion) (table : Table PendingCompletion.attemptId)
      (inserted : db.pendingCompletions.insert? row = some table) :
      Aside L d db { db with pendingCompletions := table }

/-! ## Writes -/

/-- One write of a transaction: from what was owed at a database to what is owed at the next. -/
inductive Write (L : Licence) : Debt → Db → Debt → Db → Prop
  | aux {d : Debt} {db : Db} (other : Db) (aside : Aside L d db other) :
      Write L d db d (db.withAux other)
  | pay {d : Debt} {db : Db} (d' : Debt) (paid : ∀ owed ∈ d, owed ∈ d' ∨ Paid db owed)
      (nothing : ∀ owed ∈ d', owed ∈ d) : Write L d db d' db
  | note {d : Debt} {db : Db} (event : DomainEvent) (destinations : List String)
      (stands : db.standing event.aggregate = some (event.aggregateRevision, event.status))
      (plain : isPlain event.extra = true)
      (typed : TypedAs L event.aggregate.kind event.eventType) :
      Write L d db d (db.record event destinations)
  | post {d : Debt} {db : Db} (entry : BudgetLedgerEntry) (table : Table BudgetLedgerEntry.key)
      (inserted : db.ledger.insert? entry = some table) (owned : Owned db entry)
      (postable : Postable L d db entry) : Write L d db d (db.setLedger table)
  | fail {d : Debt} {db : Db} (entry : BudgetLedgerEntry) (table : Table BudgetLedgerEntry.key)
      (kind : AttemptKind) (experiment : Experiment) (limit : Int) (actor : Actor)
      (outbox : List OutboxRecord)
      (inserted : db.ledger.insert? entry = some table) (owned : Owned db entry)
      (consumed : entry.dimension = .failures ∧ entry.kind = .consume ∧
        entry.subjectKind = budgetSubject kind)
      (failed : match kind with
        | .trainingAttempt => ∃ attempt, db.attempts.find? entry.subjectId = some attempt ∧
            attempt.status = .failed
        | .evaluationAttempt => ∃ attempt,
            db.evaluationAttempts.find? entry.subjectId = some attempt ∧ attempt.status = .failed)
      (found : db.experiments.find? entry.experimentId = some experiment)
      (limited : limit? experiment.budget .failures = some limit) :
      Write L d db d (db.setBooks table
        (db.events ++ overrunEvents experiment limit (db.entries experiment.id)
          ((db.setLedger table).entries experiment.id) actor) outbox)
  | insertExperiment {d : Debt} {db : Db} (row : Experiment) (table : Table Experiment.id)
      (inserted : db.experiments.insert? row = some table) (new : NewExperiment row) :
      Write L d db (.event ⟨.experiment, row.id⟩ :: d) (db.setExperiments table)
  | insertNode {d : Debt} {db : Db} (row : ExperimentNode) (table : Table ExperimentNode.id)
      (inserted : db.nodes.insert? row = some table) (new : NewNode L db row) :
      Write L d db (.event ⟨.experimentNode, row.id⟩ :: d)
        ((db.setNodes table).addEdges row)
  | insertRun {db : Db} (row : Run) (table : Table Run.id)
      (inserted : db.runs.insert? row = some table) (new : NewRun L db row) :
      Write L [] db [.event ⟨.run, row.id⟩, .quota row.id] (db.setRuns table)
  | insertAttempt {db : Db} (row : RunAttempt) (table : Table RunAttempt.id)
      (inserted : db.attempts.insert? row = some table) (new : NewAttempt L db row) :
      Write L [] db [.event ⟨.runAttempt, row.id⟩, .slot row.id] (db.setAttempts table)
  | insertEvaluationRun {d : Debt} {db : Db} (row : EvaluationRun) (table : Table EvaluationRun.id)
      (inserted : db.evaluationRuns.insert? row = some table) (new : NewEvaluationRun db row) :
      Write L d db (.event ⟨.evaluationRun, row.id⟩ :: d) (db.setEvaluationRuns table)
  | insertEvaluationAttempt {d : Debt} {db : Db} (row : EvaluationAttempt)
      (table : Table EvaluationAttempt.id)
      (inserted : db.evaluationAttempts.insert? row = some table)
      (new : NewEvaluationAttempt db row) :
      Write L d db (.event ⟨.evaluationAttempt, row.id⟩ :: d)
        (db.setEvaluationAttempts table)
  | insertAction {d : Debt} {db : Db} (row : Action) (table : Table Action.id)
      (inserted : db.actions.insert? row = some table) (new : NewAction db row) :
      Write L d db (.event ⟨.action, row.id⟩ :: (actionDebt row ++ d)) (db.setActions table)
  | insertOperation {d : Debt} {db : Db} (row : RuntimeOperation)
      (table : Table RuntimeOperation.id)
      (inserted : db.operations.insert? row = some table) (new : NewOperation d db row) :
      Write L d db (.event ⟨.runtimeOperation, row.id⟩ :: d) (db.setOperations table)
  | moveExperiment {d : Debt} {db : Db} (old new : Experiment)
      (found : db.experiments.find? new.id = some old) (moved : ExperimentMoves old new)
      (journalled : .event ⟨.experiment, new.id⟩ ∉ d) :
      Write L d db (.event ⟨.experiment, new.id⟩ :: d)
        (db.setExperiments (db.experiments.replace new))
  | moveNode {d : Debt} {db : Db} (old new : ExperimentNode)
      (found : db.nodes.find? new.id = some old) (moved : NodeMoves old new)
      (journalled : .event ⟨.experimentNode, new.id⟩ ∉ d) (advances : NodeAdvances L d db old new) :
      Write L d db (.event ⟨.experimentNode, new.id⟩ :: (nodeDebt old new ++ d))
        (db.setNodes (db.nodes.replace new))
  | moveRun {d : Debt} {db : Db} (old new : Run) (found : db.runs.find? new.id = some old)
      (moved : RunMoves old new) (journalled : .event ⟨.run, new.id⟩ ∉ d)
      (opened : .quota new.id ∉ d) :
      Write L d db (.event ⟨.run, new.id⟩ :: (runDebt new ++ d))
        (db.setRuns (db.runs.replace new))
  | moveAttempt {d : Debt} {db : Db} (old new : RunAttempt)
      (found : db.attempts.find? new.id = some old) (moved : AttemptMoves old new)
      (journalled : .event ⟨.runAttempt, new.id⟩ ∉ d) (opened : .slot new.id ∉ d) :
      Write L d db (.event ⟨.runAttempt, new.id⟩ :: (attemptDebt old new ++ d))
        (db.setAttempts (db.attempts.replace new))
  | moveEvaluationRun {d : Debt} {db : Db} (old new : EvaluationRun)
      (found : db.evaluationRuns.find? new.id = some old) (moved : EvaluationRunMoves old new)
      (journalled : .event ⟨.evaluationRun, new.id⟩ ∉ d)
      (succeeds : new.status = .succeeded → .success new.id ∈ d) :
      Write L d db (.event ⟨.evaluationRun, new.id⟩ :: d)
        (db.setEvaluationRuns (db.evaluationRuns.replace new))
  | moveEvaluationAttempt {d : Debt} {db : Db} (old new : EvaluationAttempt)
      (found : db.evaluationAttempts.find? new.id = some old)
      (moved : EvaluationAttemptMoves old new)
      (journalled : .event ⟨.evaluationAttempt, new.id⟩ ∉ d)
      (succeeds : new.status = .succeeded → .success new.evaluationRunId ∉ d ∧
        ∃ run, db.evaluationRuns.find? new.evaluationRunId = some run ∧ run.isTerminal = false) :
      Write L d db (.event ⟨.evaluationAttempt, new.id⟩ ::
          ((evaluationAttemptDebt new ++ successDebt new) ++ d))
        (db.setEvaluationAttempts (db.evaluationAttempts.replace new))
  | moveAction {d : Debt} {db : Db} (old new : Action) (event : DomainEvent)
      (destinations : List String) (found : db.actions.find? new.id = some old)
      (moved : ActionMoves old new) (journalled : .event ⟨.action, new.id⟩ ∉ d)
      (cancellation : old.isCancellation = true →
        (.opening old.id ∈ d ∧ OpensTrue db new) ∨ L.settles)
      (authorized : Authorizes db old new) (said : ActionEvent old new event) :
      Write L d db d ((db.setActions (db.actions.replace new)).record event destinations)
  | moveOperation {d : Debt} {db : Db} (old new : RuntimeOperation)
      (found : db.operations.find? new.id = some old) (moved : OperationMoves old new)
      (journalled : .event ⟨.runtimeOperation, new.id⟩ ∉ d) :
      Write L d db (.event ⟨.runtimeOperation, new.id⟩ :: (operationDebt new ++ d))
        (db.setOperations (db.operations.replace new))
  | checkpoint {d : Debt} {db : Db} (row : RecordedCheckpoint) (table : Table RecordedCheckpoint.id)
      (inserted : db.checkpoints.insert? row = some table) :
      Write L d db d { db with checkpoints := table }
  | episode {d : Debt} {db : Db} (row : RecoveryEpisode) (table : Table RecoveryEpisode.id)
      (inserted : db.episodes.insert? row = some table) :
      Write L d db d { db with episodes := table }
  | oomBinding {d : Debt} {db : Db} (row : RecoveryActionBinding)
      (table : Table RecoveryActionBinding.actionId) (action : Action)
      (inserted : db.oomBindings.insert? row = some table)
      (bound : db.actions.find? row.actionId = some action)
      (type : action.type = "resize-microbatch") :
      Write L d db d { db with oomBindings := table }
  | numericalBinding {d : Debt} {db : Db} (row : NumericalRecoveryActionBinding)
      (table : Table NumericalRecoveryActionBinding.actionId) (action : Action)
      (episode : RecoveryEpisode) (inserted : db.numericalBindings.insert? row = some table)
      (bound : db.actions.find? row.actionId = some action)
      (type : action.type = "change-learning-rate")
      (opened : db.episodes.find? row.proposal.episodeId = some episode)
      (sameRun : action.target = ⟨.run, episode.context.runId⟩) :
      Write L d db d { db with numericalBindings := table }
  | numericalReceipt {d : Debt} {db : Db} (row : RecoveryExecutionReceipt)
      (table : Table RecoveryExecutionReceipt.actionId) (binding : NumericalRecoveryActionBinding)
      (inserted : db.numericalReceipts.insert? row = some table)
      (bound : db.numericalBindings.find? row.actionId = some binding) :
      Write L d db d { db with numericalReceipts := table }
  | intervention {d : Debt} {db : Db} (row : TrainingIntervention) (run : Run) (action : Action)
      (actor : Actor) (outbox : List OutboxRecord) (table : Table InterventionRow.id)
      (runFound : db.runs.find? row.runId = some run)
      (decided : db.actions.find? row.actionId = some action)
      (type : action.type = "change-learning-rate")
      (inserted : db.interventions.insert?
        ⟨row, run.experimentId, db.events.length + 1⟩ = some table) :
      Write L d db d
        { db with
          events := db.events ++ [eventOf run "TrainingInterventionRecorded" run.experimentId
            actor (.trainingIntervention row)]
          outbox := outbox
          interventions := table }
  | application {d : Debt} {db : Db} (row : InterventionApplication) (attempt : RunAttempt)
      (run : Run) (decision : InterventionRow) (actor : Actor)
      (outbox : List OutboxRecord) (table : Table ApplicationRow.id)
      (attemptFound : db.attempts.find? row.attemptId = some attempt)
      (runFound : db.runs.find? attempt.runId = some run)
      (decided : db.interventions.find? row.interventionId = some decision)
      (sameRun : decision.intervention.runId = attempt.runId)
      (applied : row.appliedValue = decision.intervention.mutation.learningRate)
      (inserted : db.applications.insert?
        ⟨{ row with eventSequence := db.events.length + 1 }, run.id⟩ = some table) :
      Write L d db d
        { db with
          events := db.events ++ [eventOf attempt "InterventionApplied" run.experimentId actor
            (.interventionApplication run.id row)]
          outbox := outbox
          applications := table }

/-- A chain of writes. -/
abbrev Writes (L : Licence) : Debt → Db → Debt → Db → Prop := Steps (Write L)

end Xaytune.Storage
