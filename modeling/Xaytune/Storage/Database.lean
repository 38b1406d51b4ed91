import Xaytune.Library.Table
import Xaytune.Library.Transaction
import Xaytune.Storage.Records

/-!
# The state database

One flat record of tables, the errors a write can raise, and the statements every
repository operation is built from: reads, inserts, revision-guarded updates and
the event a change is journalled with. The sequence of an event is its place in
the journal, counted from one.
-/

namespace Xaytune.Storage

open Xaytune.Core Xaytune.Library

structure Db where
  experiments : Table Experiment.id
  nodes : Table ExperimentNode.id
  runs : Table Run.id
  attempts : Table RunAttempt.id
  evaluationRuns : Table EvaluationRun.id
  evaluationAttempts : Table EvaluationAttempt.id
  actions : Table Action.id
  operations : Table RuntimeOperation.id
  events : List DomainEvent
  outbox : List OutboxRecord
  ledger : Table BudgetLedgerEntry.key
  edges : List (String × String)
  results : Table EvaluationResult.id
  decisions : Table Decision.id
  policyDecisions : Table PolicyDecision.id
  incidents : Table Incident.id
  checkpoints : Table RecordedCheckpoint.id
  checkpointReceipts : Table CheckpointReceipt.key
  episodes : Table RecoveryEpisode.id
  memberships : Table RecoveryEpisodeIncident.incidentId
  plans : Table RecoveryPlan.id
  oomBindings : Table RecoveryActionBinding.actionId
  oomReceipts : Table RecoveryExecutionReceipt.actionId
  numericalBindings : Table NumericalRecoveryActionBinding.actionId
  numericalReceipts : Table RecoveryExecutionReceipt.actionId
  interventions : Table InterventionRow.id
  applications : Table ApplicationRow.id
  directives : Table DirectiveRow.id
  requests : Table ControllerRequest.id
  rests : Table ControllerRest.experimentId
  invocations : Table AgentInvocation.id
  metricPoints : Table MetricPoints.key
  telemetry : Table TelemetryCursor.target
  pendingCompletions : Table PendingCompletion.attemptId

/-- The database every run of the control plane starts from. -/
def Db.empty : Db where
  experiments := .empty _
  nodes := .empty _
  runs := .empty _
  attempts := .empty _
  evaluationRuns := .empty _
  evaluationAttempts := .empty _
  actions := .empty _
  operations := .empty _
  events := []
  outbox := []
  ledger := .empty _
  edges := []
  results := .empty _
  decisions := .empty _
  policyDecisions := .empty _
  incidents := .empty _
  checkpoints := .empty _
  checkpointReceipts := .empty _
  episodes := .empty _
  memberships := .empty _
  plans := .empty _
  oomBindings := .empty _
  oomReceipts := .empty _
  numericalBindings := .empty _
  numericalReceipts := .empty _
  interventions := .empty _
  applications := .empty _
  directives := .empty _
  requests := .empty _
  rests := .empty _
  invocations := .empty _
  metricPoints := .empty _
  telemetry := .empty _
  pendingCompletions := .empty _

/-- What a write raises, by the class of the exception. -/
inductive StoreError where
  | aggregateNotFound (kind id : String)
  | concurrentModification (kind id : String) (expectedRevision : Nat)
  | invalidTransition (aggregate current requested : String)
  | idempotencyConflict (id : String) (fields : List String) (kind : String)
  | unknownOperationTarget (id : String)
  | integrity (constraint : String)
  | value (message : String)
  | domain (message : String)
  | storage (message : String)
  | provenance (message : String)
  | lineage (message : String)
  | staleRecoveryContext (message : String)
  | stalePolicyContext (message : String)
  | staleProposal (message : String)
  | branchRefused (message : String)
  | candidateConflict (message : String)
  | decisionConflict (message : String)
  | budgetExhausted (experimentId : String) (reasons : List String)
  | capacityUnavailable (experimentId : String) (limit : Int)
  | ledgerConflict (message : String)
  | admissionRefused (message : String)
  | interventionNotAuthorized (message : String)
  | interventionReplay (message : String)
  | approval (message : String)
  | approvalConflict (message : String)
  | cancellationNotGoverned (type : String)
  | cancellationSagaRequired
  | cancellationInFlight (requested inFlight : String)
  | agentInvocationConflict (message : String)

/-- One statement, or a whole write, of the repository. -/
abbrev Repo (α : Type) := Transaction Db StoreError α

/-! ## The journal -/

/-- Append an event and its outbox records. -/
def Db.record (db : Db) (event : DomainEvent) (destinations : List String) : Db :=
  { db with
    events := db.events ++ [event]
    outbox := db.outbox ++ destinations.map fun destination =>
      ⟨db.events.length + 1, destination⟩ }

/-- Every event with the sequence the database assigned to it. -/
def Db.sequencedEvents (db : Db) : List (Nat × DomainEvent) :=
  db.events.zipIdx.map fun entry => (entry.2 + 1, entry.1)

/-- The events of one aggregate, in commit order. -/
def Db.eventsFor (db : Db) (aggregate : AggregateKey) : List DomainEvent :=
  db.events.filter fun event => event.aggregate = aggregate

/-! ## Aggregates and their tables -/

/-- A revisioned aggregate: how the journal names it and which table holds it. -/
class Stored (α : Type) where
  kind : AggregateKind
  label : String
  id : α → String
  revision : α → Nat
  status : α → String
  table : Db → Table id
  setTable : Table id → Db → Db

instance : Stored Experiment where
  kind := .experiment
  label := "Experiment"
  id := Experiment.id
  revision := Experiment.revision
  status experiment := value experiment.status
  table := Db.experiments
  setTable table db := { db with experiments := table }

instance : Stored ExperimentNode where
  kind := .experimentNode
  label := "ExperimentNode"
  id := ExperimentNode.id
  revision := ExperimentNode.revision
  status node := value node.status
  table := Db.nodes
  setTable table db := { db with nodes := table }

instance : Stored Run where
  kind := .run
  label := "Run"
  id := Run.id
  revision := Run.revision
  status run := value run.status
  table := Db.runs
  setTable table db := { db with runs := table }

instance : Stored RunAttempt where
  kind := .runAttempt
  label := "RunAttempt"
  id := RunAttempt.id
  revision := RunAttempt.revision
  status attempt := value attempt.status
  table := Db.attempts
  setTable table db := { db with attempts := table }

instance : Stored EvaluationRun where
  kind := .evaluationRun
  label := "EvaluationRun"
  id := EvaluationRun.id
  revision := EvaluationRun.revision
  status run := value run.status
  table := Db.evaluationRuns
  setTable table db := { db with evaluationRuns := table }

instance : Stored EvaluationAttempt where
  kind := .evaluationAttempt
  label := "EvaluationAttempt"
  id := EvaluationAttempt.id
  revision := EvaluationAttempt.revision
  status attempt := value attempt.status
  table := Db.evaluationAttempts
  setTable table db := { db with evaluationAttempts := table }

instance : Stored Action where
  kind := .action
  label := "Action"
  id := Action.id
  revision := Action.revision
  status action := value action.status
  table := Db.actions
  setTable table db := { db with actions := table }

instance : Stored RuntimeOperation where
  kind := .runtimeOperation
  label := "RuntimeOperation"
  id := RuntimeOperation.id
  revision := RuntimeOperation.revision
  status operation := value operation.state
  table := Db.operations
  setTable table db := { db with operations := table }

/-- The event a row is journalled with. -/
def eventOf {α : Type} [Stored α] (row : α) (eventType experimentId : String) (actor : Actor)
    (extra : EventExtra) : DomainEvent where
  experimentId := experimentId
  aggregate := ⟨Stored.kind α, Stored.id row⟩
  aggregateRevision := Stored.revision row
  eventType := eventType
  actor := actor
  status := Stored.status row
  extra := extra

/-- The table that holds the rows of one aggregate. -/
abbrev tableOf (α : Type) [Stored α] (db : Db) : Table (Stored.id (α := α)) := Stored.table db

section Statements

variable {α : Type} [Stored α]

/-- `get_*`: the stored row, if there is one. -/
def getRow (α : Type) [Stored α] (id : String) : Repo (Option α) :=
  Transaction.read fun db => (tableOf α db).find? id

/-- `load_*`: the stored row. -/
def loadRow (α : Type) [Stored α] (id : String) : Repo α := do
  let found ← getRow α id
  Transaction.expect found (.aggregateNotFound (Stored.label α) id)

/-- `_insert`: a new row under a fresh primary key. -/
def insertRow (row : α) : Repo Unit := fun db =>
  match (tableOf α db).insert? row with
  | none => .error (.integrity "PRIMARY KEY")
  | some table => .ok ((), Stored.setTable table db)

/-- `_update`: write a row back, guarded on the revision it was read at. -/
def updateRow (row : α) : Repo Unit := fun db =>
  match (tableOf α db).find? (Stored.id row) with
  | none =>
      .error (.concurrentModification (Stored.label α) (Stored.id row) (Stored.revision row - 1))
  | some stored =>
      if Stored.revision stored + 1 = Stored.revision row then
        .ok ((), Stored.setTable ((tableOf α db).replace row) db)
      else
        .error (.concurrentModification (Stored.label α) (Stored.id row) (Stored.revision row - 1))

/-- `_emit`, `_emit_action` and `_emit_operation`: journal a row as it stands. -/
def emit (row : α) (eventType experimentId : String) (actor : Actor) (destinations : List String)
    (extra : EventExtra := .none) : Repo Unit :=
  Transaction.write fun db =>
    db.record (eventOf row eventType experimentId actor extra) destinations

/-- Refuse a created aggregate that is not actually new. -/
def requirePristine {S : Type} [DecidableEq S] (status initial : S) (revision : Nat) :
    Repo Unit := do
  Transaction.require (status = initial) (.value "a new aggregate must start in its initial status")
  Transaction.require (revision = 0) (.value "a new aggregate must start at revision 0")

end Statements

/-- A statement over a plain table: the row's key must be fresh. -/
def insertInto {α κ : Type} {key : α → κ} [DecidableEq κ] (table : Db → Table key)
    (setTable : Table key → Db → Db) (row : α) : Repo Unit := fun db =>
  match (table db).insert? row with
  | none => .error (.integrity "PRIMARY KEY")
  | some table' => .ok ((), setTable table' db)

/-- `REFERENCES`: the foreign key must name a row. -/
def requireReference {α κ : Type} {key : α → κ} [DecidableEq κ] (table : Db → Table key) (k : κ) :
    Repo Unit := do
  let found ← Transaction.read fun db => ((table db).find? k).isSome
  Transaction.require found (.integrity "FOREIGN KEY")

/-! ## Content checks -/

/--
The pure functions of the domain layer that the repository consults about
content: fingerprints, schema validation, provenance comparisons and the recovery
and policy engines. The repository's theorems hold for every choice of them.
-/
structure Checks where
  candidateFingerprint : Candidate → String
  validIntent : Action → Bool
  resultProvenance : EvaluationResult → EvaluationRun → Bool
  decisionInput : Experiment → ExperimentNode → List EvaluationResult → String
  planningCandidateProjection : Candidate → Document
  proposalFingerprint : CandidateProposalIdentity → String
  plannerSpecFingerprint : PlannerSpecIdentity → String
  planningContext : Db → Experiment → String
  policyContext : Db → ActionSpec → Experiment → Actor → Document → String
  applicabilityProblems : Db → ActionSpec → Experiment → Actor → Document → List String
  incidentEvidence : Incident → Bool
  checkpointEvidence : RecordedCheckpoint → RunAttempt → Bool
  recoveryInputs : Db → RecoveryEpisode → Document
  recoveryDecision : RecoveryEpisode → RecoveryPlan → Bool
  executionStateFingerprint : RunAttempt → String
  oomInputs : OOMResizeProposal → RecoveryPlan → Document → Bool
  numericalInputs : NumericalLRProposal → RecoveryPlan → Document → Bool
  recoveryLimits : Db → RecoveryEpisode → Bool
  checkpointReport : RecordedCheckpoint → RecoveryCheckpointReport → RecoveryEpisode → Bool

end Xaytune.Storage
