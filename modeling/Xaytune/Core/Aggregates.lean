import Mathlib.Data.Rat.Defs
import Xaytune.Core.State

/-!
# Control-plane aggregates

The eight revisioned records of the control plane and the copies their methods
return. An id is the text after its type's prefix, so ids of two kinds never
meet: wherever the kind is not given by the position it stands beside the id.
Content that no modelled function takes apart is kept as one canonical JSON
`Document`; creation and update times are left out, and a table's row order is
the creation order.
-/

namespace Xaytune.Core

/-- Canonical JSON of the part of a value nothing here takes apart. -/
abbrev Document := String

/-- Who caused a change. -/
structure Actor where
  type : String
  id : String
  metadata : Document := ""
  deriving DecidableEq

/-- A binary64 value as far as the control plane looks at one. -/
inductive FloatValue where
  | finite (value : ℚ)
  | nonfinite
  deriving DecidableEq

/-! ## Experiments and nodes -/

/-- Declared limits; `max_parallel_runs` is a capacity and admits at least one run. -/
structure BudgetSpec where
  maxRuns : Option Nat := none
  maxParallelRuns : Option Nat := none
  maxFailures : Option Nat := none
  parallel_pos : maxParallelRuns ≠ some 0 := by decide

structure PlannerSpec where
  kind : String
  version : Option String
  config : Document := ""

structure Experiment where
  id : String
  budget : Option BudgetSpec := none
  planner : Option PlannerSpec := none
  status : ExperimentStatus := .created
  bestNodeId : Option String := none
  revision : Nat := 0
  content : Document := ""

/-- The scientific proposition a node tests, with the base learning rate it declares. -/
structure Candidate where
  learningRate : Option FloatValue := none
  content : Document := ""

/-- Which planner, in which configuration, made a proposal against which context. -/
structure ProposalProvenance where
  plannerProvider : String
  plannerName : String
  plannerVersion : String
  plannerApiVersion : String
  plannerSpecKind : String
  plannerSpecVersion : String
  plannerSpecIdentityVersion : Nat
  plannerSpecFingerprint : String
  contextIdentityVersion : Nat
  contextFingerprint : String

/-- A durable record a proposal rests on: a decision, or else an evaluation result. -/
structure EvidenceRef where
  isDecision : Bool
  id : String
  deriving DecidableEq

/-- The planner proposal a branched node materializes. -/
structure CandidateBranchOrigin where
  proposalIdentityVersion : Nat
  proposalFingerprint : String
  provenance : ProposalProvenance
  mutation : Document := ""
  evidenceRefs : List EvidenceRef := []

structure ExperimentNode where
  id : String
  experimentId : String
  parentIds : List String := []
  hypothesis : Option String := none
  reason : Option String := none
  candidate : Candidate := {}
  candidateFingerprint : String
  status : ExperimentNodeStatus := .created
  branchOrigin : Option CandidateBranchOrigin := none
  evaluationCycle : Nat := 0
  decisionIds : List String := []
  revision : Nat := 0
  content : Document := ""

namespace Experiment

def isTerminal (experiment : Experiment) : Bool := experimentMachine.isTerminal experiment.status

/-- A copy in `newStatus`, with the revision bumped; `none` if the edge is not in the table. -/
def withStatus (experiment : Experiment) (newStatus : ExperimentStatus) : Option Experiment :=
  if experimentMachine.can experiment.status newStatus then
    some { experiment with status := newStatus, revision := experiment.revision + 1 }
  else none

/-- A copy `SUCCEEDED`, with the best candidate recorded in the same transition. -/
def succeededWith (experiment : Experiment) (nodeId : String) : Option Experiment :=
  (experiment.withStatus .succeeded).map fun succeeded =>
    { succeeded with bestNodeId := some nodeId }

end Experiment

namespace ExperimentNode

def isTerminal (node : ExperimentNode) : Bool := nodeMachine.isTerminal node.status

/-- Entering `EVALUATING` also starts the next evaluation cycle. -/
def withStatus (node : ExperimentNode) (newStatus : ExperimentNodeStatus) :
    Option ExperimentNode :=
  if nodeMachine.can node.status newStatus then
    some { node with
      status := newStatus
      revision := node.revision + 1
      evaluationCycle :=
        if newStatus = .evaluating then node.evaluationCycle + 1 else node.evaluationCycle }
  else none

/-- A decision is about an evaluated candidate: only from `DECIDING`. -/
def withDecision (node : ExperimentNode) (decisionId : String) (newStatus : ExperimentNodeStatus) :
    Option ExperimentNode :=
  if node.status = .deciding then
    (node.withStatus newStatus).map fun moved =>
      { moved with decisionIds := node.decisionIds ++ [decisionId] }
  else none

end ExperimentNode

/-! ## Runs and attempts -/

structure Run where
  id : String
  nodeId : String
  experimentId : String
  seed : Option Int := none
  seedOrigin : Option String := none
  replicate : Option Int := none
  candidateFingerprint : String
  status : RunStatus := .created
  revision : Nat := 0
  content : Document := ""

namespace Run

def isTerminal (run : Run) : Bool := runMachine.isTerminal run.status

def withStatus (run : Run) (newStatus : RunStatus) : Option Run :=
  if runMachine.can run.status newStatus then
    some { run with status := newStatus, revision := run.revision + 1 }
  else none

end Run

inductive ExecutionOverrideKind where
  | microBatchResize | gradientAccumulationAdjustment | workerCountAdjustment | placementRetry
  | checkpointRestore | timeoutIncrease | runtimeNativeRecovery
  deriving DecidableEq

/-- The `values` mapping of an override, for the shapes recovery writes and compares. -/
inductive OverrideValues where
  | resize (old new : Nat)
  | checkpoint (checkpointId : String)
  | other (document : Document)
  deriving DecidableEq

structure ExecutionOverride where
  id : String
  kind : ExecutionOverrideKind
  values : OverrideValues
  preserves : List String := []
  actionId : Option String := none
  content : Document := ""
  deriving DecidableEq

structure CheckpointRef where
  id : String
  content : Document := ""
  deriving DecidableEq

structure ArtifactRef where
  id : String
  producerAttemptId : Option String := none
  producerEvaluationId : Option String := none
  content : Document := ""

structure RunAttempt where
  id : String
  runId : String
  attemptNumber : Nat
  status : RunAttemptStatus := .created
  executionFingerprint : Option String := none
  executionOverrides : List ExecutionOverride := []
  checkpointRef : Option CheckpointRef := none
  artifactRefs : List ArtifactRef := []
  revision : Nat := 0
  content : Document := ""

namespace RunAttempt

def isTerminal (attempt : RunAttempt) : Bool := attemptMachine.isTerminal attempt.status

def withStatus (attempt : RunAttempt) (newStatus : RunAttemptStatus) : Option RunAttempt :=
  if attemptMachine.can attempt.status newStatus then
    some { attempt with status := newStatus, revision := attempt.revision + 1 }
  else none

/-- Not a status change, but a change to durable state, so it takes a revision. -/
def withArtifact (attempt : RunAttempt) (artifact : ArtifactRef) : Option RunAttempt :=
  if attempt.artifactRefs.any (fun existing => existing.id = artifact.id) then none
  else some { attempt with
    artifactRefs := attempt.artifactRefs ++ [artifact], revision := attempt.revision + 1 }

end RunAttempt

/-! ## Evaluation -/

structure EvaluationRun where
  id : String
  experimentId : String
  nodeId : String
  evaluationCycle : Nat
  seed : Option Int := none
  status : EvaluationRunStatus := .created
  revision : Nat := 0
  content : Document := ""
  deriving DecidableEq

namespace EvaluationRun

def isTerminal (run : EvaluationRun) : Bool := evaluationRunMachine.isTerminal run.status

def withStatus (run : EvaluationRun) (newStatus : EvaluationRunStatus) : Option EvaluationRun :=
  if evaluationRunMachine.can run.status newStatus then
    some { run with status := newStatus, revision := run.revision + 1 }
  else none

end EvaluationRun

structure EvaluationAttempt where
  id : String
  evaluationRunId : String
  attemptNumber : Nat
  status : EvaluationAttemptStatus := .created
  revision : Nat := 0
  content : Document := ""

namespace EvaluationAttempt

def isTerminal (attempt : EvaluationAttempt) : Bool :=
  evaluationAttemptMachine.isTerminal attempt.status

def withStatus (attempt : EvaluationAttempt) (newStatus : EvaluationAttemptStatus) :
    Option EvaluationAttempt :=
  if evaluationAttemptMachine.can attempt.status newStatus then
    some { attempt with status := newStatus, revision := attempt.revision + 1 }
  else none

end EvaluationAttempt

/-! ## Operations -/

/-- What an operation acts on: an attempt of either kind. -/
inductive AttemptKind where
  | trainingAttempt | evaluationAttempt
  deriving DecidableEq

structure RuntimeOperationTarget where
  kind : AttemptKind
  id : String
  deriving DecidableEq

inductive OperationType where
  | submit | cancel
  deriving DecidableEq

inductive OperationState where
  | intended | sent | confirmed | failed
  deriving DecidableEq

instance : StatusValue OperationState where
  value
    | .intended => "intended" | .sent => "sent" | .confirmed => "confirmed" | .failed => "failed"

def operationMachine : StateMachine OperationState where
  aggregate := "RuntimeOperation"
  initial := .intended
  transitions
    | .intended => [.sent, .confirmed, .failed]
    | .sent => [.confirmed, .failed]
    | .confirmed | .failed => []

/-- One external side effect, with its intent recorded before it happens. -/
structure RuntimeOperation where
  id : String
  target : RuntimeOperationTarget
  type : OperationType
  requestDigest : String
  state : OperationState := .intended
  runtimeRef : Option Document := none
  causedByActionId : Option String := none
  revision : Nat := 0

namespace RuntimeOperation

def isTerminal (operation : RuntimeOperation) : Bool := operationMachine.isTerminal operation.state

/-- A runtime reference may be attached; it is never cleared. -/
def withState (operation : RuntimeOperation) (newState : OperationState)
    (runtimeRef : Option Document := none) : Option RuntimeOperation :=
  if operationMachine.can operation.state newState then
    some { operation with
      state := newState
      runtimeRef := runtimeRef <|> operation.runtimeRef
      revision := operation.revision + 1 }
  else none

end RuntimeOperation

/-! ## Actions -/

inductive ActionTargetKind where
  | experiment | node | run | trainingAttempt | evaluationRun | evaluationAttempt
  deriving DecidableEq

/-- The attempt kinds of an action's target are the operation's own. -/
def AttemptKind.toActionTargetKind : AttemptKind → ActionTargetKind
  | .trainingAttempt => .trainingAttempt
  | .evaluationAttempt => .evaluationAttempt

def ActionTargetKind.attemptKind? : ActionTargetKind → Option AttemptKind
  | .trainingAttempt => some .trainingAttempt
  | .evaluationAttempt => some .evaluationAttempt
  | _ => none

structure ActionTarget where
  kind : ActionTargetKind
  id : String
  deriving DecidableEq

/-- How a successful action resolved. -/
inductive ActionOutcome where
  | applied | superseded | noop
  deriving DecidableEq

/-- The typed payload of the built-in action families; a plugin's is its document. -/
inductive ActionPayload where
  | empty
  | changeLearningRate (learningRate : ℚ)
  | resizeMicrobatch (microBatchSize gradientAccumulation : Nat)
  | other (document : Document)
  deriving DecidableEq

/-- A typed proposal: what `spec_of` reads back from an action. -/
structure ActionSpec where
  type : String
  target : ActionTarget
  payload : ActionPayload
  deriving DecidableEq

/-- The action types that policy never governs. -/
def cancellationTypes : List String := ["cancel-attempt", "cancel-run", "cancel-experiment"]

structure Action where
  id : String
  experimentId : String
  type : String
  status : ActionStatus := .proposed
  outcome : Option ActionOutcome := none
  target : ActionTarget
  proposedBy : Actor
  reason : String
  payload : ActionPayload := .empty
  policyDecisionId : Option String := none
  parentActionId : Option String := none
  revision : Nat := 0
  deriving DecidableEq

namespace Action

def isTerminal (action : Action) : Bool := actionMachine.isTerminal action.status

def spec (action : Action) : ActionSpec := ⟨action.type, action.target, action.payload⟩

/-- Whether the action is a cancellation, which is never governed. -/
def isCancellation (action : Action) : Bool := cancellationTypes.contains action.type

/-- An outcome is given exactly when the new status is `SUCCEEDED`. -/
def withStatus (action : Action) (newStatus : ActionStatus)
    (outcome : Option ActionOutcome := none) : Option Action :=
  if actionMachine.can action.status newStatus ∧ (newStatus = .succeeded ↔ outcome.isSome) then
    some { action with status := newStatus, outcome := outcome, revision := action.revision + 1 }
  else none

/-- Record the policy decision on a `VALIDATED` action; `ALLOW` leaves it `VALIDATED`. -/
def governedBy (action : Action) (policyDecisionId : String) (newStatus : ActionStatus) :
    Option Action :=
  if action.status = .validated ∧ action.policyDecisionId = none ∧
      (newStatus = .validated ∨ actionMachine.can action.status newStatus) then
    some { action with
      status := newStatus
      policyDecisionId := some policyDecisionId
      revision := action.revision + 1 }
  else none

end Action

end Xaytune.Core
