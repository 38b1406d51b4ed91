import Xaytune.Core.Realization

/-!
# Evidence, governance and recovery records

The append-only records the control plane keeps beside its aggregates, and the
two mutable ones of the daemon: mailbox requests and agent invocations.
-/

namespace Xaytune.Storage

open Xaytune.Core

/-! ## Evaluation results and decisions -/

structure EvaluationResult where
  id : String
  evaluationRunId : String
  nodeId : String
  content : Document := ""
  deriving DecidableEq

inductive DecisionOutcome where
  | stopSucceeded | stopFailed | reject | branch
  deriving DecidableEq

/-- The status a decision moves its node to. -/
def DecisionOutcome.nodeStatus : DecisionOutcome → ExperimentNodeStatus
  | .stopSucceeded | .branch => .completed
  | .stopFailed | .reject => .rejected

structure DecisionProposal where
  experimentId : String
  nodeId : String
  evaluationCycle : Nat
  outcome : DecisionOutcome
  evaluationResultIds : List String
  evidenceResultIds : List String
  inputFingerprint : String
  content : Document := ""
  deriving DecidableEq

structure Decision where
  id : String
  proposal : DecisionProposal
  deriving DecidableEq

/-- A new candidate a planner proposes to explore, and why. -/
structure CandidateProposal where
  candidate : Candidate
  candidateFingerprint : String
  parentIds : List String
  hypothesis : String
  reason : String
  mutation : Document := ""
  evidenceRefs : List EvidenceRef := []
  provenance : ProposalProvenance

/-- What makes two bound planners the same: the spec, and the descriptor it was bound to. -/
structure PlannerSpecIdentity where
  identityVersion : Nat
  spec : PlannerSpec
  provider : String
  name : String
  pluginVersion : Option String
  apiVersion : String

def plannerSpecIdentityVersion : Nat := 1

def planningContextIdentityVersion : Nat := 2

def candidateProposalIdentityVersion : Nat := 1

/-- The order of evidence in an identity: by kind (`"decision"` comes first), then by id. -/
def EvidenceRef.before (first second : EvidenceRef) : Bool :=
  if first.isDecision = second.isDecision then first.id ≤ second.id else first.isDecision

/-- What makes two candidate proposals the same; the candidate is what a planner can see of it. -/
structure CandidateProposalIdentity where
  identityVersion : Nat
  candidateFingerprint : String
  candidate : Document
  parentIds : List String
  hypothesis : String
  reason : String
  mutation : Document
  evidenceRefs : List EvidenceRef
  provenance : ProposalProvenance

/-! ## Governance -/

inductive PolicyVerdict where
  | allow | deny | requireApproval
  deriving DecidableEq

/-- What a policy engine answers; `inputFingerprint` names the snapshot it was given. -/
structure PolicyProposal where
  verdict : PolicyVerdict
  engineName : String
  engineVersion : String
  inputFingerprint : String
  content : Document := ""

structure PolicyDecision where
  id : String
  actionId : String
  verdict : PolicyVerdict
  capabilities : Document
  content : Document := ""

/-- The executor's rule: exactly two ways, both with the decision on record. -/
def awaitsExecution (action : Action) (decision : Option PolicyDecision) : Bool :=
  match decision with
  | none => false
  | some decision =>
      decision.actionId = action.id && action.policyDecisionId = some decision.id &&
        ((action.status = .validated && decision.verdict = .allow) ||
          (action.status = .approved && decision.verdict = .requireApproval))

/-! ## Incidents, checkpoints and recovery -/

/-- The attempt, run, node and experiment an observation is about. -/
structure AttemptContext where
  target : RuntimeOperationTarget
  runId : String
  nodeId : String
  experimentId : String
  deriving DecidableEq

structure Incident where
  id : String
  observationKey : String
  context : AttemptContext
  category : String
  evidenceFingerprint : String
  streamGeneration : Nat
  sequence : Nat
  content : Document := ""

structure RecordedCheckpoint where
  checkpointRef : CheckpointRef
  context : AttemptContext
  embodiedApplicationIds : Option (List String)
  content : Document := ""
  deriving DecidableEq

def RecordedCheckpoint.id (checkpoint : RecordedCheckpoint) : String := checkpoint.checkpointRef.id

structure CheckpointReceipt where
  attemptId : String
  generation : Nat
  sequence : Nat
  checkpointId : String
  evidenceDigest : String

def CheckpointReceipt.key (receipt : CheckpointReceipt) : String × Nat × Nat :=
  (receipt.attemptId, receipt.generation, receipt.sequence)

structure RecoveryEpisode where
  id : String
  context : AttemptContext
  attemptNumber : Nat
  candidateFingerprint : String
  content : Document := ""
  deriving DecidableEq

inductive RecoveryEvidenceDisposition where
  | acceptedForDecision | lateAfterClosure
  deriving DecidableEq

structure RecoveryEpisodeIncident where
  incidentId : String
  episodeId : String
  membershipSequence : Nat
  disposition : RecoveryEvidenceDisposition
  evidenceFingerprint : String

/-- A plan revision; `inputs` is the canonical projection it was decided on. -/
structure RecoveryPlan where
  id : String
  episodeId : String
  sequence : Nat
  supersedesPlanId : Option String
  acceptedThroughSequence : Nat
  acceptedIncidentIds : List String
  context : AttemptContext
  inputs : Document
  content : Document := ""
  deriving DecidableEq

/-- A committed checkpoint as a recovery plan or an executor reports it. -/
structure RecoveryCheckpointReport where
  checkpointRef : CheckpointRef
  producerAttemptNumber : Nat
  content : Document := ""

/-- One `ResizeMicrobatch` intent on the source's run, preserving its effective batch. -/
structure OOMResizeProposal where
  episodeId : String
  planId : String
  planSequence : Nat
  runId : String
  candidateFingerprint : String
  sourceExecutionStateFingerprint : String
  oldMicroBatchSize : Nat
  oldGradientAccumulation : Nat
  microBatchSize : Nat
  gradientAccumulation : Nat
  content : Document := ""
  deriving DecidableEq

def OOMResizeProposal.actionSpec (proposal : OOMResizeProposal) : ActionSpec :=
  ⟨"resize-microbatch", ⟨.run, proposal.runId⟩,
    .resizeMicrobatch proposal.microBatchSize proposal.gradientAccumulation⟩

structure RecoveryActionBinding where
  actionId : String
  proposal : OOMResizeProposal

/-- The base learning rate on a trajectory, and the application that set it. -/
structure EffectiveLearningRate where
  value : ℚ
  applicationId : Option String := none
  interventionId : Option String := none
  deriving DecidableEq

/-- One `ChangeLearningRate` intent on the source's run and the provenance it would carry. -/
structure NumericalLRProposal where
  episodeId : String
  planId : String
  planSequence : Nat
  runId : String
  candidateFingerprint : String
  sourceAttemptId : String
  sourceExecutionStateFingerprint : String
  previousLearningRate : EffectiveLearningRate
  incidentCategory : String
  incidentId : String
  replayPolicy : InterventionReplayPolicy
  mutation : LearningRateMutation
  content : Document := ""
  deriving DecidableEq

def NumericalLRProposal.trigger (proposal : NumericalLRProposal) : InterventionTrigger :=
  .incident proposal.incidentCategory (some proposal.incidentId)

def NumericalLRProposal.actionSpec (proposal : NumericalLRProposal) : ActionSpec :=
  ⟨"change-learning-rate", ⟨.run, proposal.runId⟩,
    .changeLearningRate proposal.mutation.learningRate⟩

structure NumericalRecoveryActionBinding where
  actionId : String
  proposal : NumericalLRProposal

inductive RecoveryExecutionOutcome where
  | executed | abandoned | superseded
  deriving DecidableEq

/-- An executed receipt, and no other, names its successor attempt and operation. -/
structure RecoveryExecutionReceipt where
  episodeId : String
  planId : String
  planSequence : Nat
  actionId : String
  outcome : RecoveryExecutionOutcome
  successorAttemptId : Option String := none
  runtimeOperationId : Option String := none
  checkpointRef : Option CheckpointRef := none
  interventionId : Option String := none

/-! ## Intervention rows -/

structure InterventionRow where
  intervention : TrainingIntervention
  experimentId : String
  recordedEventSequence : Nat

def InterventionRow.id (row : InterventionRow) : String := row.intervention.id

structure ApplicationRow where
  application : InterventionApplication
  runId : String

def ApplicationRow.id (row : ApplicationRow) : String := row.application.id

structure DirectiveRow where
  directive : InterventionDirective
  runId : String

def DirectiveRow.id (row : DirectiveRow) : String := row.directive.applicationId

/-! ## The daemon's records -/

inductive ControllerRequestKind where
  | submit | attach | cancel | proposeAction | approveAction | rejectAction
  deriving DecidableEq

inductive ControllerRequestState where
  | pending | accepted | completed | failed
  deriving DecidableEq

structure ControllerRequest where
  id : String
  kind : ControllerRequestKind
  experimentId : String
  payload : Document
  payloadDigest : String
  state : ControllerRequestState := .pending
  error : Option Document := none
  revision : Nat := 0
  deriving DecidableEq

namespace ControllerRequest

/-- Only a submission is `ACCEPTED`: its admission is what names its experiment. -/
def allowed : ControllerRequestKind → ControllerRequestState → List ControllerRequestState
  | .submit, .pending => [.accepted, .failed]
  | .submit, .accepted => [.completed]
  | .submit, _ => []
  | _, .pending => [.completed, .failed]
  | _, _ => []

/-- A copy in `newState`; `none` if the request's kind does not allow the edge. -/
def withState (request : ControllerRequest) (newState : ControllerRequestState)
    (error : Option Document) : Option ControllerRequest :=
  if newState ∈ allowed request.kind request.state then
    some { request with state := newState, error := error, revision := request.revision + 1 }
  else none

/-- The fields of two requests under one id that differ. -/
def sameRequest (existing requested : ControllerRequest) : List String :=
  (if existing.kind = requested.kind then [] else ["kind"]) ++
    (if existing.experimentId = requested.experimentId then [] else ["experiment_id"]) ++
    (if existing.payloadDigest = requested.payloadDigest then [] else ["payload_digest"])

end ControllerRequest

structure ControllerRest where
  experimentId : String
  controllerId : String
  sequence : Nat
  escalation : Option Document
  deriving DecidableEq

inductive AgentInvocationStatus where
  | intended | answered | completed | refused | failed | outcomeUnknown
  deriving DecidableEq

/-- A recorded answer is a known outcome: `answered` never goes to `failed`. -/
def agentInvocationMachine : StateMachine AgentInvocationStatus where
  aggregate := "agent invocation"
  initial := .intended
  transitions
    | .intended => [.answered, .refused, .failed, .outcomeUnknown]
    | .answered => [.completed, .refused]
    | .completed | .refused | .failed | .outcomeUnknown => []

/-- A planning round's request to a model. -/
structure AgentInvocationIntent where
  experimentId : String
  plannerSpecFingerprint : String
  contextFingerprint : String
  requestFingerprint : String
  content : Document := ""
  deriving DecidableEq

structure AgentInvocation where
  id : String
  attempt : Nat
  intent : AgentInvocationIntent
  status : AgentInvocationStatus := .intended
  response : Option Document := none
  failure : Option Document := none
  proposal : Option Document := none
  revision : Nat := 0
  deriving DecidableEq

/-- The planning round: experiment, bound planner, planning context. -/
def AgentInvocationIntent.roundKey (intent : AgentInvocationIntent) : String × String × String :=
  (intent.experimentId, intent.plannerSpecFingerprint, intent.contextFingerprint)

/-- Whether a round's invocation is one to replay rather than to ask again. -/
def AgentInvocationStatus.replayed : AgentInvocationStatus → Bool
  | .answered | .completed | .refused => true
  | .intended | .failed | .outcomeUnknown => false

/-- One telemetry event's metric points of an attempt, at its stream position. -/
structure MetricPoints where
  attemptId : String
  generation : Nat
  sequence : Nat
  experimentId : String
  points : Document
  deriving DecidableEq

def MetricPoints.key (points : MetricPoints) : String × Nat × Nat :=
  (points.attemptId, points.generation, points.sequence)

/-- An attempt's durable telemetry cursor. -/
structure TelemetryCursor where
  target : RuntimeOperationTarget
  generation : Nat
  sequence : Int

/-- An evaluation completion received and not yet settled. -/
structure PendingCompletion where
  attemptId : String
  completion : Document
  generation : Nat
  sequence : Int

end Xaytune.Storage
