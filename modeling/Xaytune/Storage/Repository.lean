import Xaytune.Library.System
import Xaytune.Storage.Cancellation
import Xaytune.Storage.Planning
import Xaytune.Storage.RecoveryExecution

/-!
# The repository

Every write operation of the control plane, with the arguments its caller chooses
and the ids it mints, and the database a call leaves behind, whether it returns or
raises. A run is any sequence of calls from the empty database.
-/

namespace Xaytune.Storage

open Xaytune.Core Xaytune.Library

/-- A call of a `ControlPlaneRepository` write operation. -/
inductive Op where
  | createExperiment (experiment : Experiment) (actor : Actor) (destinations : List String)
  | createNode (node : ExperimentNode) (actor : Actor) (destinations : List String)
  | createRun (run : Run) (actor : Actor) (destinations : List String)
  | admitExperiment (experiment : Experiment) (node : ExperimentNode) (run : Run)
      (attempt : RunAttempt) (operationId requestDigest : String)
      (submission : Option SubmissionRequest) (actor : Actor) (destinations : List String)
  | recordControllerRequest (request : ControllerRequest)
  | completeControllerRequest (requestId : String) (expectedRevision : Nat)
  | failControllerRequest (requestId : String) (expectedRevision : Nat) (error : Document)
  | recordControllerRest (experimentId controllerId : String) (escalation : Option Document)
  | beginAgentInvocation (intent : AgentInvocationIntent) (freshId : String)
  | settleAgentInvocation (invocation : AgentInvocation)
  | transitionExperiment (id : String) (expectedRevision : Nat) (newStatus : ExperimentStatus)
      (actor : Actor) (eventType : Option String) (destinations : List String)
  | transitionNode (id : String) (expectedRevision : Nat) (newStatus : ExperimentNodeStatus)
      (actor : Actor) (eventType : Option String) (destinations : List String)
  | transitionRun (id : String) (expectedRevision : Nat) (newStatus : RunStatus)
      (actor : Actor) (eventType : Option String) (destinations : List String)
  | transitionAttempt (id : String) (expectedRevision : Nat) (newStatus : RunAttemptStatus)
      (actor : Actor) (eventType : Option String) (destinations : List String)
      (telemetryPosition : Option (Nat × Nat))
  | recordArtifact (attemptId : String) (artifact : ArtifactRef) (expectedRevision : Nat)
      (actor : Actor) (destinations : List String) (telemetryPosition : Option (Nat × Nat))
  | attachRecoveryEvidence (incidentId : String) (actor : Actor) (destinations : List String)
  | recordRecoveryPlan (plan : RecoveryPlan) (actor : Actor) (destinations : List String)
      (episode : Option RecoveryEpisode)
  | recordMetricPoints (attemptId : String) (generation sequence : Nat) (points : Document)
  | recordIncident (incident : Incident) (actor : Actor) (destinations : List String)
  | recordCheckpoint (attemptId : String) (commit : CheckpointCommit) (actor : Actor)
      (destinations : List String)
  | recordTelemetryDegraded (target : RuntimeOperationTarget) (actor : Actor)
      (destinations : List String)
  | beginEvaluationCycle (nodeId : String) (expectedRevision : Nat) (runs : List EvaluationRun)
      (actor : Actor) (destinations : List String)
  | createEvaluationRun (run : EvaluationRun) (actor : Actor) (destinations : List String)
  | transitionEvaluationRun (id : String) (expectedRevision : Nat)
      (newStatus : EvaluationRunStatus) (actor : Actor) (destinations : List String)
      (reason : Option String)
  | transitionEvaluationAttempt (id : String) (expectedRevision : Nat)
      (newStatus : EvaluationAttemptStatus) (actor : Actor) (destinations : List String)
      (telemetryPosition : Option (Nat × Nat)) (reason : Option String)
  | holdEvaluationCompletion (attemptId : String) (completion : Document)
      (telemetryPosition : Nat × Nat) (actor : Actor) (destinations : List String)
  | createEvaluationAttemptWithSubmitIntent (attempt : EvaluationAttempt)
      (operationId requestDigest : String) (actor : Actor) (destinations : List String)
  | recordEvaluationResult (attemptId : String) (result : EvaluationResult)
      (expectedRevision : Nat) (actor : Actor) (telemetryPosition : Option (Nat × Nat))
      (destinations : List String)
  | reconcileEvaluatingNode (nodeId : String) (actor : Actor) (destinations : List String)
  | recordDecision (proposal : DecisionProposal) (decisionId : String)
      (expectedNodeRevision : Nat) (actor : Actor) (destinations : List String)
  | deferDecision (nodeId : String) (actor : Actor) (destinations : List String)
  | materializeCandidateProposal (experimentId : String) (proposal : BranchProposal)
      (nodeId : String) (actor : Actor) (destinations : List String)
  | realizePlannedNode (nodeId : String) (expectedRevision : Nat) (run : Run)
      (attempt : RunAttempt) (operationId requestDigest : String) (actor : Actor)
      (destinations : List String)
  | exhaustBudget (experimentId : String) (reasons : List String) (actor : Actor)
      (destinations : List String)
  | settleBudget (experimentId : String) (actor : Actor) (destinations : List String)
  | proposeAction (request : ActionRequest) (judgement : Judgement) (decisionId : String)
      (destinations : List String)
  | proposeOOMRecoveryAction (inputsPlan : RecoveryPlan) (inputs : Document)
      (proposal : OOMResizeProposal) (request : ActionRequest) (judgement : Judgement)
      (decisionId : String) (destinations : List String)
  | proposeNumericalRecoveryAction (inputsPlan : RecoveryPlan) (inputs : Document)
      (proposal : NumericalLRProposal) (request : ActionRequest) (judgement : Judgement)
      (decisionId : String) (destinations : List String)
  | recordNumericalIntervention (actionId interventionId : String) (content : Document)
      (actor : Actor) (destinations : List String)
  | recordTrainingIntervention (intervention : TrainingIntervention) (actor : Actor)
      (destinations : List String)
  | recordInterventionApplication (report : ApplicationReport) (actor : Actor)
      (destinations : List String) (telemetryPosition : Option (Nat × Nat))
  | recordNumericalRecoveryExecution (actionId : String) (successor : RunAttempt)
      (checkpoint : RecoveryCheckpointReport) (directives : List InterventionDirective)
      (operationId requestDigest : String) (actor : Actor) (capabilities : Document)
      (destinations : List String)
  | abandonNumericalRecoveryAction (actionId : String) (actor : Actor)
      (destinations : List String)
  | recordOOMRecoveryExecution (actionId : String) (successor : RunAttempt)
      (checkpoint : RecoveryCheckpointReport) (directives : List InterventionDirective)
      (operationId requestDigest : String) (actor : Actor) (capabilities : Document)
      (destinations : List String)
  | abandonOOMRecoveryAction (actionId : String) (actor : Actor) (destinations : List String)
  | supersedeStaleOOMActions (episodeId : String) (actor : Actor) (destinations : List String)
  | approveAction (actionId : String) (approver : Actor) (reason : String)
      (destinations : List String)
  | rejectAction (actionId : String) (approver : Actor) (reason : String)
      (destinations : List String)
  | createAttemptWithSubmitIntent (attempt : RunAttempt) (operationId requestDigest : String)
      (actor : Actor) (destinations : List String)
  | confirmOperation (operationId : String) (expectedRevision : Nat) (actor : Actor)
      (runtimeRef : Option Document) (destinations : List String)
  | markOperationSent (operationId : String) (expectedRevision : Nat) (actor : Actor)
      (destinations : List String)
  | failOperation (operationId : String) (expectedRevision : Nat) (actor : Actor)
      (destinations : List String)
  | requestCancellation (target : ActionTarget) (reason : String) (actor : Actor)
      (requestDigest actionId operationId : String) (destinations : List String)
  | reconcileCancellation (actionId : String) (actor : Actor) (destinations : List String)
  | requestExperimentCancellation (experimentId reason : String) (actor : Actor)
      (actionId : String) (named : Bool) (ids : RuntimeOperationTarget → ChildIds)
      (destinations : List String)
  | reconcileExperimentCancellation (actionId : String) (actor : Actor)
      (destinations : List String)

/-- A transaction run for the state it leaves. -/
def Repo.done {α : Type} (m : Repo α) : Session Db StoreError Unit := do
  let _ ← Session.commit m
  pure ()

/-- A call of one transaction leaves what its transaction leaves. -/
theorem done_settle {α : Type} (m : Repo α) (db : Db) :
    m.done.settle db = Transaction.settle m db := by
  unfold Repo.done
  rcases Session.bind_settle (Session.commit m) (fun _ => pure ()) db with raised | ⟨_, continued⟩
  · rw [raised, Session.commit_settle]
  · rw [continued, ← Session.commit_settle]
    rfl

/-- The call, as a session over the database. -/
def perform (checks : Checks) : Op → Session Db StoreError Unit
  | .createExperiment experiment actor destinations =>
      (createExperiment experiment actor destinations).done
  | .createNode node actor destinations => (createNode checks node actor destinations).done
  | .createRun run actor destinations => (createRun run actor destinations).done
  | .admitExperiment experiment node run attempt operationId requestDigest submission actor
      destinations =>
      (admitExperiment checks experiment node run attempt operationId requestDigest submission
        actor destinations).done
  | .recordControllerRequest request => (recordControllerRequest request).done
  | .completeControllerRequest requestId expectedRevision =>
      (completeControllerRequest requestId expectedRevision).done
  | .failControllerRequest requestId expectedRevision error =>
      (failControllerRequest requestId expectedRevision error).done
  | .recordControllerRest experimentId controllerId escalation =>
      (recordControllerRest experimentId controllerId escalation).done
  | .beginAgentInvocation intent freshId => (beginAgentInvocation intent freshId).done
  | .settleAgentInvocation invocation => (settleAgentInvocation invocation).done
  | .transitionExperiment id expectedRevision newStatus actor eventType destinations =>
      (transitionExperiment id expectedRevision newStatus actor eventType destinations).done
  | .transitionNode id expectedRevision newStatus actor eventType destinations =>
      (transitionNode id expectedRevision newStatus actor eventType destinations).done
  | .transitionRun id expectedRevision newStatus actor eventType destinations =>
      (transitionRun id expectedRevision newStatus actor eventType destinations).done
  | .transitionAttempt id expectedRevision newStatus actor eventType destinations position =>
      (transitionAttempt id expectedRevision newStatus actor eventType destinations position).done
  | .recordArtifact attemptId artifact expectedRevision actor destinations position =>
      (recordArtifact attemptId artifact expectedRevision actor destinations position).done
  | .attachRecoveryEvidence incidentId actor destinations =>
      (attachRecoveryEvidence incidentId actor destinations).done
  | .recordRecoveryPlan plan actor destinations episode =>
      (recordRecoveryPlan checks plan actor destinations episode).done
  | .recordMetricPoints attemptId generation sequence points =>
      (recordMetricPoints attemptId generation sequence points).done
  | .recordIncident incident actor destinations =>
      (recordIncident checks incident actor destinations).done
  | .recordCheckpoint attemptId commit actor destinations =>
      (recordCheckpoint checks attemptId commit actor destinations).done
  | .recordTelemetryDegraded target actor destinations =>
      (recordTelemetryDegraded target actor destinations).done
  | .beginEvaluationCycle nodeId expectedRevision runs actor destinations =>
      (beginEvaluationCycle nodeId expectedRevision runs actor destinations).done
  | .createEvaluationRun run actor destinations =>
      (createEvaluationRun run actor destinations).done
  | .transitionEvaluationRun id expectedRevision newStatus actor destinations reason =>
      (transitionEvaluationRun id expectedRevision newStatus actor destinations reason).done
  | .transitionEvaluationAttempt id expectedRevision newStatus actor destinations position
      reason =>
      (transitionEvaluationAttempt id expectedRevision newStatus actor destinations position
        reason).done
  | .holdEvaluationCompletion attemptId completion position actor destinations =>
      (holdEvaluationCompletion attemptId completion position actor destinations).done
  | .createEvaluationAttemptWithSubmitIntent attempt operationId requestDigest actor
      destinations =>
      (createEvaluationAttemptWithSubmitIntent attempt operationId requestDigest actor
        destinations).done
  | .recordEvaluationResult attemptId result expectedRevision actor position destinations =>
      (recordEvaluationResult checks attemptId result expectedRevision actor position
        destinations).done
  | .reconcileEvaluatingNode nodeId actor destinations =>
      (reconcileEvaluatingNode nodeId actor destinations).done
  | .recordDecision proposal decisionId expectedNodeRevision actor destinations =>
      (recordDecision checks proposal decisionId expectedNodeRevision actor destinations).done
  | .deferDecision nodeId actor destinations => (deferDecision nodeId actor destinations).done
  | .materializeCandidateProposal experimentId proposal nodeId actor destinations =>
      (materializeCandidateProposal checks experimentId proposal nodeId actor destinations).done
  | .realizePlannedNode nodeId expectedRevision run attempt operationId requestDigest actor
      destinations =>
      (realizePlannedNode checks nodeId expectedRevision run attempt operationId requestDigest
        actor destinations).done
  | .exhaustBudget experimentId reasons actor destinations =>
      (exhaustBudget experimentId reasons actor destinations).done
  | .settleBudget experimentId actor destinations =>
      (settleBudget experimentId actor destinations).done
  | .proposeAction request judgement decisionId destinations =>
      (proposeAction checks request judgement decisionId destinations).done
  | .proposeOOMRecoveryAction inputsPlan inputs proposal request judgement decisionId
      destinations =>
      (proposeOOMRecoveryAction checks inputsPlan inputs proposal request judgement decisionId
        destinations).done
  | .proposeNumericalRecoveryAction inputsPlan inputs proposal request judgement decisionId
      destinations =>
      (proposeNumericalRecoveryAction checks inputsPlan inputs proposal request judgement
        decisionId destinations).done
  | .recordNumericalIntervention actionId interventionId content actor destinations =>
      (recordNumericalIntervention checks actionId interventionId content actor destinations).done
  | .recordTrainingIntervention intervention actor destinations =>
      (recordTrainingIntervention checks intervention actor destinations).done
  | .recordInterventionApplication report actor destinations position =>
      (recordInterventionApplication report actor destinations position).done
  | .recordNumericalRecoveryExecution actionId successor checkpoint directives operationId
      requestDigest actor capabilities destinations =>
      (recordNumericalRecoveryExecution checks actionId successor checkpoint directives
        operationId requestDigest actor capabilities destinations).done
  | .abandonNumericalRecoveryAction actionId actor destinations =>
      (abandonNumericalRecoveryAction actionId actor destinations).done
  | .recordOOMRecoveryExecution actionId successor checkpoint directives operationId
      requestDigest actor capabilities destinations =>
      (recordOOMRecoveryExecution checks actionId successor checkpoint directives operationId
        requestDigest actor capabilities destinations).done
  | .abandonOOMRecoveryAction actionId actor destinations =>
      (abandonOOMRecoveryAction actionId actor destinations).done
  | .supersedeStaleOOMActions episodeId actor destinations =>
      (supersedeStaleOOMActions episodeId actor destinations).done
  | .approveAction actionId approver reason destinations =>
      (approveAction actionId approver reason destinations).done
  | .rejectAction actionId approver reason destinations =>
      (rejectAction actionId approver reason destinations).done
  | .createAttemptWithSubmitIntent attempt operationId requestDigest actor destinations =>
      (createAttemptWithSubmitIntent attempt operationId requestDigest actor destinations).done
  | .confirmOperation operationId expectedRevision actor runtimeRef destinations =>
      (confirmOperation operationId expectedRevision actor runtimeRef destinations).done
  | .markOperationSent operationId expectedRevision actor destinations =>
      (markOperationSent operationId expectedRevision actor destinations).done
  | .failOperation operationId expectedRevision actor destinations =>
      (failOperation operationId expectedRevision actor destinations).done
  | .requestCancellation target reason actor requestDigest actionId operationId destinations =>
      (requestCancellation checks target reason actor requestDigest actionId operationId
        destinations).done
  | .reconcileCancellation actionId actor destinations =>
      (reconcileCancellation actionId actor destinations).done
  | .requestExperimentCancellation experimentId reason actor actionId named ids destinations =>
      (requestExperimentCancellation checks experimentId reason actor actionId named ids
        destinations).done
  | .reconcileExperimentCancellation actionId actor destinations => do
      let _ ← reconcileExperimentCancellation actionId actor destinations
      pure ()

/-- The database a call leaves behind, whether it returned or raised. -/
def Op.exec (checks : Checks) (op : Op) (db : Db) : Db := (perform checks op).settle db

/-- The database a sequence of calls leaves behind. -/
def execAll (checks : Checks) : List Op → Db → Db
  | [], db => db
  | op :: rest, db => execAll checks rest (op.exec checks db)

/-- Checks that find nothing wrong, and fingerprint everything alike. -/
def Checks.permissive : Checks where
  candidateFingerprint _ := ""
  validIntent _ := true
  resultProvenance _ _ := true
  decisionInput _ _ _ := ""
  planningCandidateProjection _ := ""
  proposalFingerprint _ := ""
  plannerSpecFingerprint _ := ""
  planningContext _ _ := ""
  policyContext _ _ _ _ _ := ""
  applicabilityProblems _ _ _ _ _ := []
  incidentEvidence _ := true
  checkpointEvidence _ _ := true
  recoveryInputs _ _ := ""
  recoveryDecision _ _ := true
  executionStateFingerprint _ := ""
  oomInputs _ _ _ := true
  numericalInputs _ _ _ := true
  recoveryLimits _ _ := true
  checkpointReport _ _ _ := true

/-- The databases reached from the empty one by calls `allowed` where they are made. -/
abbrev ReachableBy (checks : Checks) (allowed : Db → Op → Prop) (db : Db) : Prop :=
  Reaches (Op.exec checks) allowed Db.empty db

/-- The databases any sequence of calls reaches. -/
abbrev Reachable (checks : Checks) (db : Db) : Prop := ReachableBy checks (fun _ _ => True) db

/-- The databases any further calls reach from one. -/
abbrev ReachableFrom (checks : Checks) (db db' : Db) : Prop :=
  Reaches (Op.exec checks) (fun _ _ => True) db db'

theorem reaches_execAll {checks : Checks} {allowed : Db → Op → Prop} {start : Db} (ops : List Op)
    {db : Db} (reached : Reaches (Op.exec checks) allowed start db)
    (permitted : ∀ op ∈ ops, ∀ db, allowed db op) :
    Reaches (Op.exec checks) allowed start (execAll checks ops db) := by
  induction ops generalizing db with
  | nil => exact reached
  | cons op rest ih =>
      refine ih (Reaches.next reached (permitted op List.mem_cons_self db)) ?_
      exact fun other member => permitted other (List.mem_cons_of_mem op member)

theorem reachable_execAll (checks : Checks) (ops : List Op) {db : Db}
    (reached : Reachable checks db) :
    Reachable checks (execAll checks ops db) :=
  reaches_execAll ops reached fun _ _ _ => trivial

theorem reachableFrom_execAll (checks : Checks) (ops : List Op) (db : Db) :
    ReachableFrom checks db (execAll checks ops db) :=
  reaches_execAll ops .start fun _ _ _ => trivial

theorem execAll_append {checks : Checks} (first second : List Op) (db : Db) :
    execAll checks (first ++ second) db = execAll checks second (execAll checks first db) := by
  induction first generalizing db with
  | nil => rfl
  | cons op rest ih => exact ih _

end Xaytune.Storage
