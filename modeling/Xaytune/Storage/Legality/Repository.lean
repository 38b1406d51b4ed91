import Xaytune.Storage.Repository
import Xaytune.Storage.Legality.Evaluation
import Xaytune.Storage.Legality.Planning
import Xaytune.Storage.Legality.Reconciliation
import Xaytune.Storage.Legality.RecoveryExecution

/-!
# Every call is a chain of writes

Whatever a repository call is given and wherever it is made, the database it leaves
is a chain of writes under the licence of that call, with nothing left owed. So what
every write keeps holds in every reachable state.
-/

namespace Xaytune.Storage

open Xaytune.Core Xaytune.Library

/-- The experiments a call may give rows to without looking at their status. -/
def Op.orphans (db : Db) (op : Op) (experimentId : String) : Prop :=
  match op with
  | .createNode node _ _ => node.experimentId = experimentId
  | .createRun run _ _ => run.experimentId = experimentId
  | .createAttemptWithSubmitIntent attempt operationId _ _ _ =>
      db.operations.find? operationId = none ∧
        ∃ run, db.runs.find? attempt.runId = some run ∧ run.experimentId = experimentId
  | _ => False

/-- Whether a call may settle a run's quota otherwise than by what was committed when it ended. -/
def Op.late (db : Db) (op : Op) : Prop :=
  match op with
  | .confirmOperation operationId _ _ _ _ => ConfirmsLate db operationId
  | .settleBudget _ _ _ => True
  | _ => False

/-- Whether a call journals a run's transition under an intervention's event type. -/
def Op.retyped (op : Op) : Prop :=
  match op with
  | .transitionRun _ _ _ _ eventType _ => eventType = some "TrainingInterventionRecorded"
  | _ => False

/-- Whether a call settles cancellations recorded by other calls. -/
def Op.settles (op : Op) : Prop :=
  match op with
  | .reconcileCancellation _ _ _ | .reconcileExperimentCancellation _ _ _ => True
  | _ => False

/-- The submission a call may accept. -/
def Op.accepts (op : Op) (requestId : String) : Prop :=
  match op with
  | .admitExperiment _ _ _ _ _ _ (some submission) _ _ => submission.id = requestId
  | _ => False

/-- Whether a call takes a node to `DECIDING` while a run of its cycle is still to end, or creates
one that names decisions. -/
def Op.skips (db : Db) (op : Op) : Prop :=
  match op with
  | .transitionNode id _ newStatus _ _ _ =>
      newStatus = .deciding ∧ ∃ node, db.nodes.find? id = some node ∧ ¬ CycleEnded db node
  | .createNode node _ _ => node.decisionIds ≠ []
  | .admitExperiment _ node _ _ _ _ _ _ _ => node.decisionIds ≠ []
  | _ => False

/-- The nodes a call may create. -/
def Op.plants (checks : Checks) (db : Db) (op : Op) (row : ExperimentNode) : Prop :=
  match op with
  | .createNode node _ _ =>
      row = node ∧ row.candidateFingerprint = checks.candidateFingerprint row.candidate
  | .admitExperiment experiment node _ _ _ _ _ _ _ => row = node ∧
      row.candidateFingerprint = checks.candidateFingerprint row.candidate ∧
      row.experimentId = experiment.id ∧ db.experiments.find? experiment.id = none
  | .materializeCandidateProposal experimentId (.candidate proposal) nodeId _ _ =>
      Branches checks db experimentId proposal nodeId row
  | _ => False

/-- A position of a stream, as a cursor has it. -/
def streamPosition (given : Nat × Nat) : Nat × Int := (given.1, given.2)

/-- The positions a call may move an attempt's cursor to: that of the event it records, or the start
of the generation after a stream that died. -/
def Op.streams (db : Db) (op : Op) (target : RuntimeOperationTarget) (position : Nat × Int) :
    Prop :=
  match op with
  | .transitionAttempt id _ _ _ _ _ (some given) =>
      target = ⟨.trainingAttempt, id⟩ ∧ position = streamPosition given
  | .recordArtifact id _ _ _ _ (some given) =>
      target = ⟨.trainingAttempt, id⟩ ∧ position = streamPosition given
  | .recordIncident incident _ _ =>
      target = incident.context.target ∧
        position = streamPosition (incident.streamGeneration, incident.sequence)
  | .recordCheckpoint id commit _ _ =>
      target = ⟨.trainingAttempt, id⟩ ∧
        position = streamPosition (commit.generation, commit.sequence)
  | .recordInterventionApplication report _ _ (some given) =>
      target = ⟨.trainingAttempt, report.attemptId⟩ ∧ position = streamPosition given
  | .transitionEvaluationAttempt id _ _ _ _ (some given) _ =>
      target = ⟨.evaluationAttempt, id⟩ ∧ position = streamPosition given
  | .holdEvaluationCompletion id _ given _ _ =>
      target = ⟨.evaluationAttempt, id⟩ ∧ position = streamPosition given
  | .recordEvaluationResult id _ _ _ (some given) _ =>
      target = ⟨.evaluationAttempt, id⟩ ∧ position = streamPosition given
  | .recordTelemetryDegraded degraded _ _ =>
      target = degraded ∧ position = ((db.telemetryPosition degraded).1 + 1, -1)
  | _ => False

/-- What a call may do where it is made. -/
def Op.licence (checks : Checks) (db : Db) (op : Op) : Licence :=
  ⟨op.orphans db, op.late db, op.retyped, op.settles, op.accepts, op.skips db,
    op.plants checks db, op.streams db⟩

section Calls

variable {checks : Checks} {db : Db}

theorem Closed.done {L : Licence} {α : Type} {m : Repo α} (closed : Closed L m db)
    (sound : Sound [] db) : Writes L [] db [] (m.done.settle db) := by
  unfold Repo.done
  rcases Session.bind_settle (Session.commit m) (fun _ => pure ()) db with raised | ⟨a, continued⟩
  · rw [raised, Session.commit_settle]
    exact closed.settle sound
  · rw [continued, Session.commit_settle]
    exact closed.settle sound

/-- Every call is a chain of writes under its licence. -/
theorem Op.writes (sound : Sound [] db) (op : Op) :
    Writes (op.licence checks db) [] db [] (op.exec checks db) := by
  unfold Op.exec
  cases op with
  | createExperiment => exact (createExperiment_closed _ _ _).done sound
  | createNode node =>
      refine (createNode_closed _ _ _ _ rfl ?_ ?_).done sound
      · exact (Classical.em (node.decisionIds = [])).symm
      · intro consistent
        exact ⟨rfl, consistent⟩
  | createRun => exact (createRun_closed _ _ _ rfl).done sound
  | admitExperiment experiment node =>
      refine (admitExperiment_closed _ _ _ _ _ _ _ _ ?_ ?_ ?_).done sound
      · rintro _ rfl
        rfl
      · exact (Classical.em (node.decisionIds = [])).symm
      · intro consistent owner unrecorded
        exact ⟨rfl, consistent, owner, unrecorded⟩
  | recordControllerRequest => exact (recordControllerRequest_closed _).done sound
  | completeControllerRequest => exact (moveRequest_closed _ _ _ _ (by decide)).done sound
  | failControllerRequest => exact (moveRequest_closed _ _ _ _ (by decide)).done sound
  | recordControllerRest => exact (recordControllerRest_closed _ _ _).done sound
  | beginAgentInvocation => exact (beginAgentInvocation_closed _ _).done sound
  | settleAgentInvocation => exact (settleAgentInvocation_closed _).done sound
  | transitionExperiment =>
      exact Closed.done (Legal.transitionExperiment fun _ _ _ _ _ _ => rfl) sound
  | transitionNode =>
      refine Closed.done (Legal.transitionNode ?_ fun _ _ _ _ _ _ => rfl) sound
      intro isDeciding node found
      rcases Classical.em (CycleEnded db node) with ended | live
      · exact .inr ended
      · exact .inl ⟨isDeciding, node, found, live⟩
  | transitionRun id expectedRevision newStatus actor eventType destinations =>
      refine (transitionRun_closed newStatus ?_).done sound
      exact Classical.em (eventType = some "TrainingInterventionRecorded")
  | transitionAttempt =>
      refine (transitionAttempt_closed _ _ ?_).done sound
      rintro _ rfl
      exact ⟨rfl, rfl⟩
  | recordArtifact =>
      refine (recordArtifact_closed _ _ _ ?_).done sound
      rintro _ rfl
      exact ⟨rfl, rfl⟩
  | attachRecoveryEvidence => exact (attachRecoveryEvidence_closed _).done sound
  | recordRecoveryPlan => exact (recordRecoveryPlan_closed _ _ _).done sound
  | recordMetricPoints => exact (recordMetricPoints_closed _ _ _ _).done sound
  | recordIncident =>
      refine (recordIncident_closed _ _ ?_).done sound
      exact ⟨rfl, rfl⟩
  | recordCheckpoint =>
      refine (recordCheckpoint_closed _ _ _ ?_).done sound
      exact ⟨rfl, rfl⟩
  | recordTelemetryDegraded =>
      refine (recordTelemetryDegraded_closed _ ?_).done sound
      exact ⟨rfl, rfl⟩
  | beginEvaluationCycle => exact (beginEvaluationCycle_closed _ _ _).done sound
  | createEvaluationRun => exact (createEvaluationRun_closed _).done sound
  | transitionEvaluationRun => exact (transitionEvaluationRun_closed _ _ _ _).done sound
  | transitionEvaluationAttempt =>
      refine (transitionEvaluationAttempt_closed _ _ _ _ _ ?_).done sound
      rintro _ rfl
      exact ⟨rfl, rfl⟩
  | holdEvaluationCompletion =>
      refine (holdEvaluationCompletion_closed _ _ _ ?_).done sound
      exact ⟨rfl, rfl⟩
  | createEvaluationAttemptWithSubmitIntent =>
      exact (createEvaluationAttemptWithSubmitIntent_closed _ _ _).done sound
  | recordEvaluationResult =>
      refine (recordEvaluationResult_closed _ _ _ _ _ ?_).done sound
      rintro _ rfl
      exact ⟨rfl, rfl⟩
  | reconcileEvaluatingNode => exact (reconcileEvaluatingNode_closed _).done sound
  | recordDecision => exact (recordDecision_closed _ _ _ _).done sound
  | deferDecision => exact (deferDecision_closed _).done sound
  | materializeCandidateProposal =>
      refine (materializeCandidateProposal_closed _ _ _ _ ?_).done sound
      rintro candidate node rfl branches
      exact branches
  | realizePlannedNode => exact (realizePlannedNode_closed _ _ _ _ _ _ _).done sound
  | exhaustBudget => exact (exhaustBudget_closed _ _).done sound
  | settleBudget => exact (settleBudget_closed _ trivial).done sound
  | proposeAction =>
      exact (proposeAction_closed _ _ _ _ none fun _ bound => by cases bound).done sound
  | proposeOOMRecoveryAction =>
      exact (proposeOOMRecoveryAction_closed _ _ _ _ _ _ _ _).done sound
  | proposeNumericalRecoveryAction =>
      exact (proposeNumericalRecoveryAction_closed _ _ _ _ _ _ _ _).done sound
  | recordNumericalIntervention =>
      exact (recordNumericalIntervention_closed _ _ _ _).done sound
  | recordTrainingIntervention => exact (recordTrainingIntervention_closed _ _).done sound
  | recordInterventionApplication =>
      refine (recordInterventionApplication_closed _ _ ?_).done sound
      rintro _ rfl
      exact ⟨rfl, rfl⟩
  | recordNumericalRecoveryExecution =>
      exact (recordNumericalRecoveryExecution_closed _ _ _ _ _ _ _ _).done sound
  | abandonNumericalRecoveryAction =>
      exact (abandonNumericalRecoveryAction_closed _).done sound
  | recordOOMRecoveryExecution =>
      exact (recordOOMRecoveryExecution_closed _ _ _ _ _ _ _ _).done sound
  | abandonOOMRecoveryAction => exact (abandonOOMRecoveryAction_closed _).done sound
  | supersedeStaleOOMActions => exact (supersedeStaleOOMActions_closed _).done sound
  | approveAction => exact (resolveApproval_closed _ _ _ _ _ (.inl ⟨rfl, rfl⟩)).done sound
  | rejectAction => exact (resolveApproval_closed _ _ _ _ _ (.inr ⟨rfl, rfl⟩)).done sound
  | createAttemptWithSubmitIntent attempt operationId requestDigest actor destinations =>
      refine (createAttemptWithSubmitIntent_closed _ _ _ _ _ ?_).done sound
      exact fun fresh run found => ⟨fresh, run, found, rfl⟩
  | confirmOperation operationId expectedRevision actor runtimeRef destinations =>
      exact (settleOperation_closed _ _ _ _ fun _ late => late).done sound
  | markOperationSent | failOperation =>
      exact (settleOperation_closed _ _ _ _ (by rintro ⟨⟩)).done sound
  | requestCancellation => exact (requestCancellation_closed _ _ _ _ _ _).done sound
  | reconcileCancellation => exact (reconcileCancellation_closed _ trivial).done sound
  | requestExperimentCancellation =>
      exact (requestExperimentCancellation_closed _ _ _ _ _ _).done sound
  | reconcileExperimentCancellation actionId actor destinations =>
      have settled : Writes
          ((Op.reconcileExperimentCancellation actionId actor destinations).licence checks db)
            [] db []
          (Session.settle
            (Storage.reconcileExperimentCancellation actionId actor destinations) db) :=
        (reconcileExperimentCancellation_settles trivial sound actionId).1
      rcases Session.bind_settle
        (Storage.reconcileExperimentCancellation actionId actor destinations)
        (fun _ => pure ()) db with raised | ⟨_, continued⟩
      · exact raised ▸ settled
      · exact continued ▸ settled

/-- The record of every reachable state is sound. -/
theorem ReachableBy.sound {allowed : Db → Op → Prop} (reached : ReachableBy checks allowed db) :
    Sound [] db :=
  Reaches.invariant reached Sound.empty fun _ op sound _ => (Op.writes sound op).sound sound

/-- No call undoes what is on record. -/
theorem Op.grows (sound : Sound [] db) (op : Op) : Grows db (op.exec checks db) :=
  (Op.writes sound op).grows

/-- Nothing on record is undone by any further calls. -/
theorem ReachableFrom.grows {db' : Db} (later : ReachableFrom checks db db')
    (reached : Reachable checks db) : Grows db db' := by
  induction later with
  | start => exact .refl db
  | @next s op continued _ ih =>
      exact ih.trans (Op.grows (ReachableBy.sound (reached.trans continued)) op)

/-- What every write of a call that is allowed keeps, or a call that writes nothing, holds of every
state such calls reach. -/
theorem ReachableBy.invariant_of_idle {allowed : Db → Op → Prop} {I : Debt → Db → Prop}
    (reached : ReachableBy checks allowed db) (init : I [] Db.empty)
    (kept : ∀ db₀ op, allowed db₀ op → Sound [] db₀ → I [] db₀ → op.exec checks db₀ = db₀ ∨
      ∀ d db d' db', Sound d db → Write (op.licence checks db₀) d db d' db' → I d db → I d' db') :
    I [] db := by
  have both : Sound [] db ∧ I [] db := by
    refine Reaches.invariant (I := fun db => Sound [] db ∧ I [] db) reached
      ⟨Sound.empty, init⟩ ?_
    rintro db₀ op ⟨sound, holds⟩ permitted
    rcases kept db₀ op permitted sound holds with idle | keeps
    · rw [idle]
      exact ⟨sound, holds⟩
    · refine Steps.invariant (I := fun d db => Sound d db ∧ I d db) (Op.writes sound op)
        ⟨sound, holds⟩ ?_
      rintro d db d' db' write ⟨sound', holds'⟩
      exact ⟨write.sound sound', keeps d db d' db' sound' write holds'⟩
  exact both.2

/-- What every write of a call that is allowed keeps holds of every state such calls reach. -/
theorem ReachableBy.invariant {allowed : Db → Op → Prop} {I : Debt → Db → Prop}
    (reached : ReachableBy checks allowed db) (init : I [] Db.empty)
    (kept : ∀ db₀ op, allowed db₀ op → ∀ d db d' db', Sound d db →
      Write (op.licence checks db₀) d db d' db' → I d db → I d' db') : I [] db :=
  reached.invariant_of_idle init fun db₀ op permitted _ _ => .inr (kept db₀ op permitted)

end Calls

end Xaytune.Storage
