import Xaytune.Storage.Governance
import Xaytune.Storage.Recovery

/-!
# Training interventions

An intervention row is written with its event and an application with its own. An
application's previous value is derived from the attempt's retained trajectory, never
trusted, and one made under a directive is exactly what was directed.
-/

namespace Xaytune.Storage

open Xaytune.Core Xaytune.Library
open Transaction (read write refuse require expect forEach)

/-! ## Lineage -/

namespace Db

def interventionsForRun (db : Db) (runId : String) : List TrainingIntervention :=
  (sortedBy InterventionRow.recordedEventSequence
    (db.interventions.rows.filter fun row => row.intervention.runId = runId)).map
      InterventionRow.intervention

def applicationsForRun (db : Db) (runId : String) : List InterventionApplication :=
  sortedBy InterventionApplication.eventSequence
    ((db.applications.rows.filter fun row => row.runId = runId).map ApplicationRow.application)

/-- The attempt's lineage facts. -/
def attemptAncestry (attempt : RunAttempt) : AttemptAncestry :=
  ⟨attempt.id, attempt.attemptNumber, attempt.checkpointRef.map CheckpointRef.id⟩

/-- The checkpoint's lineage facts. -/
def checkpointFacts (record : RecordedCheckpoint) : CheckpointAncestry :=
  ⟨record.id, record.context.target.id, record.embodiedApplicationIds⟩

def checkpointsForAttempt (db : Db) (attemptId : String) : List RecordedCheckpoint :=
  db.checkpoints.rows.filter fun record => record.context.target = ⟨.trainingAttempt, attemptId⟩

/-- The immutable attempt and checkpoint facts that retained-trajectory lineage needs. -/
def runAncestry (db : Db) (runId : String) : List AttemptAncestry × List CheckpointAncestry :=
  ((db.attemptsForRun runId).map attemptAncestry,
    (db.attemptsForRun runId).flatMap fun attempt =>
      (db.checkpointsForAttempt attempt.id).map checkpointFacts)

/-- The rate the latest application of a trajectory left, or the candidate's declared one. -/
def rateOnTrajectory (db : Db) (run : Run) (trajectory : RetainedTrajectory) :
    Option EffectiveLearningRate :=
  match trajectory.applicationIds.getLast? with
  | some last =>
      ((db.applicationsForRun run.id).find? fun application => application.id = last).map
        fun latest => ⟨latest.appliedValue, some latest.id, some latest.interventionId⟩
  | none => do
      let node ← db.nodes.find? run.nodeId
      let declared ← node.candidate.learningRate
      let rate ← declared.positive?
      some ⟨rate, none, none⟩

/-- The base learning rate on the head's retained trajectory; `none` where it is unknown. -/
def effectiveLearningRate (db : Db) (run : Run) (head : String) : Option EffectiveLearningRate := do
  let trajectory ← retainedTrajectory head (db.runAncestry run.id).1 (db.runAncestry run.id).2
    (db.applicationsForRun run.id)
  db.rateOnTrajectory run trajectory

end Db

/-! ## Numerical decisions -/

/-- The bound plan is still the episode's open, fresh decision for this source. -/
def requireFreshNumericalDecision (checks : Checks) (proposal : NumericalLRProposal) :
    Repo Unit := do
  let plan ← read fun db => db.plans.find? proposal.planId
  let plan ← expect plan
    (.provenance "numerical proposal does not describe the recorded RecoveryPlan")
  require (plan.episodeId = proposal.episodeId && plan.sequence = proposal.planSequence &&
      plan.acceptedIncidentIds.contains proposal.incidentId)
    (.provenance "numerical proposal does not describe the recorded RecoveryPlan")
  let fresh ← read fun db => db.isEffectiveAndFresh plan.id
  require fresh (.staleRecoveryContext "numerical RecoveryPlan is no longer open and fresh")
  let run ← loadRow Run proposal.runId
  let attempt ← loadRow RunAttempt proposal.sourceAttemptId
  require (run.status = .active && attempt.runId = run.id &&
      run.candidateFingerprint = proposal.candidateFingerprint &&
      checks.executionStateFingerprint attempt = proposal.sourceExecutionStateFingerprint)
    (.staleRecoveryContext "numerical source changed before the decision was used")
  let effective ← read fun db => db.effectiveLearningRate run attempt.id
  let effective ← expect effective (.provenance "the trajectory's learning rate is unknown")
  require (effective = proposal.previousLearningRate)
    (.staleRecoveryContext "the trajectory's learning rate changed meanwhile")

/-- Whether an action is of the run, type and experiment its episode's current plan may bind. -/
def bindingAuthority (db : Db) (actionId episodeId planId : String) (planSequence : Nat)
    (type : String) : Bool :=
  match db.episodes.find? episodeId, db.plans.find? planId, db.actions.find? actionId with
  | some episode, some plan, some action =>
      plan.episodeId = episode.id && plan.sequence = planSequence &&
        db.isEffectiveAndFresh plan.id && episode.context.target.kind = .trainingAttempt &&
        action.experimentId = episode.context.experimentId &&
        action.target = ⟨.run, episode.context.runId⟩ && action.type = type
  | _, _, _ => false

/-- Whether a plan revision already binds an action of either kind. -/
def Db.planBound (db : Db) (planId : String) : Bool :=
  (db.numericalBindings.rows.any fun binding => binding.proposal.planId = planId) ||
    db.oomBindings.rows.any fun binding => binding.proposal.planId = planId

def insertNumericalBinding (binding : NumericalRecoveryActionBinding) : Repo Unit := do
  let proposal := binding.proposal
  let authorized ← read fun db =>
    bindingAuthority db binding.actionId proposal.episodeId proposal.planId proposal.planSequence
      "change-learning-rate" &&
    (db.membershipsOf proposal.episodeId).any fun membership =>
      membership.incidentId = proposal.incidentId &&
        membership.disposition = .acceptedForDecision
  require authorized (.integrity "numerical Action binding lacks current plan or Action ownership")
  let bound ← read fun db => db.planBound proposal.planId
  require (!bound) (.integrity "recovery plan revision already binds an Action")
  insertInto Db.numericalBindings (fun table db => { db with numericalBindings := table }) binding

/-- Govern one decision-bound `ChangeLearningRate` and bind it atomically. -/
def proposeNumericalRecoveryAction (checks : Checks) (inputsPlan : RecoveryPlan)
    (inputs : Document) (proposal : NumericalLRProposal) (request : ActionRequest)
    (judgement : Judgement) (decisionId : String) (destinations : List String) :
    Repo GovernedAction :=
  let binding : NumericalRecoveryActionBinding := ⟨request.actionId, proposal⟩
  proposeAction checks
    { request with spec := proposal.actionSpec, experimentId := inputsPlan.context.experimentId }
    judgement decisionId destinations
    (some
      { actionId := binding.actionId
        spec := proposal.actionSpec
        replay := do
          let existing ← read fun db => db.numericalBindings.rows.find? fun bound =>
            bound.proposal.planId = proposal.planId
          match existing with
          | none => pure none
          | some existing => do
              require (existing.proposal = proposal)
                (.idempotencyConflict proposal.planId ["numerical proposal"] "recovery plan")
              let governed ← governedAction existing.actionId
              pure (some governed)
        requireCurrent := do
          require (checks.numericalInputs proposal inputsPlan inputs)
            (.provenance "numerical proposal disagrees with its typed planning inputs")
          requireFreshNumericalDecision checks proposal
          let plan ← read fun db => db.plans.find? proposal.planId
          require (plan = some inputsPlan)
            (.staleRecoveryContext "numerical recovery inputs changed before proposal")
        insert := insertNumericalBinding binding })

/-! ## Recording an intervention -/

/-- The actor type an unbound intervention's action is proposed by. -/
def InterventionOrigin.proposer? : InterventionOrigin → Option String
  | .reactiveHuman => some "human"
  | .reactiveAgent => some "llm_agent"
  | .reactivePolicy | .scheduled => none

/-- Whether the incident a trigger names is one of the run. -/
def Db.triggeredBy (db : Db) (runId : String) : InterventionTrigger → Bool
  | .incident category (some incidentId) =>
      match db.incidents.find? incidentId with
      | none => false
      | some incident => incident.context.runId = runId && incident.category = category
  | _ => true

def requireInterventionProvenance (checks : Checks) (intervention : TrainingIntervention)
    (action : Action) (run : Run) : Repo Unit := do
  let binding ← read fun db => db.numericalBindings.find? action.id
  match binding with
  | some binding => do
      let proposal := binding.proposal
      require (intervention.origin = .reactivePolicy && intervention.trigger = proposal.trigger &&
          intervention.replayPolicy = proposal.replayPolicy &&
          intervention.runId = proposal.runId)
        (.provenance "a numerical-recovery intervention copies its bound decision's provenance")
      requireFreshNumericalDecision checks proposal
  | none => do
      let proposer ← expect (InterventionOrigin.proposer? intervention.origin)
        (.provenance "scheduled and unbound policy interventions are not executed")
      require (action.proposedBy.type = proposer)
        (.provenance "the intervention is proposed by another kind of actor")
      let triggered ← read fun db => db.triggeredBy run.id intervention.trigger
      require triggered (.provenance "the triggering incident is not this run's")

/-- Journal an intervention on its run and insert its row under the event's sequence. -/
def writeIntervention (intervention : TrainingIntervention) (run : Run) (actor : Actor)
    (destinations : List String) : Repo Unit := do
  emit run "TrainingInterventionRecorded" run.experimentId actor destinations
    (.trainingIntervention intervention)
  let sequence ← read fun db => db.events.length
  insertInto Db.interventions (fun table db => { db with interventions := table })
    ⟨intervention, run.experimentId, sequence⟩

/-- Record the scientific decision of one authorized action, with its event. -/
def recordTrainingIntervention (checks : Checks) (intervention : TrainingIntervention)
    (actor : Actor) (destinations : List String) : Repo TrainingIntervention := do
  let existing ← read fun db =>
    (db.interventions.rows.find? fun row => row.intervention.actionId = intervention.actionId) <|>
      db.interventions.find? intervention.id
  match existing with
  | some existing => do
      require (existing.intervention = intervention)
        (.idempotencyConflict intervention.actionId ["training_intervention"] "Action")
      pure existing.intervention
  | none => do
      let action ← loadRow Action intervention.actionId
      let decision ← read fun db => db.decisionForAction action.id
      require (awaitsExecution action decision)
        (.interventionNotAuthorized "only an authorized Action becomes a training intervention")
      require (action.type = "change-learning-rate" &&
          action.payload = .changeLearningRate intervention.mutation.learningRate)
        (.provenance "the Action does not decide this scientific mutation")
      let run ← loadRow Run intervention.runId
      require (action.target = ⟨.run, run.id⟩ && action.experimentId = run.experimentId)
        (.provenance "the Action does not target the run")
      require (run.status = .active) (.provenance "the run is not active")
      requireInterventionProvenance checks intervention action run
      writeIntervention intervention run actor destinations
      pure intervention

/-- Provenance is copied from the bound proposal, never inferred. -/
def recordNumericalIntervention (checks : Checks) (actionId interventionId : String)
    (content : Document) (actor : Actor) (destinations : List String) :
    Repo TrainingIntervention := do
  let binding ← read fun db => db.numericalBindings.find? actionId
  let binding ← expect binding (.provenance "the Action has no numerical recovery binding")
  let proposal := binding.proposal
  recordTrainingIntervention checks
    { id := interventionId, runId := proposal.runId, actionId := binding.actionId
      origin := .reactivePolicy, trigger := proposal.trigger
      replayPolicy := proposal.replayPolicy, mutation := proposal.mutation, content := content }
    actor destinations

/-! ## Recording an application -/

/-- What a worker confirms of one intervention's effect. -/
structure ApplicationReport where
  applicationId : String
  interventionId : String
  attemptId : String
  position : Document
  triggerEvaluation : Option Document := none
  observedPreviousValue : ℚ
  appliedValue : ℚ

/-- An application made under a directive must be exactly what was directed, and in order. -/
def requireDirective (intervention : TrainingIntervention) (attempt : RunAttempt)
    (report : ApplicationReport) : Repo (Option InterventionDirective) := do
  let found ← read fun db => db.directives.find? report.applicationId
  match found with
  | none => do
      let bound ← read fun db => (db.numericalBindings.find? intervention.actionId).isSome
      require (!bound)
        (.provenance "a numerical intervention takes effect only through a directive")
      pure none
  | some row => do
      let directive := row.directive
      require (directive.attemptId = attempt.id && directive.interventionId = intervention.id)
        (.provenance "the application does not match its directive")
      require (report.observedPreviousValue = directive.expectedPreviousValue)
        (.provenance "the confirmed previous learning rate is not the directive's expected")
      let earlier ← read fun db => (db.unconfirmedDirectives attempt.id).filter fun item =>
        item.ordinal < directive.ordinal
      require earlier.isEmpty (.provenance "directives take effect in their recorded order")
      pure (some directive)

/-- The first confirmed effect completes the governing action. -/
def settleNumericalActionOnEffect (intervention : TrainingIntervention)
    (directive : InterventionDirective) (actor : Actor) (destinations : List String) :
    Repo Unit :=
  if directive.kind = .initial then do
    let found ← getRow Action intervention.actionId
    match found with
    | none => pure ()
    | some action =>
        if action.status = .executing then do
          let _ ← settleAction action .succeeded (some .applied) "ActionApplied" actor destinations
          pure ()
        else pure ()
  else pure ()

/-- A checkpoint an attempt restores from is one its run recorded. -/
def requireRecordedAncestor (run : Run) : Option CheckpointRef → Repo Unit
  | none => pure ()
  | some ancestor => do
      let record ← read fun db => db.checkpoints.find? ancestor.id
      require (record.any fun record => record.context.runId = run.id)
        (.provenance "the attempt restores from a checkpoint this run never recorded")

/-- Journal an application on its attempt and insert its row under the event's sequence. -/
def writeApplication (application : InterventionApplication) (attempt : RunAttempt) (run : Run)
    (actor : Actor) (destinations : List String) : Repo InterventionApplication := do
  emit attempt "InterventionApplied" run.experimentId actor destinations
    (.interventionApplication run.id application)
  let sequence ← read fun db => db.events.length
  let application := { application with eventSequence := sequence }
  insertInto Db.applications (fun table db => { db with applications := table })
    ⟨application, run.id⟩
  pure application

/-- The fields of a recorded application that a replayed report must repeat. -/
def ApplicationReport.repeats (report : ApplicationReport) (intervention : TrainingIntervention)
    (attempt : RunAttempt) (existing : InterventionApplication) : Bool :=
  existing.interventionId = intervention.id && existing.attemptId = attempt.id &&
    existing.position = report.position &&
    existing.triggerEvaluation = report.triggerEvaluation &&
    existing.appliedValue = report.appliedValue &&
    existing.previousValue = report.observedPreviousValue

/-- Append one confirmed effect of an intervention, ordered by its event's sequence. -/
def recordInterventionApplication (report : ApplicationReport) (actor : Actor)
    (destinations : List String) (telemetryPosition : Option (Nat × Nat)) :
    Repo InterventionApplication := do
  let found ← read fun db => db.interventions.find? report.interventionId
  let row ← expect found (.aggregateNotFound "training intervention" report.interventionId)
  let intervention := row.intervention
  let attempt ← loadRow RunAttempt report.attemptId
  require (attempt.runId = intervention.runId)
    (.provenance "the attempt does not belong to the intervention's run")
  let existing ← read fun db => db.applications.find? report.applicationId
  match existing with
  | some existing => do
      require (report.repeats intervention attempt existing.application)
        (.idempotencyConflict report.applicationId ["intervention_application"] "application")
      advanceTelemetryGiven ⟨.trainingAttempt, attempt.id⟩ telemetryPosition
      pure existing.application
  | none => do
      require (report.appliedValue = intervention.mutation.learningRate)
        (.provenance "the applied value is not the intervention's decided value")
      let directive ← requireDirective intervention attempt report
      let run ← loadRow Run intervention.runId
      let previous ← read fun db => db.effectiveLearningRate run attempt.id
      let previous ← expect previous (.provenance "the trajectory's learning rate is unknown")
      require (report.observedPreviousValue = previous.value)
        (.provenance "the confirmed previous learning rate is not the retained-trajectory rate")
      requireRecordedAncestor run attempt.checkpointRef
      let application ← writeApplication
        { id := report.applicationId, interventionId := intervention.id, attemptId := attempt.id
          eventSequence := 1, position := report.position
          triggerEvaluation := report.triggerEvaluation, previousValue := previous.value
          appliedValue := report.appliedValue, checkpointAncestor := attempt.checkpointRef }
        attempt run actor destinations
      match directive with
      | none => pure ()
      | some directive => settleNumericalActionOnEffect intervention directive actor destinations
      advanceTelemetryGiven ⟨.trainingAttempt, attempt.id⟩ telemetryPosition
      pure application

end Xaytune.Storage
