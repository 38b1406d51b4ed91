import Xaytune.Storage.Interventions

/-!
# Recovery execution

A governed recovery decision is executed once: one commit writes the successor
attempt, the directives its restored lineage needs, the intent to submit it and the
receipt, after every authority is checked again. A decision that cannot be executed
is abandoned with its run, or superseded by a later plan.
-/

namespace Xaytune.Storage

open Xaytune.Core Xaytune.Library
open Transaction (read write refuse require expect forEach)

/-! ## OOM decisions -/

def insertOOMBinding (binding : RecoveryActionBinding) : Repo Unit := do
  let proposal := binding.proposal
  let authorized ← read fun db =>
    bindingAuthority db binding.actionId proposal.episodeId proposal.planId proposal.planSequence
      "resize-microbatch"
  require authorized (.integrity "recovery Action binding lacks current plan or Action ownership")
  let bound ← read fun db => db.planBound proposal.planId
  require (!bound) (.integrity "recovery plan revision already binds an Action")
  insertInto Db.oomBindings (fun table db => { db with oomBindings := table }) binding

/-- The proposal describes the recorded, fresh plan and its still unresolved source. -/
def requireCurrentOOMAction (checks : Checks) (proposal : OOMResizeProposal)
    (inputsPlan : RecoveryPlan) (inputs : Document) : Repo Unit := do
  require (checks.oomInputs proposal inputsPlan inputs)
    (.provenance "OOM proposal disagrees with its typed planning inputs")
  let plan ← read fun db => db.plans.find? proposal.planId
  require (plan = some inputsPlan && inputsPlan.episodeId = proposal.episodeId &&
      inputsPlan.sequence = proposal.planSequence)
    (.provenance "OOM proposal does not describe the recorded RecoveryPlan")
  let fresh ← read fun db => db.isEffectiveAndFresh proposal.planId
  require fresh (.staleRecoveryContext "OOM RecoveryPlan is no longer open and fresh")
  let run ← loadRow Run inputsPlan.context.runId
  let attempt ← loadRow RunAttempt inputsPlan.context.target.id
  require (run.status = .active && (attempt.status = .failed || attempt.status = .preempted) &&
      attempt.runId = run.id && run.candidateFingerprint = proposal.candidateFingerprint &&
      checks.executionStateFingerprint attempt = proposal.sourceExecutionStateFingerprint)
    (.staleRecoveryContext "OOM source execution changed before Action proposal")

/-- Govern one decision-bound resize and atomically bind its action. -/
def proposeOOMRecoveryAction (checks : Checks) (inputsPlan : RecoveryPlan) (inputs : Document)
    (proposal : OOMResizeProposal) (request : ActionRequest) (judgement : Judgement)
    (decisionId : String) (destinations : List String) : Repo GovernedAction :=
  let binding : RecoveryActionBinding := ⟨request.actionId, proposal⟩
  proposeAction checks
    { request with spec := proposal.actionSpec, experimentId := inputsPlan.context.experimentId }
    judgement decisionId destinations
    (some
      { actionId := binding.actionId
        spec := proposal.actionSpec
        replay := do
          let existing ← read fun db => db.oomBindings.rows.find? fun bound =>
            bound.proposal.planId = proposal.planId
          match existing with
          | none => pure none
          | some existing => do
              require (existing.proposal = proposal)
                (.idempotencyConflict proposal.planId ["OOM proposal"] "recovery plan")
              let governed ← governedAction existing.actionId
              pure (some governed)
        requireCurrent := requireCurrentOOMAction checks proposal inputsPlan inputs
        insert := insertOOMBinding binding })

/-! ## Successor directives -/

/-- The applications the restore checkpoint embodies, if it is one of the run's. -/
def restoredApplications (run : Run) : Option CheckpointRef → Repo (Option (List String))
  | none => pure none
  | some restore => do
      let record ← read fun db => db.checkpoints.find? restore.id
      let record ← expect record (.provenance "the checkpoint is not a recorded one of the run")
      require (record.context.runId = run.id)
        (.provenance "the checkpoint is not a recorded one of the run")
      pure record.embodiedApplicationIds

/-- Plan which interventions a successor restoring `restore` must apply. -/
def planSuccessorInterventions (runId : String) (restore : Option CheckpointRef)
    (initial : Option TrainingIntervention) : Repo ReplayPlan := do
  let run ← loadRow Run runId
  let embodied ← restoredApplications run restore
  let node ← loadRow ExperimentNode run.nodeId
  let interventions ← read fun db => db.interventionsForRun run.id
  let applications ← read fun db => db.applicationsForRun run.id
  require (node.candidate.learningRate.isSome || (interventions.isEmpty && initial.isNone))
    (.provenance "the run's candidate declares no learning rate")
  match planInterventionDirectives (node.candidate.learningRate.getD (.finite 1)) interventions
      applications restore.isSome embodied initial with
  | .error message => refuse (.interventionReplay message)
  | .ok plan => pure plan

/-- The directive is what the plan has at its place. -/
def directiveMatches (successorId : String) (directive : InterventionDirective) (ordinal : Nat)
    (planned : PlannedDirective) : Bool :=
  directive.attemptId = successorId && directive.ordinal = ordinal &&
    directive.interventionId = planned.interventionId && directive.kind = planned.kind &&
    directive.mutation = planned.mutation &&
    directive.expectedPreviousValue = planned.expectedPreviousValue

/-- The directives of a successor are its plan's, one for one and in order. -/
def directivesMatch (successorId : String) :
    Nat → List InterventionDirective → List PlannedDirective → Bool
  | _, [], [] => true
  | ordinal, directive :: rest, planned :: later =>
      directiveMatches successorId directive ordinal planned &&
        directivesMatch successorId (ordinal + 1) rest later
  | _, _, _ => false

/-- What a directive row's triggers allow: its run, checkpoint-backed attempt, order and value. -/
def directiveAllowed (db : Db) (directive : InterventionDirective) (runId : String) : Bool :=
  match db.interventions.find? directive.interventionId, db.attempts.find? directive.attemptId with
  | some row, some attempt =>
      row.intervention.runId = runId && attempt.runId = runId &&
        (attempt.checkpointRef.any fun restore =>
          (db.checkpoints.find? restore.id).any fun record => record.context.runId = runId) &&
        directive.mutation.learningRate = row.intervention.mutation.learningRate &&
        directive.ordinal = (db.directivesForAttempt directive.attemptId).length &&
        (db.applications.find? directive.applicationId).isNone &&
        (db.directivesForAttempt directive.attemptId).all fun other =>
          other.interventionId ≠ directive.interventionId
  | _, _ => false

def insertDirective (runId : String) (directive : InterventionDirective) : Repo Unit := do
  let allowed ← read fun db => directiveAllowed db directive runId
  require allowed (.integrity "directive lacks its run, checkpoint-backed attempt or value")
  insertInto Db.directives (fun table db => { db with directives := table }) ⟨directive, runId⟩

/-- Re-derive the successor's replay plan under the lock; refuse any disagreement. -/
def requireAndInsertDirectives (successor : RunAttempt) (directives : List InterventionDirective)
    (initial : Option TrainingIntervention) : Repo Unit := do
  let plan ← planSuccessorInterventions successor.runId successor.checkpointRef initial
  require (directivesMatch successor.id 0 directives plan.directives)
    (.staleRecoveryContext "successor intervention directives disagree with the restored lineage")
  forEach directives fun directive => insertDirective successor.runId directive

/-! ## Receipts -/

/-- An executed receipt's effect: the successor of the episode's attempt and its intended submit. -/
def executedEffect (db : Db) (receipt : RecoveryExecutionReceipt) (episode : RecoveryEpisode)
    (plan : RecoveryPlan) : Bool :=
  match receipt.successorAttemptId.bind db.attempts.find?,
      receipt.runtimeOperationId.bind db.operations.find? with
  | some successor, some operation =>
      db.isEffective plan episode && successor.runId = episode.context.runId &&
        successor.attemptNumber = episode.attemptNumber + 1 &&
        operation.target = ⟨.trainingAttempt, successor.id⟩ && operation.type = .submit &&
        operation.state = .intended && operation.causedByActionId = some receipt.actionId &&
        receipt.checkpointRef.all fun restore =>
          successor.checkpointRef.map CheckpointRef.id = some restore.id &&
            (db.checkpoints.find? restore.id).any fun record =>
              record.context.runId = episode.context.runId
  | _, _ => false

/-- A receipt names its bound decision, one executed for each episode, with its effect. -/
def receiptAllowed (db : Db) (receipts : List RecoveryExecutionReceipt) (bound : Bool)
    (receipt : RecoveryExecutionReceipt) : Bool :=
  match db.episodes.find? receipt.episodeId, db.plans.find? receipt.planId with
  | some episode, some plan =>
      bound && plan.episodeId = episode.id && plan.sequence = receipt.planSequence &&
        episode.context.target.kind = .trainingAttempt &&
        (receipt.outcome ≠ .executed ||
          (executedEffect db receipt episode plan &&
            receipts.all fun other =>
              other.episodeId ≠ receipt.episodeId || other.outcome ≠ .executed))
  | _, _ => false

def insertOOMReceipt (receipt : RecoveryExecutionReceipt) : Repo Unit := do
  let allowed ← read fun db => receiptAllowed db db.oomReceipts.rows
    ((db.oomBindings.find? receipt.actionId).any fun binding =>
      binding.proposal.episodeId = receipt.episodeId && binding.proposal.planId = receipt.planId)
    receipt
  require allowed (.integrity "executed receipt lacks current decision or bound effect")
  insertInto Db.oomReceipts (fun table db => { db with oomReceipts := table }) receipt

def insertNumericalReceipt (receipt : RecoveryExecutionReceipt) : Repo Unit := do
  let allowed ← read fun db => receiptAllowed db db.numericalReceipts.rows
    ((db.numericalBindings.find? receipt.actionId).any fun binding =>
      binding.proposal.episodeId = receipt.episodeId && binding.proposal.planId = receipt.planId)
    receipt
  require allowed (.integrity "numerical receipt lacks a fresh decision or its bound effect")
  insertInto Db.numericalReceipts (fun table db => { db with numericalReceipts := table }) receipt

/-! ## Execution -/

/-- The overrides of an attempt without the restore it ended with. -/
def priorOverrides (source : RunAttempt) : List ExecutionOverride :=
  match source.executionOverrides.getLast? with
  | some last =>
      if last.kind = .checkpointRestore then source.executionOverrides.dropLast
      else source.executionOverrides
  | none => source.executionOverrides

/-- The successor continues the source's run from the checkpoint, with `added` overrides. -/
def successorLineage (source successor : RunAttempt) (checkpoint : RecoveryCheckpointReport)
    (added : Nat) : Bool :=
  successor.runId = source.runId && successor.attemptNumber = source.attemptNumber + 1 &&
    successor.checkpointRef = some checkpoint.checkpointRef &&
    successor.executionFingerprint.isSome &&
    successor.executionOverrides.length = (priorOverrides source).length + added &&
    successor.executionOverrides.take (priorOverrides source).length = priorOverrides source

/-- Bind one governed resize to the successor's complete operational lineage. -/
def oomSuccessorLineage (source successor : RunAttempt) (proposal : OOMResizeProposal)
    (actionId : String) (checkpoint : RecoveryCheckpointReport) : Bool :=
  successorLineage source successor checkpoint 3 &&
    successor.executionFingerprint ≠ source.executionFingerprint &&
    match successor.executionOverrides.drop (priorOverrides source).length with
    | [micro, accumulation, restore] =>
        micro.kind = .microBatchResize &&
          micro.values = .resize proposal.oldMicroBatchSize proposal.microBatchSize &&
          micro.preserves = ["effective_batch_size"] &&
          accumulation.kind = .gradientAccumulationAdjustment &&
          accumulation.values =
            .resize proposal.oldGradientAccumulation proposal.gradientAccumulation &&
          accumulation.preserves = ["effective_batch_size"] &&
          restore.kind = .checkpointRestore &&
          restore.values = .checkpoint checkpoint.checkpointRef.id &&
          [micro, accumulation, restore].all fun item => item.actionId = some actionId
    | _ => false

/-- Bind a numerical successor to its source's operational lineage plus one restore. -/
def numericalSuccessorLineage (source successor : RunAttempt) (actionId : String)
    (checkpoint : RecoveryCheckpointReport) : Bool :=
  successorLineage source successor checkpoint 1 &&
    match successor.executionOverrides.getLast? with
    | some restore =>
        restore.kind = .checkpointRestore &&
          restore.values = .checkpoint checkpoint.checkpointRef.id &&
          restore.actionId = some actionId
    | none => false

/-- What both executors re-check of the episode under the lock; its unresolved source. -/
def requireExecutable (checks : Checks) (episode : RecoveryEpisode)
    (checkpoint : RecoveryCheckpointReport) : Repo RunAttempt := do
  require (episode.context.target.kind = .trainingAttempt)
    (.aggregateNotFound "RunAttempt" episode.context.target.id)
  requireAuthoritativeEpisode episode
  let late ← read fun db => db.successorExists episode
  let source ← loadRow RunAttempt episode.context.target.id
  require (!late && (source.status = .failed || source.status = .preempted))
    (.staleRecoveryContext "the source attempt changed before execution")
  let within ← read fun db => checks.recoveryLimits db episode
  require within (.staleRecoveryContext "recovery limits no longer admit a successor")
  let record ← read fun db => db.checkpoints.find? checkpoint.checkpointRef.id
  let record ← expect record (.staleRecoveryContext "validated checkpoint report changed")
  let producer ← loadRow RunAttempt record.context.target.id
  require (checkpoint.checkpointRef = record.checkpointRef &&
      checkpoint.producerAttemptNumber = producer.attemptNumber &&
      checks.checkpointReport record checkpoint episode)
    (.staleRecoveryContext "validated checkpoint report changed")
  pure source

/-- Neither what the runtime declares nor the action's applicability changed since the decision. -/
def requireApplicable (checks : Checks) (action : Action) (decision : PolicyDecision)
    (episode : RecoveryEpisode) (capabilities : Document) : Repo Unit := do
  let experiment ← loadRow Experiment episode.context.experimentId
  let problems ← read fun db => checks.applicabilityProblems db action.spec experiment
    action.proposedBy capabilities
  require (capabilities = decision.capabilities && problems.isEmpty)
    (.stalePolicyContext "Action capabilities or applicability changed")

/-- The writes of an executed decision: successor, directives, submit intent and `EXECUTING`. -/
def writeSuccessor (action : Action) (successor : RunAttempt) (operation : RuntimeOperation)
    (directives : List InterventionDirective) (initial : Option TrainingIntervention)
    (experimentId : String) (actor : Actor) (destinations : List String) :
    Repo RuntimeOperation := do
  requireBudget experimentId false
  requireCapacity experimentId
  insertAttempt successor
  requireAndInsertDirectives successor directives initial
  let stored ← recordAttemptIntent successor operation experimentId actor destinations
  let _ ← settleAction action .executing none "ActionExecuting" actor destinations
  pure stored

/-- The prior execution of an episode, if it is the one asked for again. -/
def replayExecution (prior : RecoveryExecutionReceipt) (actionId : String) (successor : RunAttempt)
    (operation : RuntimeOperation) (checkpoint : RecoveryCheckpointReport) :
    Repo (RunAttempt × RuntimeOperation × RecoveryExecutionReceipt) := do
  require (prior.actionId = actionId && prior.successorAttemptId = some successor.id &&
      prior.runtimeOperationId = some operation.id &&
      prior.checkpointRef = some checkpoint.checkpointRef)
    (.idempotencyConflict prior.episodeId ["successor execution"] "recovery episode")
  let recorded ← loadRow RunAttempt successor.id
  let found ← getRow RuntimeOperation operation.id
  let stored ← expect found (.domain "AssertionError")
  assertSameOperation stored operation
  require (recorded.runId = successor.runId && recorded.attemptNumber = successor.attemptNumber)
    (.idempotencyConflict successor.id ["run_id", "attempt_number"] "attempt")
  pure (recorded, stored, prior)

/-- The receipt of an executed decision. -/
def executedReceipt (episode : RecoveryEpisode) (plan : RecoveryPlan) (actionId : String)
    (successor : RunAttempt) (operation : RuntimeOperation)
    (checkpoint : RecoveryCheckpointReport) : RecoveryExecutionReceipt :=
  { episodeId := episode.id, planId := plan.id, planSequence := plan.sequence
    actionId := actionId, outcome := .executed, successorAttemptId := some successor.id
    runtimeOperationId := some operation.id, checkpointRef := some checkpoint.checkpointRef }

/-- Commit one governed OOM successor, submit intent and receipt atomically. -/
def recordOOMRecoveryExecution (checks : Checks) (actionId : String) (successor : RunAttempt)
    (checkpoint : RecoveryCheckpointReport) (directives : List InterventionDirective)
    (operationId requestDigest : String) (actor : Actor) (capabilities : Document)
    (destinations : List String) :
    Repo (RunAttempt × RuntimeOperation × RecoveryExecutionReceipt) := do
  requirePristine successor.status .created successor.revision
  let operation := submitOperation operationId ⟨.trainingAttempt, successor.id⟩ requestDigest
    (some actionId)
  let binding ← read fun db => db.oomBindings.find? actionId
  let binding ← expect binding (.provenance "OOM Action has no recovery decision binding")
  let proposal := binding.proposal
  let prior ← read fun db => db.oomReceipts.rows.find? fun receipt =>
    receipt.episodeId = proposal.episodeId ∧ receipt.outcome = .executed
  match prior with
  | some prior => replayExecution prior actionId successor operation checkpoint
  | none => do
      let episode ← read fun db => db.episodes.find? proposal.episodeId
      let episode ← expect episode
        (.staleRecoveryContext "OOM recovery decision is no longer open and fresh")
      let plan ← read fun db => db.plans.find? proposal.planId
      let plan ← expect plan
        (.staleRecoveryContext "OOM recovery decision is no longer open and fresh")
      let fresh ← read fun db => db.isEffectiveAndFresh plan.id
      require (plan.episodeId = episode.id && plan.sequence = proposal.planSequence && fresh)
        (.staleRecoveryContext "OOM recovery decision is no longer open and fresh")
      let action ← loadRow Action actionId
      let decision ← read fun db => db.decisionForAction actionId
      let decision ← expect decision
        (.provenance "OOM Action is not authorized for its bound recovery plan")
      require (action.spec = proposal.actionSpec &&
          action.experimentId = episode.context.experimentId &&
          action.target = ⟨.run, episode.context.runId⟩ &&
          ((decision.verdict = .allow && action.status = .validated) ||
            (decision.verdict = .requireApproval && action.status = .approved)))
        (.provenance "OOM Action is not authorized for its bound recovery plan")
      requireApplicable checks action decision episode capabilities
      let source ← requireExecutable checks episode checkpoint
      let run ← loadRow Run episode.context.runId
      require (run.status = .active &&
          checks.executionStateFingerprint source = proposal.sourceExecutionStateFingerprint &&
          run.candidateFingerprint = proposal.candidateFingerprint)
        (.staleRecoveryContext "OOM source attempt or Run changed before execution")
      require (oomSuccessorLineage source successor proposal actionId checkpoint)
        (.provenance "OOM successor does not preserve the source attempt lineage")
      let stored ← writeSuccessor action successor operation directives none
        episode.context.experimentId actor destinations
      let receipt := executedReceipt episode plan actionId successor stored checkpoint
      insertOOMReceipt receipt
      emit source "RecoveryExecutionRecorded" episode.context.experimentId actor destinations
        (.other actionId)
      pure (successor, stored, receipt)

/-- Commit one numerical successor, its directives, submit intent and receipt. -/
def recordNumericalRecoveryExecution (checks : Checks) (actionId : String) (successor : RunAttempt)
    (checkpoint : RecoveryCheckpointReport) (directives : List InterventionDirective)
    (operationId requestDigest : String) (actor : Actor) (capabilities : Document)
    (destinations : List String) :
    Repo (RunAttempt × RuntimeOperation × RecoveryExecutionReceipt) := do
  requirePristine successor.status .created successor.revision
  let operation := submitOperation operationId ⟨.trainingAttempt, successor.id⟩ requestDigest
    (some actionId)
  let binding ← read fun db => db.numericalBindings.find? actionId
  let binding ← expect binding (.provenance "numerical Action has no recovery decision binding")
  let proposal := binding.proposal
  let intervention ← read fun db => db.interventions.rows.find? fun row =>
    row.intervention.actionId = actionId
  let intervention ← expect intervention
    (.provenance "numerical Action has no recorded TrainingIntervention")
  let prior ← read fun db => db.numericalReceipts.rows.find? fun receipt =>
    receipt.episodeId = proposal.episodeId ∧ receipt.outcome = .executed
  match prior with
  | some prior => do
      let recorded ← read fun db => db.directivesForAttempt successor.id
      require (recorded = directives)
        (.idempotencyConflict prior.episodeId ["successor execution"] "recovery episode")
      replayExecution prior actionId successor operation checkpoint
  | none => do
      requireFreshNumericalDecision checks proposal
      let episode ← read fun db => db.episodes.find? proposal.episodeId
      let episode ← expect episode (.domain "AssertionError")
      let plan ← read fun db => db.plans.find? proposal.planId
      let plan ← expect plan (.domain "AssertionError")
      let found ← getRow Action actionId
      let action ← expect found
        (.provenance "numerical Action is not authorized for its bound plan")
      let decision ← read fun db => db.decisionForAction actionId
      require (action.spec = proposal.actionSpec && awaitsExecution action decision)
        (.provenance "numerical Action is not authorized for its bound plan")
      let decision ← expect decision
        (.provenance "numerical Action is not authorized for its bound plan")
      requireApplicable checks action decision episode capabilities
      let source ← requireExecutable checks episode checkpoint
      require (numericalSuccessorLineage source successor actionId checkpoint)
        (.provenance "numerical successor does not preserve the source attempt lineage")
      let stored ← writeSuccessor action successor operation directives
        (some intervention.intervention) episode.context.experimentId actor destinations
      let receipt := { executedReceipt episode plan actionId successor stored checkpoint with
        interventionId := some intervention.intervention.id }
      insertNumericalReceipt receipt
      emit source "RecoveryExecutionRecorded" episode.context.experimentId actor destinations
        (.other actionId)
      pure (successor, stored, receipt)

/-! ## Refusal -/

/-- Reject an action that has not been executed; one already rejected stays as it is. -/
def retireAction (action : Action) (eventType : String) (actor : Actor)
    (destinations : List String) : Repo Unit :=
  if action.status = .rejected then pure ()
  else do
    let _ ← settleAction action .rejected none eventType actor destinations
    pure ()

/-- The statuses an unexecuted action can be refused from. -/
def ActionStatus.unexecuted : ActionStatus → Bool
  | .validated | .approvalPending | .approved | .rejected => true
  | _ => false

/-- Which decisions an abandonment is about: the receipts kept and how one is written. -/
structure RecoveryFamily where
  receipts : Db → List RecoveryExecutionReceipt
  insertReceipt : RecoveryExecutionReceipt → Repo Unit

def oomFamily : RecoveryFamily := ⟨fun db => db.oomReceipts.rows, insertOOMReceipt⟩

def numericalFamily : RecoveryFamily :=
  ⟨fun db => db.numericalReceipts.rows, insertNumericalReceipt⟩

/-- Record a definitive refusal and fail the unresolved run atomically. -/
def abandonRecoveryAction (family : RecoveryFamily) (actionId episodeId planId : String)
    (actor : Actor) (destinations : List String) : Repo RecoveryExecutionReceipt := do
  let existing ← read fun db => (family.receipts db).filter fun receipt =>
    receipt.episodeId = episodeId
  match existing.find? fun receipt => receipt.actionId = actionId with
  | some same => do
      require (same.outcome = .abandoned)
        (.idempotencyConflict episodeId ["recovery execution"] "recovery episode")
      pure same
  | none => do
      require (existing.all fun receipt => receipt.outcome ≠ .executed)
        (.idempotencyConflict episodeId ["recovery execution"] "recovery episode")
      let episode ← read fun db => db.episodes.find? episodeId
      let episode ← expect episode
        (.staleRecoveryContext "the Action no longer governs the open episode")
      let plan ← read fun db => db.plans.find? planId
      let plan ← expect plan (.staleRecoveryContext "the Action no longer governs the open episode")
      let fresh ← read fun db => db.isEffectiveAndFresh plan.id
      let found ← getRow Action actionId
      let action ← expect found
        (.staleRecoveryContext "the Action no longer governs the open episode")
      require (fresh && ActionStatus.unexecuted action.status)
        (.staleRecoveryContext "the Action no longer governs the open episode")
      let run ← loadRow Run episode.context.runId
      require (run.status = .active) (.staleRecoveryContext "the Run has already settled")
      retireAction action "ActionRejected" actor destinations
      let receipt : RecoveryExecutionReceipt :=
        { episodeId := episode.id, planId := plan.id, planSequence := plan.sequence
          actionId := actionId, outcome := .abandoned }
      family.insertReceipt receipt
      let failed ← expect (run.withStatus .failed)
        (.invalidTransition "Run" (value run.status) "failed")
      updateRow failed
      settleRun failed actor destinations
      emit failed "RunStatusChanged" episode.context.experimentId actor destinations
      let attempt ← loadRow RunAttempt episode.context.target.id
      emit attempt "RecoveryExecutionRecorded" episode.context.experimentId actor destinations
        (.other actionId)
      pure receipt

def abandonOOMRecoveryAction (actionId : String) (actor : Actor) (destinations : List String) :
    Repo RecoveryExecutionReceipt := do
  let binding ← read fun db => db.oomBindings.find? actionId
  let binding ← expect binding (.provenance "OOM Action has no recovery decision binding")
  let plan ← read fun db => db.plans.find? binding.proposal.planId
  -- an existing receipt is returned before the plan is looked at
  let recorded ← read fun db => (db.oomReceipts.find? actionId).isSome
  require (recorded || plan.any fun plan => plan.sequence = binding.proposal.planSequence)
    (.staleRecoveryContext "OOM Action no longer governs the open episode")
  abandonRecoveryAction oomFamily actionId binding.proposal.episodeId binding.proposal.planId actor
    destinations

def abandonNumericalRecoveryAction (actionId : String) (actor : Actor)
    (destinations : List String) : Repo RecoveryExecutionReceipt := do
  let binding ← read fun db => db.numericalBindings.find? actionId
  let binding ← expect binding (.provenance "numerical Action has no recovery decision binding")
  abandonRecoveryAction numericalFamily actionId binding.proposal.episodeId
    binding.proposal.planId actor destinations

/-- Retire one unconsumed action bound to an obsolete revision. -/
def supersedeAction (episode : RecoveryEpisode) (current : RecoveryPlan)
    (binding : RecoveryActionBinding) (actor : Actor) (destinations : List String) :
    Repo Unit := do
  let recorded ← read fun db => (db.oomReceipts.find? binding.actionId).isSome
  if binding.proposal.planId = current.id ∨ recorded then pure ()
  else do
    let found ← getRow Action binding.actionId
    let action ← expect found (.domain "AssertionError")
    require (ActionStatus.unexecuted action.status)
      (.staleRecoveryContext "an executing OOM Action cannot be superseded by a new plan")
    retireAction action "ActionSuperseded" actor destinations
    insertOOMReceipt
      { episodeId := episode.id, planId := binding.proposal.planId
        planSequence := binding.proposal.planSequence, actionId := binding.actionId
        outcome := .superseded }
    let attempt ← loadRow RunAttempt episode.context.target.id
    emit attempt "RecoveryExecutionRecorded" episode.context.experimentId actor destinations
      (.other binding.actionId)

/-- Retire unconsumed actions bound to obsolete episode revisions. -/
def supersedeStaleOOMActions (episodeId : String) (actor : Actor) (destinations : List String) :
    Repo Unit := do
  let current ← read fun db => db.effectivePlan episodeId
  let current ← expect current
    (.staleRecoveryContext "OOM episode has no fresh effective decision")
  let fresh ← read fun db => db.isEffectiveAndFresh current.id
  require fresh (.staleRecoveryContext "OOM episode has no fresh effective decision")
  let episode ← read fun db => db.episodes.find? episodeId
  let episode ← expect episode (.domain "AssertionError")
  let bindings ← read fun db => sortedBy (fun binding => binding.proposal.planSequence)
    (db.oomBindings.rows.filter fun binding => binding.proposal.episodeId = episodeId)
  forEach bindings fun binding => supersedeAction episode current binding actor destinations

end Xaytune.Storage
