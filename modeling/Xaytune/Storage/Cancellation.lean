import Xaytune.Storage.Governance

/-!
# Cancellation

Cancelling is intent plus an observed terminal state. A request records an action
and, if its target is live, the cancel operation it causes; reconciling derives the
outcome from the target's status and the operations the action caused. Cancelling an
experiment is a saga over its live attempts, settled once nothing it owns is running.
-/

namespace Xaytune.Storage

open Xaytune.Core Xaytune.Library
open Transaction (read write refuse require expect forEach)

/-! ## Targets -/

/-- What a cancellation looks at in its target: whether it ended, and whether cancelled. -/
inductive TargetState where
  | live | cancelled | ended

def trainingState (attempt : RunAttempt) : TargetState :=
  if !attempt.isTerminal then .live else if attempt.status = .cancelled then .cancelled else .ended

def evaluationState (attempt : EvaluationAttempt) : TargetState :=
  if !attempt.isTerminal then .live else if attempt.status = .cancelled then .cancelled else .ended

/-- `_cancellable_attempt`: the attempt a cancellation targets, of either kind. -/
def Db.targetState? (db : Db) (target : ActionTarget) : Except StoreError TargetState :=
  match target.kind with
  | .trainingAttempt =>
      match db.attempts.find? target.id with
      | none => .error (.aggregateNotFound "RunAttempt" target.id)
      | some attempt => .ok (trainingState attempt)
  | .evaluationAttempt =>
      match db.evaluationAttempts.find? target.id with
      | none => .error (.aggregateNotFound "EvaluationAttempt" target.id)
      | some attempt => .ok (evaluationState attempt)
  | _ => .error (.unknownOperationTarget target.id)

def targetState (target : ActionTarget) : Repo TargetState := do
  let state ← read fun db => db.targetState? target
  match state with
  | .error e => refuse e
  | .ok state => pure state

/-- `_terminal_outcome`: how a cancellation resolves against a target that has already ended. -/
def TargetState.terminalOutcome : TargetState → Option ActionOutcome
  | .live => none
  | .cancelled => some .noop
  | .ended => some .superseded

def cancellationEvent : Option ActionOutcome → String
  | some .applied => "CancellationApplied"
  | some .superseded => "CancellationSuperseded"
  | some .noop => "CancellationNoop"
  | none => "CancellationFailed"

/-! ## Requests -/

def Db.causedOperations (db : Db) (actionId : String) : List RuntimeOperation :=
  db.operations.rows.filter fun operation => operation.causedByActionId = some actionId

/-- A proposed cancellation, recorded and moved to `EXECUTING` one event at a time. -/
def startCancellation (checks : Checks) (proposed : Action) (actor : Actor)
    (destinations : List String) : Repo Action := do
  insertAction checks proposed
  emit proposed "ActionProposed" proposed.experimentId actor destinations
  let validating ← settleAction proposed .validating none "ActionValidating" actor destinations
  let validated ← settleAction validating .validated none "ActionValidated" actor destinations
  settleAction validated .executing none "ActionExecuting" actor destinations

/-- Write one attempt cancellation: the action and, if its target is live, its effect. -/
def recordCancellation (checks : Checks) (proposed : Action) (target : RuntimeOperationTarget)
    (operationId requestDigest experimentId : String) (actor : Actor)
    (destinations : List String) : Repo (Action × Option RuntimeOperation) := do
  let state ← targetState proposed.target
  let executing ← startCancellation checks proposed actor destinations
  match state.terminalOutcome with
  | some outcome => do
      let settled ← settleAction executing .succeeded (some outcome)
        (cancellationEvent (some outcome)) actor destinations
      pure (settled, none)
  | none => do
      let stored ← insertOperation
        { id := operationId, target := target, type := .cancel, requestDigest := requestDigest
          causedByActionId := some executing.id }
      emit executing "CancellationRequested" executing.experimentId actor destinations
      emit stored "RuntimeOperationIntended" experimentId actor destinations
      pure (executing, some stored)

/-- The already recorded result of this exact request, if any. -/
def replayCancellation (candidate : Action) (operationId : String) :
    Repo (Option (Action × Option RuntimeOperation)) := do
  let existingAction ← getRow Action candidate.id
  let existingOperation ← getRow RuntimeOperation operationId
  match existingAction, existingOperation with
  | none, none => pure none
  | none, some _ => refuse (.idempotencyConflict operationId ["caused_by_action_id"] "operation")
  | some action, none => do
      assertSameAction action candidate
      let caused ← read fun db => db.causedOperations action.id
      require action.isTerminal
        (if caused.isEmpty then .storage "in flight but has no caused operation"
          else .idempotencyConflict action.id ["operation_id"] "action")
      pure (some (action, none))
  | some action, some operation => do
      assertSameAction action candidate
      require (operation.causedByActionId = some candidate.id)
        (.idempotencyConflict operationId ["caused_by_action_id"] "operation")
      pure (some (action, some operation))

/-- A cancellation of one attempt, as it is first proposed. -/
def cancelAttemptAction (actionId experimentId : String) (target : RuntimeOperationTarget)
    (actor : Actor) (reason : String) (parentActionId : Option String := none) : Action :=
  { id := actionId, experimentId := experimentId, type := "cancel-attempt"
    target := ⟨target.kind.toActionTargetKind, target.id⟩, proposedBy := actor, reason := reason
    parentActionId := parentActionId }

/-- Record intent to cancel, and the effect it causes, in one commit; get-or-create. -/
def requestCancellation (checks : Checks) (target : ActionTarget) (reason : String) (actor : Actor)
    (requestDigest actionId operationId : String) (destinations : List String) :
    Repo (Action × Option RuntimeOperation) := do
  let kind ← expect target.kind.attemptKind? .cancellationSagaRequired
  let attempt : RuntimeOperationTarget := ⟨kind, target.id⟩
  let experimentId ← experimentOfAttempt attempt
  let proposed := cancelAttemptAction actionId experimentId attempt actor reason
  let replayed ← replayCancellation proposed operationId
  match replayed with
  | some replayed => do
      require (replayed.2.all fun operation => operation.requestDigest = requestDigest)
        (.idempotencyConflict operationId ["request_digest"] "operation")
      pure replayed
  | none =>
      recordCancellation checks proposed attempt operationId requestDigest experimentId actor
        destinations

/-! ## Reconciliation -/

/-- The status and outcome a cancellation is settled with. -/
structure Resolution where
  status : ActionStatus
  outcome : Option ActionOutcome

/-- The operations an action caused against its own target. -/
def Db.causedOf (db : Db) (action : Action) : List RuntimeOperation :=
  db.operations.rows.filter fun operation =>
    operation.target.kind.toActionTargetKind = action.target.kind ∧
      operation.target.id = action.target.id ∧ operation.causedByActionId = some action.id

/-- `_observed_outcome`: derived from what is recorded; `none` leaves the action in flight. -/
def resolutionOf (state : TargetState) (caused : List RuntimeOperation) : Option Resolution :=
  match state with
  | .ended => some ⟨.succeeded, some .superseded⟩
  | .cancelled =>
      if caused.any fun operation => operation.state = .confirmed then
        some ⟨.succeeded, some .applied⟩
      else none
  | .live =>
      if !caused.isEmpty && caused.all fun operation => operation.state = .failed then
        some ⟨.failed, none⟩
      else none

def Db.observedOutcome (db : Db) (action : Action) : Except StoreError (Option Resolution) :=
  match db.targetState? action.target with
  | .error e => .error e
  | .ok state => .ok (resolutionOf state (db.causedOf action))

/-- The write half of a reconciliation, of an action read before it. -/
def commitResolution (action : Action) (resolution : Resolution) (actor : Actor)
    (destinations : List String) : Repo Action :=
  settleAction action resolution.status resolution.outcome (cancellationEvent resolution.outcome)
    actor destinations

/-- Settle a cancellation from observed state, or leave it in flight. -/
def reconcileCancellation (actionId : String) (actor : Actor) (destinations : List String) :
    Repo Action := do
  let action ← loadRow Action actionId
  if action.isTerminal then pure action
  else do
    let observed ← read fun db => db.observedOutcome action
    match observed with
    | .error e => refuse e
    | .ok none => pure action
    | .ok (some resolution) => commitResolution action resolution actor destinations

/-! ## The experiment saga -/

/-- The attempts of the experiment that are not yet terminal, training then evaluation. -/
def Db.liveTargets (db : Db) (experimentId : String) : List RuntimeOperationTarget :=
  (((db.attemptsOf experimentId).filter fun attempt => !attempt.isTerminal).map fun attempt =>
      ⟨.trainingAttempt, attempt.id⟩) ++
    ((db.evaluationAttemptsOf experimentId).filter fun attempt => !attempt.isTerminal).map
      fun attempt => ⟨.evaluationAttempt, attempt.id⟩

/-- The cancellations recorded as children of a saga's action. -/
def Db.childrenOf (db : Db) (actionId : String) : List Action :=
  db.actions.rows.filter fun action => action.parentActionId = some actionId

/-- The ids minted for one child of a saga. -/
structure ChildIds where
  actionId : String
  operationId : String
  requestDigest : String

def cancelExperimentAction (actionId : String) (experiment : Experiment) (actor : Actor)
    (reason : String) : Action :=
  { id := actionId, experimentId := experiment.id, type := "cancel-experiment"
    target := ⟨.experiment, experiment.id⟩, proposedBy := actor, reason := reason }

/-- A live attempt's cancellation, as a child of the saga. -/
def recordChild (checks : Checks) (parentId : String) (experimentId : String)
    (ids : RuntimeOperationTarget → ChildIds) (reason : String) (actor : Actor)
    (destinations : List String) (target : RuntimeOperationTarget) : Repo Unit := do
  let child := cancelAttemptAction (ids target).actionId experimentId target actor reason
    (some parentId)
  let _ ← recordCancellation checks child target (ids target).operationId
    (ids target).requestDigest experimentId actor destinations
  pure ()

/-- Record intent to cancel an experiment, and every effect it needs, in one commit. -/
def requestExperimentCancellation (checks : Checks) (experimentId reason : String) (actor : Actor)
    (actionId : String) (named : Bool) (ids : RuntimeOperationTarget → ChildIds)
    (destinations : List String) : Repo Action := do
  let found ← getRow Experiment experimentId
  let experiment ← expect found (.unknownOperationTarget experimentId)
  let proposed := cancelExperimentAction actionId experiment actor reason
  let existing ← getRow Action actionId
  match existing with
  | some existing => do
      assertSameAction existing proposed
      pure existing
  | none => do
      let inFlight ← read fun db => db.actions.rows.find? fun action =>
        action.target = ⟨.experiment, experiment.id⟩ ∧ action.type = "cancel-experiment" ∧
          !action.isTerminal
      match inFlight with
      | some inFlight => do
          require (!named) (.cancellationInFlight actionId inFlight.id)
          pure inFlight
      | none => do
          let executing ← startCancellation checks proposed actor destinations
          if experiment.isTerminal then
            let outcome : ActionOutcome :=
              if experiment.status = .cancelled then .noop else .superseded
            settleAction executing .succeeded (some outcome) (cancellationEvent (some outcome))
              actor destinations
          else do
            let targets ← read fun db => db.liveTargets experiment.id
            forEach targets
              (recordChild checks executing.id experiment.id ids reason actor destinations)
            emit executing "CancellationRequested" executing.experimentId actor destinations
            pure executing

/-- Cancel a run that has not ended, and settle its quota. -/
def cancelRun (experimentId : String) (actor : Actor) (destinations : List String) (run : Run) :
    Repo Unit :=
  if run.isTerminal then pure ()
  else do
    let cancelled ← expect (run.withStatus .cancelled)
      (.invalidTransition "Run" (value run.status) "cancelled")
    updateRow cancelled
    settleRun cancelled actor destinations
    emit cancelled "RunStatusChanged" experimentId actor destinations

def cancelEvaluationRun (experimentId : String) (actor : Actor) (destinations : List String)
    (run : EvaluationRun) : Repo Unit :=
  if run.isTerminal then pure ()
  else do
    let cancelled ← expect (run.withStatus .cancelled)
      (.invalidTransition "EvaluationRun" (value run.status) "cancelled")
    updateRow cancelled
    emit cancelled "EvaluationRunStatusChanged" experimentId actor destinations

/-- Cancel what a node still runs, then the node. -/
def cancelNode (experimentId : String) (actor : Actor) (destinations : List String)
    (node : ExperimentNode) : Repo Unit := do
  let runs ← read fun db => db.runsForNode node.id
  forEach runs (cancelRun experimentId actor destinations)
  let evaluations ← read fun db => db.evaluationRunsForNode node.id
  forEach evaluations (cancelEvaluationRun experimentId actor destinations)
  if node.isTerminal then pure ()
  else do
    let cancelled ← expect (node.withStatus .cancelled)
      (.invalidTransition "ExperimentNode" (value node.status) "cancelled")
    updateRow cancelled
    emit cancelled "ExperimentNodeStatusChanged" experimentId actor destinations

/-- The saga's last commit: re-check that nothing is live, then cancel everything left. -/
def applyExperimentCancellation (parent : Action) (actor : Actor) (destinations : List String) :
    Repo Action := do
  let experimentId := parent.target.id
  let live ← read fun db => db.hasLiveAttempts experimentId
  if live then pure parent
  else do
    let nodes ← read fun db => db.nodesForExperiment experimentId
    forEach nodes (cancelNode experimentId actor destinations)
    let experiment ← loadRow Experiment experimentId
    if experiment.isTerminal then pure ()
    else do
      let cancelled ← expect (experiment.withStatus .cancelled)
        (.invalidTransition "Experiment" (value experiment.status) "cancelled")
      updateRow cancelled
      emit cancelled "ExperimentStatusChanged" experimentId actor destinations
    commitResolution parent ⟨.succeeded, some .applied⟩ actor destinations

/-- The saga's own settlement, once every child of it is settled. -/
def concludeSaga (parent : Action) (children : List Action) (actor : Actor)
    (destinations : List String) : Session Db StoreError Action := do
  let live ← Session.read fun db => db.hasLiveAttempts parent.target.id
  if live then
    if children.any fun child => child.status = .failed then
      Session.commit (commitResolution parent ⟨.failed, none⟩ actor destinations)
    else pure parent
  else Session.commit (applyExperimentCancellation parent actor destinations)

/-- Settle an experiment cancellation from observed state, or leave it. -/
def reconcileExperimentCancellation (actionId : String) (actor : Actor)
    (destinations : List String) : Session Db StoreError Action := do
  let found ← Session.read fun db => db.actions.find? actionId
  match found with
  | none => Session.refuse (.aggregateNotFound "Action" actionId)
  | some parent =>
      if parent.type ≠ "cancel-experiment" then
        Session.refuse (.storage "the action is not cancel-experiment")
      else if parent.isTerminal then pure parent
      else do
        let children ← Session.read fun db => db.childrenOf parent.id
        Session.forEach children fun child =>
          if child.isTerminal then pure ()
          else do
            let _ ← Session.commit (reconcileCancellation child.id actor destinations)
            pure ()
        let children ← Session.read fun db => db.childrenOf parent.id
        if children.any fun child => !child.isTerminal then pure parent
        else concludeSaga parent children actor destinations

end Xaytune.Storage
