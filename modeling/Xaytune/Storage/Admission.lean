import Xaytune.Storage.Execution

/-!
# Admission, exhaustion and the daemon's mailbox

A submission is admitted in one commit: the experiment, its root node, the first
run and the intent to start it, or the experiment ended at once because its budget
has no run. The daemon's own records (requests, rests and agent invocations) move
forward along their edges and are not journalled.
-/

namespace Xaytune.Storage

open Xaytune.Core Xaytune.Library
open Transaction (read write refuse require expect forEach)

/-! ## Controller requests -/

/-- What a controller request's `_update` allows: the next revision, an error exactly on failure. -/
def updateRequest (request : ControllerRequest) : Repo Unit := do
  let found ← read fun db => db.requests.find? request.id
  let stored ← expect found (.concurrentModification "ControllerRequest" request.id
    (request.revision - 1))
  require (stored.revision + 1 = request.revision)
    (.concurrentModification "ControllerRequest" request.id (request.revision - 1))
  require ((request.state = .failed) = request.error.isSome) (.integrity "CHECK error_json")
  let admitted ← read fun db => (db.experiments.find? request.experimentId).isSome
  require (request.state ≠ .accepted || admitted)
    (.integrity "an ACCEPTED submission names the experiment it admitted")
  write fun db => { db with requests := db.requests.replace request }

def recordControllerRequest (request : ControllerRequest) : Repo ControllerRequest := do
  require (request.state = .pending && request.revision = 0)
    (.value "a controller request is recorded PENDING, at revision 0")
  let existing ← read fun db => db.requests.find? request.id
  match existing with
  | some stored => do
      require (stored.sameRequest request).isEmpty
        (.idempotencyConflict request.id (stored.sameRequest request) "controller request")
      pure stored
  | none => do
      require request.error.isNone (.integrity "CHECK error_json")
      insertInto Db.requests (fun table db => { db with requests := table }) request
      pure request

def moveRequest (requestId : String) (expectedRevision : Nat) (newState : ControllerRequestState)
    (error : Option Document) : Repo ControllerRequest := do
  let found ← read fun db => db.requests.find? requestId
  let request ← expect found (.aggregateNotFound "ControllerRequest" requestId)
  require (request.revision = expectedRevision)
    (.concurrentModification "ControllerRequest" requestId expectedRevision)
  let moved ← expect (request.withState newState error)
    (.invalidTransition "ControllerRequest" "" "")
  updateRequest moved
  pure moved

def completeControllerRequest (requestId : String) (expectedRevision : Nat) :
    Repo ControllerRequest :=
  moveRequest requestId expectedRevision .completed none

def failControllerRequest (requestId : String) (expectedRevision : Nat) (error : Document) :
    Repo ControllerRequest :=
  moveRequest requestId expectedRevision .failed (some error)

/-- The sequence of the experiment's latest event; 0 if it has none. -/
def Db.latestSequenceForExperiment (db : Db) (experimentId : String) : Nat :=
  (db.sequencedEvents.filter fun entry => entry.2.experimentId = experimentId).foldl
    (fun latest entry => max latest entry.1) 0

/-- The experiment is at rest for as long as this stays its latest event. -/
def recordControllerRest (experimentId controllerId : String) (escalation : Option Document) :
    Repo ControllerRest := do
  let sequence ← read fun db => db.latestSequenceForExperiment experimentId
  let current ← read fun db => db.rests.find? experimentId
  let rest : ControllerRest := ⟨experimentId, controllerId, sequence, escalation⟩
  if current = some rest then pure rest
  else do
    requireReference Db.experiments experimentId
    write fun db => { db with rests := db.rests.put rest }
    pure rest

/-! ## Agent invocations -/

/-- The round's highest attempt, or `none` if it was never begun. -/
def Db.latestForRound (db : Db) (round : String × String × String) : Option AgentInvocation :=
  (sortedBy AgentInvocation.attempt
    (db.invocations.rows.filter fun invocation => invocation.intent.roundKey = round)).getLast?

/-- A new attempt follows only a failed or unknown one, and is numbered next in its round. -/
def insertInvocation (invocation : AgentInvocation) : Repo Unit := do
  requireReference Db.experiments invocation.intent.experimentId
  let latest ← read fun db => db.latestForRound invocation.intent.roundKey
  require (invocation.attempt = 1 + (latest.map AgentInvocation.attempt).getD 0)
    (.integrity "agent invocation attempts are numbered consecutively per round")
  let opened ← read fun db => db.invocations.rows.any fun other =>
    other.intent.roundKey = invocation.intent.roundKey &&
      other.status ≠ .failed && other.status ≠ .outcomeUnknown
  require (!opened) (.integrity "a new attempt follows only a failed or unknown one")
  insertInto Db.invocations (fun table db => { db with invocations := table }) invocation

/-- The columns that say what happened fit the status. -/
def AgentInvocation.consistent (invocation : AgentInvocation) : Bool :=
  ((invocation.status = .refused || invocation.status = .failed) == invocation.failure.isSome) &&
    (invocation.proposal.isNone || invocation.status = .completed) &&
    (!(invocation.status = .answered || invocation.status = .completed) ||
      invocation.response.isSome) &&
    (!(invocation.status = .intended || invocation.status = .outcomeUnknown) ||
      invocation.response.isNone)

/-- What was asked is immutable, the status moves forward, and a recorded answer is kept. -/
def updateInvocation (invocation : AgentInvocation) : Repo Unit := do
  let found ← read fun db => db.invocations.find? invocation.id
  let stored ← expect found (.concurrentModification "AgentInvocation" invocation.id
    (invocation.revision - 1))
  require (stored.revision + 1 = invocation.revision)
    (.concurrentModification "AgentInvocation" invocation.id (invocation.revision - 1))
  require invocation.consistent (.integrity "CHECK agent_invocations")
  require (agentInvocationMachine.can stored.status invocation.status)
    (.integrity "an agent invocation moves forward along its edges only")
  require (stored.response.isNone || invocation.response = stored.response)
    (.integrity "a recorded answer is never changed")
  -- the statement sets the outcome columns only
  write fun db => { db with
    invocations := db.invocations.replace { stored with
      status := invocation.status, response := invocation.response, failure := invocation.failure,
      proposal := invocation.proposal, revision := invocation.revision } }

/-- The invocation a planning round goes on with, written before the model is asked. -/
def beginAgentInvocation (intent : AgentInvocationIntent) (freshId : String) :
    Repo AgentInvocation := do
  let latest ← read fun db => db.latestForRound intent.roundKey
  match latest with
  | none => do
      let fresh : AgentInvocation := { id := freshId, attempt := 1, intent := intent }
      insertInvocation fresh
      pure fresh
  | some latest => do
      require (latest.intent.requestFingerprint = intent.requestFingerprint)
        (.agentInvocationConflict "the planning round recorded another request")
      if latest.status.replayed then pure latest
      else do
        if latest.status = .intended then
          updateInvocation { latest with
            status := .outcomeUnknown, revision := latest.revision + 1 }
        else pure ()
        let fresh : AgentInvocation :=
          { id := freshId, attempt := latest.attempt + 1, intent := intent }
        insertInvocation fresh
        pure fresh

def settleAgentInvocation (invocation : AgentInvocation) : Repo AgentInvocation := do
  updateInvocation invocation
  pure invocation

/-! ## Exhaustion -/

/-- `_exhaust`: end the experiment, with the reasons noted on its new revision. -/
def exhaust (experiment : Experiment) (reasons : List String) (actor : Actor)
    (destinations : List String) : Repo Experiment := do
  let moved ← expect (experiment.withStatus .budgetExhausted)
    (.invalidTransition "Experiment" (value experiment.status) "budget_exhausted")
  updateRow moved
  emit moved "ExperimentStatusChanged" moved.id actor destinations
  emit moved "BudgetExhausted" moved.id actor destinations (.problems reasons)
  pure moved

/-- End an `ACTIVE` experiment as `BUDGET_EXHAUSTED`, once nothing is running. -/
def exhaustBudget (experimentId : String) (reasons : List String) (actor : Actor)
    (destinations : List String) : Repo Bool := do
  let experiment ← loadRow Experiment experimentId
  if experiment.status ≠ .active then pure false
  else do
    let live ← read fun db => db.hasLiveAttempts experimentId
    if live then pure false
    else do
      let _ ← exhaust experiment reasons actor destinations
      pure true

/-! ## Admission -/

/-- What makes a submission not one fresh submission. -/
def submissionProblems (experiment : Experiment) (node : ExperimentNode) (run : Run)
    (attempt : RunAttempt) : List String :=
  (if node.experimentId ≠ experiment.id then ["the node is not the experiment's"] else []) ++
    (if node.parentIds ≠ [] then ["the node is not a root"] else []) ++
    (if node.branchOrigin.isSome then ["the node carries a branch_origin"] else []) ++
    (if run.nodeId ≠ node.id ∨ run.experimentId ≠ experiment.id then
      ["the run is not the node's"] else []) ++
    (if run.seedOrigin.isSome then ["the run claims a seed origin"] else []) ++
    (if attempt.runId ≠ run.id ∨ attempt.attemptNumber ≠ 1 then
      ["the attempt is not the run's first"] else [])

/-- The mailbox request a submission answers, and the digest of the spec it was derived from. -/
structure SubmissionRequest where
  id : String
  submittedDigest : String

structure ExperimentAdmission where
  experiment : Experiment
  node : ExperimentNode
  run : Option Run := none
  attempt : Option RunAttempt := none
  operation : Option RuntimeOperation := none
  exhausted : List String := []

/-- The request a submission is admitted for; `none` in the pair's place if it moved on. -/
def admissibleRequest (experiment : Experiment) :
    Option SubmissionRequest → Repo (Option (Option ControllerRequest))
  | none => pure (some none)
  | some submission => do
      let found ← read fun db => db.requests.find? submission.id
      let request ← expect found (.aggregateNotFound "ControllerRequest" submission.id)
      require (request.kind = .submit && request.experimentId = experiment.id)
        (.admissionRefused "not the submission of the experiment")
      require (request.payloadDigest = submission.submittedDigest)
        (.admissionRefused "the submission was derived from another spec")
      if request.state ≠ .pending then pure none else pure (some (some request))

/-- The experiment, `CREATED → ACTIVE`. -/
def admitRecord (experiment : Experiment) (actor : Actor) (destinations : List String) :
    Repo Experiment := do
  insertExperiment experiment
  emit experiment "ExperimentCreated" experiment.id actor destinations
  transitionExperiment experiment.id experiment.revision .active actor none destinations

/-- The root node, `CREATED → PLANNED → READY → ACTIVE`. -/
def admitRoot (node : ExperimentNode) (actor : Actor) (destinations : List String) :
    Repo ExperimentNode := do
  validateParents node
  insertNode node
  emit node "NodeCreated" node.experimentId actor destinations
  let planned ← transitionNode node.id node.revision .planned actor none destinations
  let ready ← transitionNode node.id planned.revision .ready actor none destinations
  transitionNode node.id ready.revision .active actor none destinations

/-- The first run, `CREATED → ACTIVE`, its first attempt and the intent to submit it. -/
def startRun (run : Run) (attempt : RunAttempt) (operation : RuntimeOperation) (actor : Actor)
    (destinations : List String) : Repo (Run × RuntimeOperation) := do
  insertRunWithReservation run actor destinations
  let active ← applyTransition Run run.id run.revision .active actor none destinations
  let stored ← insertTrainingAttemptWithIntent attempt operation actor destinations
  pure (active, stored)

/-- Admit a submitted experiment and the intent to start it, in one commit. -/
def admitExperiment (checks : Checks) (experiment : Experiment) (node : ExperimentNode) (run : Run)
    (attempt : RunAttempt) (operationId requestDigest : String)
    (submission : Option SubmissionRequest) (actor : Actor) (destinations : List String) :
    Repo (Option ExperimentAdmission) := do
  requirePristine experiment.status .created experiment.revision
  requirePristine node.status .created node.revision
  requirePristine run.status .created run.revision
  requirePristine attempt.status .created attempt.revision
  requireConsistentCandidate checks node
  require (submissionProblems experiment node run attempt).isEmpty
    (.storage "not one fresh submission")
  let request ← admissibleRequest experiment submission
  match request with
  | none => pure none
  | some request => do
      let recorded ← getRow Experiment experiment.id
      require recorded.isNone (.admissionRefused "the experiment is already recorded")
      let experiment ← admitRecord experiment actor destinations
      let node ← admitRoot node actor destinations
      let reasons ← read fun db => budgetReasons db experiment true
      let admission ←
        if reasons.isEmpty then do
          let operation := submitOperation operationId ⟨.trainingAttempt, attempt.id⟩ requestDigest
          let started ← startRun run attempt operation actor destinations
          pure { experiment := experiment, node := node, run := some started.1,
                 attempt := some attempt, operation := some started.2 : ExperimentAdmission }
        else do
          let ended ← exhaust experiment reasons actor destinations
          pure { experiment := ended, node := node, exhausted := reasons : ExperimentAdmission }
      match request with
      | none => pure ()
      | some request => do
          let accepted ← expect (request.withState .accepted none)
            (.invalidTransition "ControllerRequest" "" "accepted")
          updateRequest accepted
      pure (some admission)

end Xaytune.Storage
