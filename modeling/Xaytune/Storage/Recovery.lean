import Xaytune.Storage.Execution

/-!
# Observations and recovery decisions

Incidents, checkpoints and metric points are evidence: they are recorded once for
each stream position and move nothing. An episode gathers the incidents of one
attempt, and its plans continue one another; a plan is acted on only while it is
the latest, covers every accepted incident and no successor attempt exists.
-/

namespace Xaytune.Storage

open Xaytune.Core Xaytune.Library
open Transaction (read write refuse require expect forEach)

/-! ## Contexts -/

/-- Resolve the observation's attempt, run, node and experiment from the record. -/
def incidentContext (target : RuntimeOperationTarget) : Repo AttemptContext :=
  match target.kind with
  | .trainingAttempt => do
      let attempt ← loadRow RunAttempt target.id
      let run ← loadRow Run attempt.runId
      pure ⟨target, run.id, run.nodeId, run.experimentId⟩
  | .evaluationAttempt => do
      let attempt ← loadRow EvaluationAttempt target.id
      let run ← loadRow EvaluationRun attempt.evaluationRunId
      pure ⟨target, run.id, run.nodeId, run.experimentId⟩

/-- Journal a note on the attempt an observation is about, as the attempt stands. -/
def noteOnTarget (target : RuntimeOperationTarget) (eventType experimentId : String)
    (actor : Actor) (destinations : List String) (extra : EventExtra) : Repo Unit :=
  match target.kind with
  | .trainingAttempt => do
      let attempt ← loadRow RunAttempt target.id
      emit attempt eventType experimentId actor destinations extra
  | .evaluationAttempt => do
      let attempt ← loadRow EvaluationAttempt target.id
      emit attempt eventType experimentId actor destinations extra

/-! ## Episodes and their freshness -/

namespace Db

def episodeForAttempt (db : Db) (target : RuntimeOperationTarget) : Option RecoveryEpisode :=
  db.episodes.rows.find? fun episode => episode.context.target = target

def membershipsOf (db : Db) (episodeId : String) : List RecoveryEpisodeIncident :=
  sortedBy RecoveryEpisodeIncident.membershipSequence
    (db.memberships.rows.filter fun membership => membership.episodeId = episodeId)

/-- Whether a later attempt of the episode's run exists. -/
def successorExists (db : Db) (episode : RecoveryEpisode) : Bool :=
  match episode.context.target.kind with
  | .trainingAttempt => db.attempts.rows.any fun attempt =>
      attempt.runId = episode.context.runId && episode.attemptNumber < attempt.attemptNumber
  | .evaluationAttempt => db.evaluationAttempts.rows.any fun attempt =>
      attempt.evaluationRunId = episode.context.runId &&
        episode.attemptNumber < attempt.attemptNumber

/-- `recovery_effective_plans`: the episode's latest revision. -/
def effectivePlan (db : Db) (episodeId : String) : Option RecoveryPlan :=
  (sortedBy RecoveryPlan.sequence
    (db.plans.rows.filter fun plan => plan.episodeId = episodeId)).getLast?

/-- The last membership accepted for a decision. -/
def acceptedThrough (db : Db) (episodeId : String) : Option Nat :=
  (((db.membershipsOf episodeId).filter fun membership =>
    membership.disposition = .acceptedForDecision).map
      RecoveryEpisodeIncident.membershipSequence).getLast?

/-- The plan is its episode's latest and covers every incident of the attempt. -/
def isEffective (db : Db) (plan : RecoveryPlan) (episode : RecoveryEpisode) : Bool :=
  db.effectivePlan episode.id = some plan &&
    db.acceptedThrough episode.id = some plan.acceptedThroughSequence &&
    db.incidents.rows.all fun incident =>
      incident.context.target ≠ episode.context.target ||
        (db.memberships.find? incident.id).isSome

/-- The freshness a decision is used under: effective, and no successor exists yet. -/
def isEffectiveAndFresh (db : Db) (planId : String) : Bool :=
  match db.plans.find? planId with
  | none => false
  | some plan =>
      match db.episodes.find? plan.episodeId with
      | none => false
      | some episode => db.isEffective plan episode && !db.successorExists episode

end Db

/-! ## Evidence -/

/-- `_attach`: the next membership, late exactly when a successor already exists. -/
def attachIncident (episode : RecoveryEpisode) (incident : Incident) : Repo Unit := do
  let existing ← read fun db => db.memberships.find? incident.id
  match existing with
  | some existing =>
      require (existing.episodeId = episode.id)
        (.value "incident already belongs to another episode")
  | none => do
      require (incident.context = episode.context)
        (.integrity "membership does not belong to episode incident")
      let count ← read fun db => (db.membershipsOf episode.id).length
      let late ← read fun db => db.successorExists episode
      insertInto Db.memberships (fun table db => { db with memberships := table })
        ⟨incident.id, episode.id, count + 1,
          if late then .lateAfterClosure else .acceptedForDecision, incident.evidenceFingerprint⟩

def attachEvidence (episode : RecoveryEpisode) (incident : Incident) (actor : Actor)
    (destinations : List String) : Repo Unit := do
  attachIncident episode incident
  noteOnTarget incident.context.target "RecoveryEvidenceAttached" episode.context.experimentId
    actor destinations (.other incident.id)

/-- Repair audit linkage only. -/
def attachRecoveryEvidence (incidentId : String) (actor : Actor) (destinations : List String) :
    Repo Unit := do
  let found ← read fun db => db.incidents.find? incidentId
  let incident ← expect found (.aggregateNotFound "incident" incidentId)
  let episode ← read fun db => db.episodeForAttempt incident.context.target
  let attached ← read fun db => (db.memberships.find? incidentId).isSome
  match episode with
  | none => pure ()
  | some episode =>
      if attached then pure () else attachEvidence episode incident actor destinations

/-- Record an incident, its event and its replay cursor in one commit. -/
def recordIncident (checks : Checks) (incident : Incident) (actor : Actor)
    (destinations : List String) : Repo Incident := do
  let context ← incidentContext incident.context.target
  require (context = incident.context)
    (.provenance "incident context does not match its recorded attempt")
  require (checks.incidentEvidence incident) (.provenance "incident evidence claims another owner")
  let existing ← read fun db => db.incidents.rows.find? fun recorded =>
    recorded.observationKey = incident.observationKey
  match existing with
  | some existing => do
      require (existing.evidenceFingerprint = incident.evidenceFingerprint)
        (.idempotencyConflict incident.observationKey ["evidence"] "incident observation")
      pure existing
  | none => do
      insertInto Db.incidents (fun table db => { db with incidents := table }) incident
      let episode ← read fun db => db.episodeForAttempt incident.context.target
      match episode with
      | none => pure ()
      | some episode => attachEvidence episode incident actor destinations
      noteOnTarget incident.context.target "IncidentRecorded" context.experimentId actor
        destinations (.other incident.id)
      advanceTelemetry incident.context.target (incident.streamGeneration, incident.sequence)
      pure incident

/-- What a worker reports with a checkpoint it committed, at its stream position. -/
structure CheckpointCommit where
  checkpointRef : CheckpointRef
  embodiedApplicationIds : Option (List String)
  generation : Nat
  sequence : Nat
  evidenceDigest : String
  content : Document := ""

/-- A re-emission at a new position adds a receipt, not a second checkpoint. -/
def recordCheckpoint (checks : Checks) (attemptId : String) (commit : CheckpointCommit)
    (actor : Actor) (destinations : List String) : Repo RecordedCheckpoint := do
  let target : RuntimeOperationTarget := ⟨.trainingAttempt, attemptId⟩
  let context ← incidentContext target
  let attempt ← loadRow RunAttempt attemptId
  require attempt.executionFingerprint.isSome
    (.provenance "checkpoint producer has no recorded execution fingerprint")
  let record : RecordedCheckpoint :=
    { checkpointRef := commit.checkpointRef, context := context,
      embodiedApplicationIds := commit.embodiedApplicationIds, content := commit.content }
  require (checks.checkpointEvidence record attempt)
    (.provenance "checkpoint evidence claims another owner")
  let receipt ← read fun db =>
    db.checkpointReceipts.find? (attemptId, commit.generation, commit.sequence)
  match receipt with
  | some receipt => do
      require (receipt.evidenceDigest = commit.evidenceDigest)
        (.idempotencyConflict attemptId ["evidence"] "checkpoint observation")
      let found ← read fun db => db.checkpoints.find? receipt.checkpointId
      expect found (.domain "AssertionError")
  | none => do
      let existing ← read fun db => db.checkpoints.find? record.id
      match existing with
      | some existing =>
          require (existing = record)
            (.idempotencyConflict record.id ["producer or payload"] "checkpoint")
      | none => do
          insertInto Db.checkpoints (fun table db => { db with checkpoints := table }) record
          emit attempt "CheckpointRecorded" context.experimentId actor destinations
            (.other record.id)
      insertInto Db.checkpointReceipts (fun table db => { db with checkpointReceipts := table })
        ⟨attemptId, commit.generation, commit.sequence, record.id, commit.evidenceDigest⟩
      advanceTelemetry target (commit.generation, commit.sequence)
      pure record

/-- Points are evidence: no event is emitted and the cursor is left where it is. -/
def recordMetricPoints (attemptId : String) (generation sequence : Nat) (points : Document) :
    Repo Bool :=
  if points.isEmpty then pure false
  else do
    let attempt ← loadRow RunAttempt attemptId
    let run ← loadRow Run attempt.runId
    let row : MetricPoints := ⟨attempt.id, generation, sequence, run.experimentId, points⟩
    let existing ← read fun db => db.metricPoints.find? row.key
    match existing with
    | some existing => do
        require (existing = row) (.idempotencyConflict attemptId ["points"] "metric points")
        pure false
    | none => do
        insertInto Db.metricPoints (fun table db => { db with metricPoints := table }) row
        pure true

/-! ## Plans -/

/-- The episode describes its authoritative attempt. -/
def requireAuthoritativeEpisode (episode : RecoveryEpisode) : Repo Unit := do
  let context ← incidentContext episode.context.target
  require (context = episode.context)
    (.provenance "episode does not describe its authoritative attempt")
  match context.target.kind with
  | .trainingAttempt => do
      let attempt ← loadRow RunAttempt context.target.id
      let run ← loadRow Run context.runId
      require (episode.attemptNumber = attempt.attemptNumber &&
          run.candidateFingerprint = episode.candidateFingerprint)
        (.provenance "episode does not describe its authoritative attempt")
  | .evaluationAttempt => do
      let attempt ← loadRow EvaluationAttempt context.target.id
      let node ← loadRow ExperimentNode context.nodeId
      require (episode.attemptNumber = attempt.attemptNumber &&
          node.candidateFingerprint = episode.candidateFingerprint)
        (.provenance "episode does not describe its authoritative attempt")

/-- One episode for each attempt, opened while it has no successor. -/
def insertEpisode (episode : RecoveryEpisode) : Repo Unit := do
  let owner ← read fun db => db.episodeForAttempt episode.context.target
  let late ← read fun db => db.successorExists episode
  require (owner.isNone && !late) (.integrity "episode has invalid ownership or a successor")
  insertInto Db.episodes (fun table db => { db with episodes := table }) episode

/-- The plan continues its episode's revisions and covers the next accepted prefix. -/
def insertPlan (plan : RecoveryPlan) (episode : RecoveryEpisode) : Repo Unit := do
  let previous ← read fun db => db.effectivePlan plan.episodeId
  require (plan.sequence = (previous.map RecoveryPlan.sequence).getD 0 + 1 &&
      plan.supersedesPlanId = previous.map RecoveryPlan.id)
    (.integrity "plan predecessor/sequence must continue the episode")
  let late ← read fun db => db.successorExists episode
  require (!late) (.integrity "closed episode cannot gain a decision")
  let through ← read fun db =>
    match previous with
    | none => db.acceptedThrough plan.episodeId
    | some previous => some (previous.acceptedThroughSequence + 1)
  let covered ← read fun db => (db.membershipsOf plan.episodeId).any fun membership =>
    membership.membershipSequence = plan.acceptedThroughSequence &&
      membership.disposition = .acceptedForDecision
  require (through = some plan.acceptedThroughSequence && covered)
    (.integrity "plan must cover the next accepted evidence prefix")
  insertInto Db.plans (fun table db => { db with plans := table }) plan

/-- The stored episode of a plan, or the one its first plan brings with it. -/
def planEpisode (plan : RecoveryPlan) (episode : Option RecoveryEpisode) :
    Repo (RecoveryEpisode × Bool) := do
  let stored ← read fun db => db.episodes.find? plan.episodeId
  match stored with
  | some stored => do
      require (episode.isNone || episode = some stored)
        (.provenance "episode provenance is immutable")
      pure (stored, false)
  | none => do
      let episode ← expect episode
        (.provenance "first plan requires explicit immutable episode provenance")
      require (episode.id = plan.episodeId)
        (.provenance "first plan requires explicit immutable episode provenance")
      let owner ← read fun db => db.episodeForAttempt episode.context.target
      require owner.isNone (.staleRecoveryContext "another planner created the target episode")
      pure (episode, true)

/-- A first plan's episode with every incident of its attempt. -/
def openEpisode (episode : RecoveryEpisode) : Repo Unit := do
  insertEpisode episode
  let incidents ← read fun db => db.incidents.rows.filter fun incident =>
    incident.context.target = episode.context.target
  forEach incidents fun incident => attachIncident episode incident

/-- Bind the recorded inputs and the coordinator's decision to the episode. -/
def recordRecoveryPlan (checks : Checks) (plan : RecoveryPlan) (actor : Actor)
    (destinations : List String) (episode : Option RecoveryEpisode) : Repo RecoveryPlan := do
  let existing ← read fun db => db.plans.rows.find? fun recorded =>
    recorded.episodeId = plan.episodeId ∧ recorded.sequence = plan.sequence
  let reused ← read fun db => db.plans.find? plan.id
  require (reused.all fun reused =>
      reused.episodeId = plan.episodeId && reused.sequence = plan.sequence)
    (.idempotencyConflict plan.id ["episode_id", "sequence"] "recovery plan")
  match existing with
  | some existing => do
      require ({ existing with id := plan.id } = plan)
        (.idempotencyConflict plan.episodeId ["recovery_plan"] "episode revision")
      pure existing
  | none => do
      let (stored, initial) ← planEpisode plan episode
      requireAuthoritativeEpisode stored
      let inputs ← read fun db => checks.recoveryInputs db stored
      let late ← read fun db => db.successorExists stored
      require (inputs = plan.inputs && plan.context = stored.context && !late)
        (.staleRecoveryContext "decision-relevant recovery inputs changed")
      require (checks.recoveryDecision stored plan)
        (.provenance "recovery decision disagrees with deterministic planning")
      if initial then openEpisode stored else pure ()
      insertPlan plan stored
      noteOnTarget stored.context.target "RecoveryPlanned" stored.context.experimentId actor
        destinations (.other plan.id)
      pure plan

end Xaytune.Storage
