import Xaytune.Storage.Admission
import Xaytune.Storage.Evaluation

/-!
# Planning and the ledger's safety net

A planner's proposal becomes a `PLANNED` child node, and a planned node becomes a
run with the intent to start it, each in one commit that re-checks everything the
proposal was made on. `settleBudget` writes any settlement the record implies and
the ledger lacks.
-/

namespace Xaytune.Storage

open Xaytune.Core Xaytune.Library
open Transaction (read write refuse require expect forEach)

/-! ## Proposals -/

/-- What a planner may propose; a harness candidate is not durable and is always refused. -/
inductive BranchProposal where
  | candidate (proposal : CandidateProposal)
  | harness

def candidateProposalIdentityV1 (checks : Checks) (proposal : CandidateProposal) :
    CandidateProposalIdentity where
  identityVersion := candidateProposalIdentityVersion
  candidateFingerprint := proposal.candidateFingerprint
  candidate := checks.planningCandidateProjection proposal.candidate
  parentIds := proposal.parentIds.insertionSort (· ≤ ·)
  hypothesis := proposal.hypothesis
  reason := proposal.reason
  mutation := proposal.mutation
  evidenceRefs := proposal.evidenceRefs.insertionSort (EvidenceRef.before · ·)
  provenance := proposal.provenance

/-- The origin a branched node keeps of its proposal. -/
def CandidateBranchOrigin.of (checks : Checks) (proposal : CandidateProposal) :
    CandidateBranchOrigin where
  proposalIdentityVersion := candidateProposalIdentityVersion
  proposalFingerprint := checks.proposalFingerprint (candidateProposalIdentityV1 checks proposal)
  provenance := proposal.provenance
  mutation := proposal.mutation
  evidenceRefs := proposal.evidenceRefs

/-- What a proposal's planner differs in from the experiment's recorded, bound one. -/
def recordedPlannerProblems (checks : Checks) (spec : PlannerSpec)
    (provenance : ProposalProvenance) : List String :=
  (if provenance.plannerSpecKind ≠ spec.kind ∨ provenance.plannerName ≠ spec.kind then
      ["names another planner than the recorded"] else []) ++
    (if some provenance.plannerSpecVersion ≠ spec.version ∨
        some provenance.plannerVersion ≠ spec.version then
      ["names another version than the recorded"] else []) ++
    (if provenance.plannerSpecIdentityVersion ≠ plannerSpecIdentityVersion then
      ["uses another planner-spec identity version"]
    else if provenance.plannerSpecFingerprint ≠ checks.plannerSpecFingerprint
        { identityVersion := plannerSpecIdentityVersion, spec := spec,
          provider := provenance.plannerProvider, name := spec.kind,
          pluginVersion := spec.version, apiVersion := provenance.plannerApiVersion } then
      ["its planner-spec fingerprint is not the recorded spec's: it was configured differently"]
    else [])

/-- The proposal was made under the experiment's recorded planner spec, exactly. -/
def requireRecordedPlanner (checks : Checks) (experiment : Experiment)
    (provenance : ProposalProvenance) : Repo Unit := do
  let spec ← expect experiment.planner (.provenance "the experiment records no planner")
  let problems := recordedPlannerProblems checks spec provenance
  require problems.isEmpty (.provenance ("; ".intercalate problems))

/-- Every evidence ref is a durable decision or result of one of the proposal's parents. -/
def parentEvidence (db : Db) (proposal : CandidateProposal) : Bool :=
  proposal.evidenceRefs.all fun ref =>
    if ref.isDecision then
      db.decisions.rows.any fun decision =>
        decision.id = ref.id && proposal.parentIds.contains decision.proposal.nodeId
    else
      db.results.rows.any fun result =>
        result.id = ref.id && proposal.parentIds.contains result.nodeId

/-- A `PLANNED` child node under a fresh id, after every check on its proposal. -/
def branchNode (checks : Checks) (experiment : Experiment) (proposal : CandidateProposal)
    (nodeId : String) (actor : Actor) (destinations : List String) : Repo ExperimentNode := do
  require (experiment.status = .active) (.branchRefused "only an ACTIVE experiment branches")
  requireRecordedPlanner checks experiment proposal.provenance
  let context ← read fun db => checks.planningContext db experiment
  require (proposal.provenance.contextIdentityVersion = planningContextIdentityVersion &&
      proposal.provenance.contextFingerprint = context)
    (.staleProposal "the planning context changed; plan again")
  let exhausted ← read fun db => (db.budgetStatus experiment).any DimensionStatus.exhausted
  require (!exhausted) (.branchRefused "no run of a new candidate could follow")
  let supported ← read fun db => parentEvidence db proposal
  require supported (.provenance "evidence is not of the proposal's parents")
  let node : ExperimentNode :=
    { id := nodeId, experimentId := experiment.id, parentIds := proposal.parentIds,
      hypothesis := some proposal.hypothesis, reason := some proposal.reason,
      candidate := proposal.candidate, candidateFingerprint := proposal.candidateFingerprint,
      branchOrigin := some (CandidateBranchOrigin.of checks proposal) }
  validateParents node
  insertNode node
  emit node "NodeCreated" experiment.id actor destinations
    (.other (CandidateBranchOrigin.of checks proposal).proposalFingerprint)
  let planned ← expect (node.withStatus .planned)
    (.invalidTransition "ExperimentNode" "created" "planned")
  updateRow planned
  emit planned "ExperimentNodeStatusChanged" experiment.id actor destinations
  pure planned

/-- Turn a candidate proposal into a `PLANNED` child node, in one commit. -/
def materializeCandidateProposal (checks : Checks) (experimentId : String)
    (proposal : BranchProposal) (nodeId : String) (actor : Actor) (destinations : List String) :
    Repo ExperimentNode :=
  match proposal with
  | .harness => refuse (.branchRefused "harness candidates are not durable yet")
  | .candidate proposal => do
      let experiment ← loadRow Experiment experimentId
      let identity := checks.candidateFingerprint proposal.candidate
      require (identity = proposal.candidateFingerprint)
        (.provenance "the proposal claims another candidate")
      let existing ← read fun db => (db.nodesForExperiment experiment.id).find? fun node =>
        checks.candidateFingerprint node.candidate = identity
      match existing with
      | some existing => do
          require (existing.branchOrigin.map CandidateBranchOrigin.proposalFingerprint =
              some (CandidateBranchOrigin.of checks proposal).proposalFingerprint)
            (.candidateConflict "the same scientific candidate is never a second node")
          pure existing
      | none => branchNode checks experiment proposal nodeId actor destinations

/-! ## Realization of a planned node -/

/-- What keeps a run and attempt from being a branched node's first realization. -/
def realizationProblems (db : Db) (node : ExperimentNode) (run : Run) (attempt : RunAttempt) :
    List String :=
  (if run.nodeId ≠ node.id ∨ run.experimentId ≠ node.experimentId then
      ["the run is not the node's"] else []) ++
    (if db.runsForNode node.id ≠ [] then ["the node already has a run"] else []) ++
    (if attempt.runId ≠ run.id ∨ attempt.attemptNumber ≠ 1 then
      ["the attempt is not the run's first"] else []) ++
    (if run.replicate ≠ some 1 then ["the run is not replicate 1"] else []) ++
    (match node.parentIds with
      | [parent] =>
          match db.runsForNode parent with
          | [source] =>
              (if run.seedOrigin ≠ some source.id then ["names another seed source"] else []) ++
                (if source.status ≠ .succeeded ∨ source.seed = none then
                  ["only a successful, seeded run's seed is inherited"]
                else if run.seed ≠ source.seed then ["has another seed"] else [])
          | _ => ["which run's seed to inherit is not defined"]
      | _ => ["a first run inherits its seed from a single parent"])

/-- Accept a branched node's first run, and the intent to submit it, in one commit. -/
def realizePlannedNode (checks : Checks) (nodeId : String) (expectedRevision : Nat) (run : Run)
    (attempt : RunAttempt) (operationId requestDigest : String) (actor : Actor)
    (destinations : List String) :
    Repo (Option (ExperimentNode × Run × RunAttempt × RuntimeOperation)) := do
  let node ← loadRow ExperimentNode nodeId
  if node.status ≠ .planned then pure none
  else do
    require (node.revision = expectedRevision)
      (.concurrentModification "ExperimentNode" nodeId expectedRevision)
    let origin ← expect node.branchOrigin
      (.provenance "only a planner-created node is realized automatically")
    let experiment ← loadRow Experiment node.experimentId
    require (experiment.status = .active) (.branchRefused "only an ACTIVE experiment starts a run")
    requireRecordedPlanner checks experiment origin.provenance
    requirePristine run.status .created run.revision
    requirePristine attempt.status .created attempt.revision
    let problems ← read fun db => realizationProblems db node run attempt
    require problems.isEmpty (.storage (problems.headD ""))
    let operation := submitOperation operationId ⟨.trainingAttempt, attempt.id⟩ requestDigest
    let ready ← transitionNode node.id node.revision .ready actor none destinations
    let active ← transitionNode node.id ready.revision .active actor none destinations
    let started ← startRun run attempt operation actor destinations
    pure (some (active, started.1, attempt, started.2))

/-! ## The safety net -/

/-- Commit what a confirmed submission of the attempt reserved, and settle the attempt. -/
def settleAttemptRecord (experimentId : String) (attempt : RunAttempt) (actor : Actor)
    (destinations : List String) : Repo Unit := do
  let operations ← read fun db => db.operationsFor ⟨.trainingAttempt, attempt.id⟩
  forEach operations fun operation =>
    if operation.type = .submit ∧ operation.state = .confirmed then
      commitBudget experimentId attempt.id actor destinations
    else pure ()
  settleRunAttempt attempt actor destinations

def settleRunRecord (experimentId : String) (run : Run) (actor : Actor)
    (destinations : List String) : Repo Unit := do
  let attempts ← read fun db => db.attemptsForRun run.id
  forEach attempts fun attempt => settleAttemptRecord experimentId attempt actor destinations
  settleRun run actor destinations

def settleNodeRecord (experimentId : String) (node : ExperimentNode) (actor : Actor)
    (destinations : List String) : Repo Unit := do
  let runs ← read fun db => db.runsForNode node.id
  forEach runs fun run => settleRunRecord experimentId run actor destinations
  let evaluations ← read fun db => db.evaluationRunsForNode node.id
  forEach evaluations fun evaluation => do
    let measured ← read fun db => db.evaluationAttemptsForRun evaluation.id
    forEach measured fun attempt => settleEvaluationAttempt attempt actor destinations

/-- Write any settlement the record implies and the ledger lacks; how many entries it wrote. -/
def settleBudget (experimentId : String) (actor : Actor) (destinations : List String) :
    Repo Nat := do
  let before ← read fun db => (db.entries experimentId).length
  let nodes ← read fun db => db.nodesForExperiment experimentId
  forEach nodes fun node => settleNodeRecord experimentId node actor destinations
  let after ← read fun db => (db.entries experimentId).length
  pure (after - before)

end Xaytune.Storage
