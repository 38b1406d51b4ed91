import Mathlib.Data.List.Dedup
import Mathlib.Data.Prod.Lex
import Mathlib.Data.String.Basic
import Xaytune.Core.Checkpoint
import Xaytune.Storage.Records

/-!
# Recovery decisions

A recovery is decided from the accepted evidence alone: statuses, the families its diagnoses
belong to, repeat limits, the checkpoints that may be resumed from, and quotas, in a fixed
cascade. More evidence never makes a decision bolder.
-/

namespace Xaytune.Resilience

open Xaytune.Core Xaytune.Checkpoints Xaytune.Storage

/-! ## Evidence -/

inductive IncidentCategory where
  | processFailure | workerFailure | nodeFailure | driverFailure | preemption | cudaOom | hostOom
  | diskFull | networkFailure | objectStoreFailure | checkpointWriteFailure
  | checkpointCorruption | checkpointIncompatible | dataError | dataCorruption | numericalNan
  | numericalInf | gradientExplosion | lossDivergence | trainingStall | qualityRegression
  | rewardCollapse | klExplosion | timeout | configError | userError | unknown
  deriving DecidableEq

inductive Recoverability where
  | sameAttempt | newAttempt | withExecutionOverride | newNode | human | unrecoverable | unknown
  deriving DecidableEq

inductive RecoveryStrategy where
  | fail | retry | resume | rollback | runtimeRecover | executionOverride | newExperimentNode
  | pauseForApproval
  deriving DecidableEq

structure RecoveryLimits where
  maxAttemptsPerRun : Nat := 3
  maxRecoveriesPerExperiment : Nat := 10
  maxSameIncidentRepeats : Nat := 2
  one_attempt : 1 ≤ maxAttemptsPerRun := by decide

structure RecoveryRequest where
  limits : RecoveryLimits := {}
  allowRetryWithoutCheckpoint : Bool := false
  restoreContext : Option RestoreContext := none

/-- What the decision reads of one accepted incident. -/
structure RecoveryEvidence where
  incidentId : String
  membershipSequence : Nat
  signature : Digest
  diagnosisFingerprint : Digest
  categories : List IncidentCategory
  streamGeneration : Nat
  observationSequence : Nat
  optimizerStep : Option Nat
  observedAt : Moment
  diagnosed : categories ≠ []

/-- A checkpoint as its worker reported it. -/
structure RecoveryCheckpointReport where
  checkpointRef : Checkpoints.CheckpointRef
  context : AttemptContext
  producerAttemptNumber : Nat
  reportFingerprint : Digest
  optimizerStep : Nat
  streamGeneration : Nat
  observationSequence : Nat
  reportedAt : Moment
  resumeGuarantee : ResumeGuarantee
  hasDataCursor : Bool

structure RecoveryRepeatCount where
  signature : Digest
  priorMatchingEpisodes : Nat

/-- Newer checkpoints are greater. -/
def checkpointOrder (report : RecoveryCheckpointReport) : Nat ×ₗ Nat ×ₗ String :=
  toLex (report.optimizerStep, toLex (report.producerAttemptNumber, report.checkpointRef.id))

/-- The signatures of the evidence, each once, in order. -/
def incidentSignatures (evidence : List RecoveryEvidence) : List Digest :=
  (evidence.map RecoveryEvidence.signature).dedup.insertionSort (· ≤ ·)

/-- A run of either kind, by its status. -/
inductive EitherRunStatus where
  | training (status : RunStatus)
  | evaluation (status : EvaluationRunStatus)
  deriving DecidableEq

inductive EitherAttemptStatus where
  | training (status : RunAttemptStatus)
  | evaluation (status : EvaluationAttemptStatus)
  deriving DecidableEq

/-- The database's decision projection, canonical: no other can be built. -/
structure RecoveryInputsV1 where
  context : AttemptContext
  experimentStatus : ExperimentStatus
  nodeStatus : ExperimentNodeStatus
  runStatus : EitherRunStatus
  attemptStatus : EitherAttemptStatus
  actualAttemptCount : Nat
  successorExists : Bool
  pendingOtherRunReservations : Nat
  requestFingerprint : Digest
  acceptedEvidence : List RecoveryEvidence
  experimentRecoveryUsageExcludingTarget : Nat
  repeatCounts : List RecoveryRepeatCount
  checkpointReports : List RecoveryCheckpointReport
  accepted : acceptedEvidence ≠ []
  byIncident : acceptedEvidence.Pairwise fun left right => left.incidentId < right.incidentId
  bySequence : (acceptedEvidence.map RecoveryEvidence.membershipSequence).Nodup
  counted : repeatCounts.map RecoveryRepeatCount.signature = incidentSignatures acceptedEvidence
  reportedOnce : (checkpointReports.map fun report => report.checkpointRef.id).Nodup
  newestFirst : checkpointReports.Pairwise fun newer older =>
    checkpointOrder older ≤ checkpointOrder newer

/-- The planning-time inspection of one checkpoint. -/
structure CheckpointEligibility where
  checkpointRef : Checkpoints.CheckpointRef
  reportFingerprint : Digest
  eligible : Bool
  reason : String

structure RecoveryDecision where
  strategy : RecoveryStrategy
  recoverability : Recoverability
  checkpointRef : Option Checkpoints.CheckpointRef := none
  reason : String
  requiresApproval : Bool := false
  deriving DecidableEq

def RecoveryDecision.reservesRecovery (decision : RecoveryDecision) : Bool :=
  decision.strategy = .retry || decision.strategy = .resume

/-! ## Diagnoses -/

def IncidentCategory.transient : IncidentCategory → Bool
  | processFailure | workerFailure | nodeFailure | driverFailure | preemption | networkFailure
  | objectStoreFailure | timeout => true
  | _ => false

def IncidentCategory.fatal : IncidentCategory → Bool
  | dataError | dataCorruption | configError | userError => true
  | _ => false

def IncidentCategory.numerical : IncidentCategory → Bool
  | numericalNan | numericalInf | gradientExplosion | lossDivergence => true
  | _ => false

inductive SpecialisedFamily where
  | adaptiveExecution | numericalIntervention
  deriving DecidableEq

def SpecialisedFamily.text : SpecialisedFamily → String
  | adaptiveExecution => "adaptive-execution"
  | numericalIntervention => "numerical-intervention"

structure RecoveryRequirement where
  recoverability : Recoverability
  specialisedFamily : Option SpecialisedFamily := none

def diagnosisRequirement (category : IncidentCategory) : RecoveryRequirement :=
  if category.fatal then { recoverability := .unrecoverable }
  else if category.transient then { recoverability := .newAttempt }
  else if category = .cudaOom then
    { recoverability := .withExecutionOverride, specialisedFamily := some .adaptiveExecution }
  else if category.numerical then
    { recoverability := .human, specialisedFamily := some .numericalIntervention }
  else { recoverability := .unknown }

/-! ## The decision -/

def failBecause (reason : String) : RecoveryDecision where
  strategy := .fail
  recoverability := .unrecoverable
  reason := reason

def pauseBecause (reason : String) : RecoveryDecision where
  strategy := .pauseForApproval
  recoverability := .human
  requiresApproval := true
  reason := reason

def ended (inputs : RecoveryInputsV1) : Bool :=
  inputs.experimentStatus ∈ [.succeeded, .failed, .cancelled, .budgetExhausted] ||
    inputs.nodeStatus ∈ [.completed, .rejected, .cancelled, .failed]

def settled (inputs : RecoveryInputsV1) : Bool :=
  inputs.runStatus ∈ [.training .succeeded, .training .cancelled, .evaluation .succeeded,
      .evaluation .cancelled] ||
    inputs.attemptStatus ∈ [.training .succeeded, .training .cancelled, .evaluation .succeeded,
      .evaluation .cancelled]

/-- What the diagnoses of the evidence require. -/
def requirements (evidence : List RecoveryEvidence) : List RecoveryRequirement :=
  evidence.flatMap fun item => item.categories.map diagnosisRequirement

/-- The specialised families the requirements name, each once, in the order of their names. -/
def families (required : List RecoveryRequirement) : List SpecialisedFamily :=
  [.adaptiveExecution, .numericalIntervention].filter fun family =>
    required.any fun requirement => requirement.specialisedFamily = some family

/-- What is decided where no specialised recovery is required, if anything is. -/
def generalDecision (inputs : RecoveryInputsV1) (request : RecoveryRequest)
    (required : List RecoveryRequirement) : Option RecoveryDecision :=
  if required.any fun requirement => requirement.recoverability ≠ .newAttempt then
    some (pauseBecause "evidence requires unsupported or human-governed recovery")
  else if inputs.context.target.kind ≠ .trainingAttempt then
    some (pauseBecause "evaluation recovery requires a workload-specific policy")
  else if inputs.repeatCounts.any fun count =>
      request.limits.maxSameIncidentRepeats < count.priorMatchingEpisodes then
    some (pauseBecause "repeated incident limit reached")
  else none

/-- What is decided without looking at checkpoints and quotas, if anything is. -/
def predecision (inputs : RecoveryInputsV1) (request : RecoveryRequest) : Option RecoveryDecision :=
  let required := requirements inputs.acceptedEvidence
  if ended inputs then some (failBecause "experiment or candidate is terminal")
  else if inputs.experimentStatus = .paused then
    some (pauseBecause "experiment is paused; recovery needs review")
  else if settled inputs then
    some (failBecause "completed or cancelled work cannot be recovered")
  else if inputs.successorExists then
    some (failBecause "episode is closed by a successor attempt")
  else if required.any fun requirement => requirement.recoverability = .unrecoverable then
    some (failBecause "structured diagnosis requires corrected data or configuration")
  else match families required with
    | first :: second :: rest => some (pauseBecause
        ("conflicting specialised recovery requirements: " ++
          String.intercalate ", " ((first :: second :: rest).map SpecialisedFamily.text)))
    | [family] => some (pauseBecause ("specialised recovery required: " ++ family.text))
    | [] => generalDecision inputs request required

/-- Only a proposed reservation is limited; pauses and failures consume none. -/
def limitReservingDecision (inputs : RecoveryInputsV1) (request : RecoveryRequest)
    (candidate : RecoveryDecision) : RecoveryDecision :=
  if ¬ candidate.reservesRecovery then candidate
  else if request.limits.maxAttemptsPerRun <
      inputs.actualAttemptCount + inputs.pendingOtherRunReservations + 1 then
    failBecause "maximum attempts per run reached (including planned recoveries)"
  else if request.limits.maxRecoveriesPerExperiment <
      inputs.experimentRecoveryUsageExcludingTarget + 1 then
    failBecause "maximum recoveries per experiment reached"
  else candidate

/-- What keeps a report from being resumed from after one incident. -/
def incidentProblem (target : RuntimeOperationTarget) (report : RecoveryCheckpointReport)
    (evidence : RecoveryEvidence) : Option String :=
  if report.context.target = target ∧
      toLex (evidence.streamGeneration, evidence.observationSequence) ≤
        toLex (report.streamGeneration, report.observationSequence) then
    some "checkpoint was reported at or after the incident"
  else if report.context.target ≠ target ∧ evidence.observedAt < report.reportedAt then
    some "checkpoint was reported after the incident"
  else if evidence.optimizerStep.any fun step => step < report.optimizerStep then
    some "checkpoint is beyond the incident's training position"
  else none

/-- The structured eligibility of a report; its bytes are not inspected. -/
def checkpointReportProblem (report : RecoveryCheckpointReport) (inputs : RecoveryInputsV1) :
    Option String :=
  if report.context.runId ≠ inputs.context.runId then
    some "checkpoint belongs to another logical run"
  else match inputs.acceptedEvidence.findSome? (incidentProblem inputs.context.target report) with
    | some problem => some problem
    | none =>
        if report.resumeGuarantee ≠ ⟨.full, .exact, .optimizerStep⟩ ∨ ¬ report.hasDataCursor then
          some
            "generic resume requires FULL/EXACT state and an optimizer-boundary data cursor"
        else none

/-- What is proposed once no early check decides. -/
def candidateDecision (request : RecoveryRequest) (eligibility : List CheckpointEligibility) :
    RecoveryDecision :=
  match eligibility.find? CheckpointEligibility.eligible with
  | some item =>
      { strategy := .resume
        recoverability := .newAttempt
        checkpointRef := some item.checkpointRef
        reason := "latest validated compatible FULL/EXACT optimizer-boundary checkpoint" }
  | none =>
      if request.allowRetryWithoutCheckpoint then
        { strategy := .retry
          recoverability := .newAttempt
          reason := "explicit policy permits restarting without a checkpoint" }
      else pauseBecause
        "no eligible checkpoint; restarting without captured state is not permitted"

def decideRecovery (fingerprint : RecoveryRequest → Digest) (inputs : RecoveryInputsV1)
    (request : RecoveryRequest) (eligibility : List CheckpointEligibility) :
    Except String RecoveryDecision :=
  if fingerprint request ≠ inputs.requestFingerprint then
    .error "request differs from episode planning provenance"
  else match predecision inputs request with
    | some decision => .ok decision
    | none =>
        .ok (limitReservingDecision inputs request (candidateDecision request eligibility))

/-- Whether the manager's codec and store accept a report's bytes, or why not. -/
abbrev Validation := RecoveryCheckpointReport → RestoreContext → Option String

/-- Why a checkpoint is not eligible, if it is not. -/
def ineligibility (manager : Option Validation) (inputs : RecoveryInputsV1)
    (request : RecoveryRequest) (report : RecoveryCheckpointReport) : Option String :=
  match checkpointReportProblem report inputs with
  | some problem => some problem
  | none =>
      match request.restoreContext, manager with
      | some context, some validate => validate report context
      | _, _ => some "consumer restore context or checkpoint manager is unavailable"

/-- The coordinator's inspection of every report, newest first. -/
def checkpointEligibility (manager : Option Validation) (inputs : RecoveryInputsV1)
    (request : RecoveryRequest) : List CheckpointEligibility :=
  inputs.checkpointReports.map fun report =>
    { checkpointRef := report.checkpointRef
      reportFingerprint := report.reportFingerprint
      eligible := (ineligibility manager inputs request report).isNone
      reason := (ineligibility manager inputs request report).getD
        "bytes, producer, compatibility and exact continuation validated" }

/-! ## More evidence -/

/-- Two inputs that differ in their accepted evidence only: one has more of it, and each the
repeat counts of its own signatures. -/
structure MoreEvidence (prior : Digest → Nat) (less more : RecoveryInputsV1) : Prop where
  evidence : ∀ item ∈ less.acceptedEvidence, item ∈ more.acceptedEvidence
  lessRepeats : ∀ count ∈ less.repeatCounts, count.priorMatchingEpisodes = prior count.signature
  moreRepeats : ∀ count ∈ more.repeatCounts, count.priorMatchingEpisodes = prior count.signature
  context : more.context = less.context
  experimentStatus : more.experimentStatus = less.experimentStatus
  nodeStatus : more.nodeStatus = less.nodeStatus
  runStatus : more.runStatus = less.runStatus
  attemptStatus : more.attemptStatus = less.attemptStatus
  actualAttemptCount : more.actualAttemptCount = less.actualAttemptCount
  successorExists : more.successorExists = less.successorExists
  pendingOtherRunReservations :
    more.pendingOtherRunReservations = less.pendingOtherRunReservations
  requestFingerprint : more.requestFingerprint = less.requestFingerprint
  experimentRecoveryUsage : more.experimentRecoveryUsageExcludingTarget =
    less.experimentRecoveryUsageExcludingTarget
  checkpointReports : more.checkpointReports = less.checkpointReports

variable {inputs less more : RecoveryInputsV1} {request : RecoveryRequest} {prior : Digest → Nat}
  {manager : Option Validation}

theorem families_eq_nil_iff {required : List RecoveryRequirement} :
    families required = [] ↔ ∀ requirement ∈ required, requirement.specialisedFamily = none := by
  constructor
  · intro empty requirement member
    cases named : requirement.specialisedFamily with
    | none => rfl
    | some family =>
        have listed : family ∈ families required := by
          refine List.mem_filter.mpr ⟨?_, List.any_eq_true.mpr ⟨requirement, member, ?_⟩⟩
          · cases family <;> simp
          · simpa using named
        rw [empty] at listed
        cases listed
  · intro none_named
    refine List.filter_eq_nil_iff.mpr ?_
    intro family _ named
    obtain ⟨requirement, member, isFamily⟩ := List.any_eq_true.mp named
    rw [none_named requirement member] at isFamily
    simp at isFamily

theorem generalDecision_eq_none_iff {required : List RecoveryRequirement} :
    generalDecision inputs request required = none ↔
      (∀ requirement ∈ required, requirement.recoverability = .newAttempt) ∧
      inputs.context.target.kind = .trainingAttempt ∧
      ∀ count ∈ inputs.repeatCounts,
        count.priorMatchingEpisodes ≤ request.limits.maxSameIncidentRepeats := by
  unfold generalDecision
  split_ifs with isOther isEvaluation isRepeated <;> simp_all

/-- Nothing is decided early exactly when every check of the cascade passes. -/
theorem predecision_eq_none_iff : predecision inputs request = none ↔
    (ended inputs = false ∧ inputs.experimentStatus ≠ .paused ∧ settled inputs = false ∧
      inputs.successorExists = false ∧ inputs.context.target.kind = .trainingAttempt) ∧
    (∀ requirement ∈ requirements inputs.acceptedEvidence,
      requirement.recoverability = .newAttempt ∧ requirement.specialisedFamily = none) ∧
    ∀ count ∈ inputs.repeatCounts,
      count.priorMatchingEpisodes ≤ request.limits.maxSameIncidentRepeats := by
  unfold predecision
  constructor
  · intro undecided
    dsimp only at undecided
    split_ifs at undecided with isEnded isPaused isSettled hasSuccessor isFatal
    split at undecided
    · cases undecided
    · cases undecided
    · rename_i noFamily
      obtain ⟨newAttempts, isTraining, repeats⟩ := generalDecision_eq_none_iff.mp undecided
      refine ⟨⟨by simpa using isEnded, isPaused, by simpa using isSettled,
        by simpa using hasSuccessor, isTraining⟩, ?_, repeats⟩
      intro requirement member
      exact ⟨newAttempts requirement member, families_eq_nil_iff.mp noFamily requirement member⟩
  · rintro ⟨⟨notEnded, notPaused, notSettled, noSuccessor, isTraining⟩, required, repeats⟩
    have noFamily : families (requirements inputs.acceptedEvidence) = [] :=
      families_eq_nil_iff.mpr fun requirement member => (required requirement member).2
    have notFatal : ((requirements inputs.acceptedEvidence).any fun requirement =>
        decide (requirement.recoverability = .unrecoverable)) = false := by
      refine List.any_eq_false.mpr fun requirement member => ?_
      rw [(required requirement member).1]
      simp
    have general : generalDecision inputs request (requirements inputs.acceptedEvidence) = none :=
      generalDecision_eq_none_iff.mpr
        ⟨fun requirement member => (required requirement member).1, isTraining, repeats⟩
    simp [notEnded, notPaused, notSettled, noSuccessor, noFamily, notFatal, general]

/-- What is decided early reserves nothing. -/
theorem predecision_reserves {decision : RecoveryDecision}
    (decided : predecision inputs request = some decision) : decision.reservesRecovery = false := by
  unfold predecision at decided
  dsimp only at decided
  split_ifs at decided
  all_goals try (cases decided; rfl)
  split at decided
  · cases decided
    rfl
  · cases decided
    rfl
  · unfold generalDecision at decided
    split_ifs at decided
    all_goals cases decided; rfl

theorem MoreEvidence.requirements (grown : MoreEvidence prior less more)
    {requirement : RecoveryRequirement}
    (member : requirement ∈ Resilience.requirements less.acceptedEvidence) :
    requirement ∈ Resilience.requirements more.acceptedEvidence := by
  obtain ⟨item, inLess, named⟩ := List.mem_flatMap.mp member
  exact List.mem_flatMap.mpr ⟨item, grown.evidence item inLess, named⟩

theorem mem_incidentSignatures {evidence : List RecoveryEvidence} {signature : Digest} :
    signature ∈ incidentSignatures evidence ↔ ∃ item ∈ evidence, item.signature = signature := by
  unfold incidentSignatures
  rw [List.mem_insertionSort, List.mem_dedup, List.mem_map]

/-- A signature that was counted is counted among more evidence, as often. -/
theorem MoreEvidence.repeats (grown : MoreEvidence prior less more) {count : RecoveryRepeatCount}
    (member : count ∈ less.repeatCounts) :
    ∃ other ∈ more.repeatCounts, other.priorMatchingEpisodes = count.priorMatchingEpisodes := by
  have signed : count.signature ∈ less.repeatCounts.map RecoveryRepeatCount.signature :=
    List.mem_map_of_mem member
  rw [less.counted] at signed
  obtain ⟨item, inLess, isSignature⟩ := mem_incidentSignatures.mp signed
  have signedMore : count.signature ∈ more.repeatCounts.map RecoveryRepeatCount.signature := by
    rw [more.counted]
    exact mem_incidentSignatures.mpr ⟨item, grown.evidence item inLess, isSignature⟩
  obtain ⟨other, inMore, sameSignature⟩ := List.mem_map.mp signedMore
  refine ⟨other, inMore, ?_⟩
  rw [grown.moreRepeats other inMore, grown.lessRepeats count member, sameSignature]

/-- What was decided early on less evidence is decided early on more. -/
theorem MoreEvidence.predecision (grown : MoreEvidence prior less more)
    (undecided : Resilience.predecision more request = none) :
    Resilience.predecision less request = none := by
  obtain ⟨⟨notEnded, notPaused, notSettled, noSuccessor, isTraining⟩, required, repeats⟩ :=
    predecision_eq_none_iff.mp undecided
  refine predecision_eq_none_iff.mpr ⟨⟨?_, ?_, ?_, ?_, ?_⟩, ?_, ?_⟩
  · rwa [ended, grown.experimentStatus, grown.nodeStatus] at notEnded
  · rwa [grown.experimentStatus] at notPaused
  · rwa [settled, grown.runStatus, grown.attemptStatus] at notSettled
  · rwa [grown.successorExists] at noSuccessor
  · rwa [grown.context] at isTraining
  · exact fun requirement member => required requirement (grown.requirements member)
  · intro count member
    obtain ⟨other, inMore, same⟩ := grown.repeats member
    rw [← same]
    exact repeats other inMore

/-- A report has no problem: it is of the run, precedes every incident and holds the full state. -/
theorem checkpointReportProblem_eq_none {report : RecoveryCheckpointReport} :
    checkpointReportProblem report inputs = none ↔ report.context.runId = inputs.context.runId ∧
      (∀ evidence ∈ inputs.acceptedEvidence,
        incidentProblem inputs.context.target report evidence = none) ∧
      report.resumeGuarantee = ⟨.full, .exact, .optimizerStep⟩ ∧ report.hasDataCursor = true := by
  unfold checkpointReportProblem
  by_cases sameRun : report.context.runId = inputs.context.runId
  · rw [if_neg (not_not.mpr sameRun), ← List.findSome?_eq_none_iff]
    cases incident : inputs.acceptedEvidence.findSome?
        (incidentProblem inputs.context.target report) with
    | some problem => simp
    | none => simp [sameRun]
  · rw [if_pos sameRun]
    simp [sameRun]

theorem ineligibility_eq_none {report : RecoveryCheckpointReport} :
    ineligibility manager inputs request report = none ↔
      checkpointReportProblem report inputs = none ∧ ∃ context ∈ request.restoreContext,
        ∃ validate ∈ manager, validate report context = none := by
  unfold ineligibility
  cases checkpointReportProblem report inputs with
  | some problem => simp
  | none => cases request.restoreContext <;> cases manager <;> simp

/-- A checkpoint eligible on more evidence is eligible on less. -/
theorem MoreEvidence.ineligibility (grown : MoreEvidence prior less more)
    {report : RecoveryCheckpointReport}
    (eligible : Resilience.ineligibility manager more request report = none) :
    Resilience.ineligibility manager less request report = none := by
  obtain ⟨fine, validated⟩ := ineligibility_eq_none.mp eligible
  obtain ⟨sameRun, incidents, whole⟩ := checkpointReportProblem_eq_none.mp fine
  rw [grown.context] at sameRun incidents
  refine ineligibility_eq_none.mpr ⟨checkpointReportProblem_eq_none.mpr ⟨sameRun, ?_, whole⟩,
    validated⟩
  exact fun evidence member => incidents evidence (grown.evidence evidence member)

theorem find?_checkpointEligibility_eq_none :
    (checkpointEligibility manager inputs request).find? CheckpointEligibility.eligible = none ↔
      ∀ report ∈ inputs.checkpointReports, ineligibility manager inputs request report ≠ none := by
  simp [checkpointEligibility, List.find?_eq_none]

/-- The checkpoint a decision chooses is the newest of the eligible ones. -/
theorem find?_checkpointEligibility {item : CheckpointEligibility}
    (found : (checkpointEligibility manager inputs request).find? CheckpointEligibility.eligible =
      some item) :
    ∃ report ∈ inputs.checkpointReports, item.checkpointRef = report.checkpointRef ∧
      ineligibility manager inputs request report = none ∧
      ∀ other ∈ inputs.checkpointReports, ineligibility manager inputs request other = none →
        checkpointOrder other ≤ checkpointOrder report := by
  unfold checkpointEligibility at found
  rw [List.find?_map] at found
  obtain ⟨report, first, rfl⟩ := Option.map_eq_some_iff.mp found
  obtain ⟨isEligible, newer, older, split, refused⟩ := List.find?_eq_some_iff_append.mp first
  have ordered := inputs.newestFirst
  rw [split] at ordered
  refine ⟨report, ?_, rfl, by simpa using isEligible, ?_⟩
  · rw [split]
    simp
  · intro other member eligible
    rw [split] at member
    rcases List.mem_append.mp member with before | behind
    · have ineligible := refused other before
      simp [eligible] at ineligible
    · rcases List.mem_cons.mp behind with rfl | later
      · exact le_refl _
      · exact (List.pairwise_cons.mp (List.pairwise_append.mp ordered).2.1).1 other later

/-! ## Recovery never gets bolder -/

/-- A report precedes an incident: on the incident's own stream at an earlier position, from
another attempt at no later time; and not beyond the incident's training position. -/
def Precedes (target : RuntimeOperationTarget) (report : RecoveryCheckpointReport)
    (evidence : RecoveryEvidence) : Prop :=
  (if report.context.target = target then
    toLex (report.streamGeneration, report.observationSequence) <
      toLex (evidence.streamGeneration, evidence.observationSequence)
  else report.reportedAt ≤ evidence.observedAt) ∧
  ∀ step ∈ evidence.optimizerStep, report.optimizerStep ≤ step

theorem precedes_of_incidentProblem {target : RuntimeOperationTarget}
    {report : RecoveryCheckpointReport} {evidence : RecoveryEvidence}
    (fine : incidentProblem target report evidence = none) : Precedes target report evidence := by
  unfold incidentProblem at fine
  split_ifs at fine with same later beyond
  refine ⟨?_, ?_⟩
  · by_cases isTarget : report.context.target = target
    · rw [if_pos isTarget]
      exact not_le.mp fun early => same ⟨isTarget, early⟩
    · rw [if_neg isTarget]
      exact not_lt.mp fun late => later ⟨isTarget, late⟩
  · intro step isStep
    rw [Option.mem_def.mp isStep] at beyond
    simpa using beyond

/-- An eligible checkpoint precedes every accepted incident. -/
theorem precedes_of_eligible {report : RecoveryCheckpointReport}
    (eligible : ineligibility manager inputs request report = none) {evidence : RecoveryEvidence}
    (member : evidence ∈ inputs.acceptedEvidence) :
    Precedes inputs.context.target report evidence := by
  obtain ⟨fine, _⟩ := ineligibility_eq_none.mp eligible
  exact precedes_of_incidentProblem ((checkpointReportProblem_eq_none.mp fine).2.1 evidence member)

variable {fingerprint : RecoveryRequest → Digest} {decision bolder : RecoveryDecision}

/-- What a decision is, once the request is the one the inputs were planned for. -/
theorem decideRecovery_eq (bound : fingerprint request = inputs.requestFingerprint)
    (eligibility : List CheckpointEligibility) :
    decideRecovery fingerprint inputs request eligibility =
      .ok ((predecision inputs request).getD
        (limitReservingDecision inputs request (candidateDecision request eligibility))) := by
  unfold decideRecovery
  rw [if_neg (not_not.mpr bound)]
  cases predecision inputs request with
  | some decision => rfl
  | none => rfl

theorem bound_of_decided {eligibility : List CheckpointEligibility}
    (decided : decideRecovery fingerprint inputs request eligibility = .ok decision) :
    fingerprint request = inputs.requestFingerprint := by
  unfold decideRecovery at decided
  by_cases differs : fingerprint request ≠ inputs.requestFingerprint
  · rw [if_pos differs] at decided
    cases decided
  · exact not_not.mp differs

/-- The two quotas of a reservation. -/
def WithinQuotas (inputs : RecoveryInputsV1) (request : RecoveryRequest) : Prop :=
  inputs.actualAttemptCount + inputs.pendingOtherRunReservations + 1 ≤
    request.limits.maxAttemptsPerRun ∧
  inputs.experimentRecoveryUsageExcludingTarget + 1 ≤ request.limits.maxRecoveriesPerExperiment

theorem limitReservingDecision_reserves {candidate : RecoveryDecision} :
    (limitReservingDecision inputs request candidate).reservesRecovery = true ↔
      candidate.reservesRecovery = true ∧ WithinQuotas inputs request := by
  unfold limitReservingDecision WithinQuotas
  by_cases proposed : candidate.reservesRecovery = true
  · rw [if_neg (not_not.mpr proposed)]
    simp only [proposed, true_and]
    split_ifs with attempts recoveries
    · apply iff_of_false
      · exact Bool.false_ne_true
      · exact fun within => absurd attempts (Nat.not_lt.mpr within.1)
    · apply iff_of_false
      · exact Bool.false_ne_true
      · exact fun within => absurd recoveries (Nat.not_lt.mpr within.2)
    · exact iff_of_true proposed ⟨Nat.not_lt.mp attempts, Nat.not_lt.mp recoveries⟩
  · rw [if_pos proposed]
    simp [proposed]

theorem limitReservingDecision_eq {candidate : RecoveryDecision}
    (reserves : (limitReservingDecision inputs request candidate).reservesRecovery = true) :
    limitReservingDecision inputs request candidate = candidate := by
  obtain ⟨proposed, attempts, recoveries⟩ := limitReservingDecision_reserves.mp reserves
  unfold limitReservingDecision
  rw [if_neg (not_not.mpr proposed), if_neg (Nat.not_lt.mpr attempts),
    if_neg (Nat.not_lt.mpr recoveries)]

theorem candidateDecision_reserves {eligibility : List CheckpointEligibility} :
    (candidateDecision request eligibility).reservesRecovery = true ↔
      eligibility.find? CheckpointEligibility.eligible ≠ none ∨
        request.allowRetryWithoutCheckpoint = true := by
  unfold candidateDecision
  cases eligibility.find? CheckpointEligibility.eligible with
  | some item => simp [RecoveryDecision.reservesRecovery]
  | none =>
      cases request.allowRetryWithoutCheckpoint with
      | true => simp [RecoveryDecision.reservesRecovery]
      | false => simp [RecoveryDecision.reservesRecovery, pauseBecause]

/-- A decision that reserves a recovery passed every early check, proposes one, and is within
both quotas. -/
theorem reserves_of_decided {eligibility : List CheckpointEligibility}
    (decided : decideRecovery fingerprint inputs request eligibility = .ok decision)
    (reserves : decision.reservesRecovery = true) :
    predecision inputs request = none ∧ decision = candidateDecision request eligibility ∧
      WithinQuotas inputs request := by
  rw [decideRecovery_eq (bound_of_decided decided)] at decided
  cases early : predecision inputs request with
  | some first =>
      rw [early] at decided
      cases decided
      have refused := predecision_reserves early
      rw [Option.getD_some] at reserves
      rw [refused] at reserves
      cases reserves
  | none =>
      rw [early] at decided
      cases decided
      rw [Option.getD_none] at reserves ⊢
      exact ⟨rfl, limitReservingDecision_eq reserves,
        (limitReservingDecision_reserves.mp reserves).2⟩

/-- A decision that reserves no recovery does not come to reserve one with more evidence; and a
resumption is from the newest checkpoint that is eligible for all of the evidence, which precedes
every incident of it. -/
theorem decideRecovery_of_moreEvidence (grown : MoreEvidence prior less more)
    (decided : decideRecovery fingerprint more request
      (checkpointEligibility manager more request) = .ok bolder) :
    (decideRecovery fingerprint less request (checkpointEligibility manager less request) =
        .ok decision → decision.reservesRecovery = false → bolder.reservesRecovery = false) ∧
    (bolder.strategy = .resume → ∃ report ∈ more.checkpointReports,
      bolder.checkpointRef = some report.checkpointRef ∧
      ineligibility manager more request report = none ∧
      (∀ other ∈ more.checkpointReports, ineligibility manager more request other = none →
        checkpointOrder other ≤ checkpointOrder report) ∧
      ∀ evidence ∈ more.acceptedEvidence, Precedes more.context.target report evidence) := by
  constructor
  · intro before timid
    by_contra reserves
    rw [Bool.not_eq_false] at reserves
    obtain ⟨undecided, isCandidate, attempts, recoveries⟩ := reserves_of_decided decided reserves
    rw [isCandidate, candidateDecision_reserves] at reserves
    rw [decideRecovery_eq (bound_of_decided before), grown.predecision undecided,
      Option.getD_none] at before
    cases before
    have bold : (limitReservingDecision less request
        (candidateDecision request (checkpointEligibility manager less request))).reservesRecovery =
          true := by
      refine limitReservingDecision_reserves.mpr ⟨candidateDecision_reserves.mpr ?_, ?_, ?_⟩
      · rcases reserves with found | allowed
        · left
          intro none_less
          refine found (find?_checkpointEligibility_eq_none.mpr fun report member eligible => ?_)
          rw [grown.checkpointReports] at member
          exact find?_checkpointEligibility_eq_none.mp none_less report member
            (grown.ineligibility eligible)
        · exact Or.inr allowed
      · rwa [← grown.actualAttemptCount, ← grown.pendingOtherRunReservations]
      · rwa [← grown.experimentRecoveryUsage]
    rw [timid] at bold
    cases bold
  · intro resumes
    have reserves : bolder.reservesRecovery = true := by
      simp [RecoveryDecision.reservesRecovery, resumes]
    obtain ⟨_, isCandidate, _⟩ := reserves_of_decided decided reserves
    unfold candidateDecision at isCandidate
    cases found : (checkpointEligibility manager more request).find?
        CheckpointEligibility.eligible with
    | none =>
        rw [found] at isCandidate
        rw [isCandidate] at resumes
        cases allowed : request.allowRetryWithoutCheckpoint <;>
          simp [allowed, pauseBecause] at resumes
    | some item =>
        rw [found] at isCandidate
        obtain ⟨report, member, isRef, eligible, greatest⟩ := find?_checkpointEligibility found
        refine ⟨report, member, ?_, eligible, greatest, fun evidence accepted =>
          precedes_of_eligible eligible accepted⟩
        rw [isCandidate]
        exact congrArg some isRef

/-! ## One episode -/

namespace Sample

def context : AttemptContext := ⟨⟨.trainingAttempt, "attempt-2"⟩, "run-1", "node-1", "experiment-1"⟩

def preempted : RecoveryEvidence where
  incidentId := "incident-1"
  membershipSequence := 1
  signature := "signature-1"
  diagnosisFingerprint := "diagnosis-1"
  categories := [.preemption]
  streamGeneration := 0
  observationSequence := 5
  optimizerStep := some 40
  observedAt := 100
  diagnosed := by decide

def timedOut : RecoveryEvidence where
  incidentId := "incident-2"
  membershipSequence := 2
  signature := "signature-2"
  diagnosisFingerprint := "diagnosis-2"
  categories := [.timeout]
  streamGeneration := 0
  observationSequence := 6
  optimizerStep := none
  observedAt := 120
  diagnosed := by decide

def misconfigured : RecoveryEvidence where
  incidentId := "incident-3"
  membershipSequence := 3
  signature := "signature-3"
  diagnosisFingerprint := "diagnosis-3"
  categories := [.configError]
  streamGeneration := 0
  observationSequence := 7
  optimizerStep := none
  observedAt := 130
  diagnosed := by decide

/-- A checkpoint of the attempt before, reported at the moment of the first incident. -/
def report : RecoveryCheckpointReport where
  checkpointRef := ⟨"checkpoint-1", "file:///committed/checkpoint-1", some 30, some "digest-1",
    some "key-1", some 90⟩
  context := { context with target := ⟨.trainingAttempt, "attempt-1"⟩ }
  producerAttemptNumber := 1
  reportFingerprint := "report-1"
  optimizerStep := 30
  streamGeneration := 0
  observationSequence := 9
  reportedAt := 100
  resumeGuarantee := ⟨.full, .exact, .optimizerStep⟩
  hasDataCursor := true

def compatibility : CheckpointCompatibilityKey where
  stateFormat := "native/v1"
  modelFingerprint := "model-1"
  optimizerLayout := some "adamw/v1"
  schedulerLayout := some "cosine/v1"
  distributedStrategy := "single"
  shardingScheme := "none"
  topologyFingerprint := "topology-1"
  frameworkVersions := [("torch", "2.5.0")]
  adapterFingerprint := none
  tokenizerFingerprint := none

def asked : RecoveryRequest where
  restoreContext := some ⟨"candidate-1", compatibility, some "dataset-1", some "ordering-1", none⟩

def inputsOf (evidence : List RecoveryEvidence) (accepted : evidence ≠ [])
    (byIncident : evidence.Pairwise fun left right => left.incidentId < right.incidentId)
    (bySequence : (evidence.map RecoveryEvidence.membershipSequence).Nodup) :
    RecoveryInputsV1 where
  context := context
  experimentStatus := .active
  nodeStatus := .active
  runStatus := .training .active
  attemptStatus := .training .failed
  actualAttemptCount := 2
  successorExists := false
  pendingOtherRunReservations := 0
  requestFingerprint := "request-1"
  acceptedEvidence := evidence
  experimentRecoveryUsageExcludingTarget := 0
  repeatCounts := (incidentSignatures evidence).map fun signature => ⟨signature, 0⟩
  checkpointReports := [report]
  accepted := accepted
  byIncident := byIncident
  bySequence := bySequence
  counted := by
    rw [List.map_map]
    exact List.map_id _
  reportedOnce := by simp
  newestFirst := by simp

def fewer : RecoveryInputsV1 := inputsOf [preempted] (by decide) (by decide) (by decide)

def further : RecoveryInputsV1 := inputsOf [preempted, timedOut] (by decide) (by decide) (by decide)

def hopeless : RecoveryInputsV1 := inputsOf [misconfigured] (by decide) (by decide) (by decide)

def noBetter : RecoveryInputsV1 :=
  inputsOf [timedOut, misconfigured] (by decide) (by decide) (by decide)

/-- A manager whose codec and store accept every checkpoint. -/
def accepting : Option Validation := some fun _ _ => none

def resumption : RecoveryDecision where
  strategy := .resume
  recoverability := .newAttempt
  checkpointRef := some report.checkpointRef
  reason := "latest validated compatible FULL/EXACT optimizer-boundary checkpoint"

theorem inputsOf_grown {less more : List RecoveryEvidence} (accepted : less ≠ [])
    (byIncident : less.Pairwise fun left right => left.incidentId < right.incidentId)
    (bySequence : (less.map RecoveryEvidence.membershipSequence).Nodup) (accepted' : more ≠ [])
    (byIncident' : more.Pairwise fun left right => left.incidentId < right.incidentId)
    (bySequence' : (more.map RecoveryEvidence.membershipSequence).Nodup)
    (within : ∀ item ∈ less, item ∈ more) :
    MoreEvidence (fun _ => 0) (inputsOf less accepted byIncident bySequence)
      (inputsOf more accepted' byIncident' bySequence') where
  evidence := within
  lessRepeats := by simp [inputsOf]
  moreRepeats := by simp [inputsOf]
  context := rfl
  experimentStatus := rfl
  nodeStatus := rfl
  runStatus := rfl
  attemptStatus := rfl
  actualAttemptCount := rfl
  successorExists := rfl
  pendingOtherRunReservations := rfl
  requestFingerprint := rfl
  experimentRecoveryUsage := rfl
  checkpointReports := rfl

end Sample

/-- More evidence on two episodes: one is resumed from the newest eligible checkpoint, the other is
recovered from no more than before. -/
theorem decideRecovery_with_timedOut :
    (decideRecovery (fun _ => "request-1") Sample.further Sample.asked
        (checkpointEligibility Sample.accepting Sample.further Sample.asked) =
          .ok Sample.resumption ∧
      ∃ report ∈ Sample.further.checkpointReports,
        Sample.resumption.checkpointRef = some report.checkpointRef ∧
        ineligibility Sample.accepting Sample.further Sample.asked report = none ∧
        (∀ other ∈ Sample.further.checkpointReports,
          ineligibility Sample.accepting Sample.further Sample.asked other = none →
            checkpointOrder other ≤ checkpointOrder report) ∧
        ∀ evidence ∈ Sample.further.acceptedEvidence,
          Precedes Sample.further.context.target report evidence) ∧
    ∃ decision, decideRecovery (fun _ => "request-1") Sample.noBetter Sample.asked
        (checkpointEligibility Sample.accepting Sample.noBetter Sample.asked) = .ok decision ∧
      decision.reservesRecovery = false := by
  have decided : decideRecovery (fun _ => "request-1") Sample.further Sample.asked
      (checkpointEligibility Sample.accepting Sample.further Sample.asked) =
        .ok Sample.resumption := by decide
  have grown : MoreEvidence (fun _ => 0) Sample.fewer Sample.further :=
    Sample.inputsOf_grown _ _ _ _ _ _ (by simp)
  obtain ⟨_, newest⟩ := @decideRecovery_of_moreEvidence _ _ _ _ _ _ Sample.resumption _
    grown decided
  have given : decideRecovery (fun _ => "request-1") Sample.hopeless Sample.asked
      (checkpointEligibility Sample.accepting Sample.hopeless Sample.asked) =
        .ok (failBecause "structured diagnosis requires corrected data or configuration") := by
    decide
  obtain ⟨decision, isDecision⟩ : ∃ decision, decideRecovery (fun _ => "request-1")
      Sample.noBetter Sample.asked
      (checkpointEligibility Sample.accepting Sample.noBetter Sample.asked) = .ok decision :=
    ⟨_, rfl⟩
  have worse : MoreEvidence (fun _ => 0) Sample.hopeless Sample.noBetter :=
    Sample.inputsOf_grown _ _ _ _ _ _ (by simp)
  obtain ⟨timid, _⟩ := decideRecovery_of_moreEvidence worse isDecision
  exact ⟨⟨decided, newest rfl⟩, decision, isDecision, timid given rfl⟩

/-- A checkpoint of another attempt reported at the very moment of an incident is resumed from:
it was not reported before it. -/
theorem resumes_from_simultaneous_report :
    decideRecovery (fun _ => "request-1") Sample.fewer Sample.asked
      (checkpointEligibility Sample.accepting Sample.fewer Sample.asked) =
        .ok Sample.resumption ∧
    Sample.fewer.checkpointReports = [Sample.report] ∧
    Sample.resumption.checkpointRef = some Sample.report.checkpointRef ∧
    Sample.preempted ∈ Sample.fewer.acceptedEvidence ∧
    ¬ Sample.report.reportedAt < Sample.preempted.observedAt := by
  refine ⟨by decide, rfl, rfl, ?_, by decide⟩
  simp [Sample.fewer, Sample.inputsOf]

end Xaytune.Resilience
