import Mathlib.Data.Nat.Log
import Xaytune.Resilience.Decision

/-!
# Resizing after running out of memory

The planner halves the failed attempt's micro-batch, down to a configured minimum, and makes up
for it in gradient accumulation, so that the effective batch stays what it was; where that is not
possible it escalates.  Resizes that are applied one after another get shorter each time.
-/

namespace Xaytune.Resilience

open Xaytune.Core Xaytune.Checkpoints Xaytune.Storage

/-! ## The proposal -/

structure ValidationError where
  field : Option String := none
  message : String

def notPositive (field : String) : ValidationError where
  field := some field
  message := "Input should be greater than or equal to 1"

/-- Change the micro-batch size of the run's next attempt. -/
structure ResizeMicrobatch where
  target : ActionTarget
  microBatchSize : Nat
  gradientAccumulation : Option Nat := none
  actsOnRun : target.kind = .run
  positive : 1 ≤ microBatchSize
  accumulates : ∀ steps ∈ gradientAccumulation, 1 ≤ steps

def ActionTargetKind.text : ActionTargetKind → String
  | .experiment => "experiment"
  | .node => "node"
  | .run => "run"
  | .trainingAttempt => "training-attempt"
  | .evaluationRun => "evaluation-run"
  | .evaluationAttempt => "evaluation-attempt"

def ResizeMicrobatch.validate (target : ActionTarget) (microBatchSize : Nat)
    (gradientAccumulation : Option Nat) : Except ValidationError ResizeMicrobatch :=
  if positive : 1 ≤ microBatchSize then
    if accumulates : ∀ steps ∈ gradientAccumulation, 1 ≤ steps then
      if actsOnRun : target.kind = .run then
        .ok { target, microBatchSize, gradientAccumulation, actsOnRun, positive, accumulates }
      else .error { message :=
        "resize-microbatch acts on run, not on a " ++ ActionTargetKind.text target.kind }
    else .error (notPositive "gradient_accumulation")
  else .error (notPositive "micro_batch_size")

/-- What a proposal and an escalation are both bound to. -/
structure OOMRecoveryPlannerResult where
  episodeId : String
  planId : String
  planSequence : Nat
  inputFingerprint : Digest
  sequenced : 1 ≤ planSequence

/-- A proposal's fields, before they are checked against each other. -/
structure OOMResizeFields extends OOMRecoveryPlannerResult where
  runId : String
  candidateFingerprint : String
  sourceExecutionStateFingerprint : Digest
  oldMicroBatchSize : Nat
  oldGradientAccumulation : Nat
  worldSize : Nat
  effectiveBatchSize : Nat
  actionSpec : ResizeMicrobatch
  preserves : List String := ["effective_batch_size"]

/-- The resize is of the proposal's run, reduces the micro-batch and preserves the effective
batch. -/
def OOMResizeFields.PreservesAndReduces (fields : OOMResizeFields) : Prop :=
  fields.actionSpec.microBatchSize < fields.oldMicroBatchSize ∧
    fields.actionSpec.target.kind = .run ∧ fields.actionSpec.target.id = fields.runId ∧
    (∃ accumulation ∈ fields.actionSpec.gradientAccumulation,
      fields.actionSpec.microBatchSize * accumulation * fields.worldSize =
        fields.effectiveBatchSize) ∧
    fields.oldMicroBatchSize * fields.oldGradientAccumulation * fields.worldSize =
      fields.effectiveBatchSize ∧
    fields.preserves = ["effective_batch_size"]

instance OOMResizeFields.decidablePreserves (fields : OOMResizeFields) :
    Decidable fields.PreservesAndReduces :=
  inferInstanceAs (Decidable (_ ∧ _))

/-- One resize that keeps the effective batch: no other can be built. -/
structure OOMResizeProposal extends OOMResizeFields where
  oldMicro : 1 ≤ oldMicroBatchSize
  oldAccumulation : 1 ≤ oldGradientAccumulation
  world : 1 ≤ worldSize
  effective : 1 ≤ effectiveBatchSize
  valid : toOOMResizeFields.PreservesAndReduces

def OOMResizeFields.validate (fields : OOMResizeFields) :
    Except ValidationError OOMResizeProposal :=
  if oldMicro : 1 ≤ fields.oldMicroBatchSize then
    if oldAccumulation : 1 ≤ fields.oldGradientAccumulation then
      if world : 1 ≤ fields.worldSize then
        if effective : 1 ≤ fields.effectiveBatchSize then
          if valid : fields.PreservesAndReduces then
            .ok { fields with oldMicro, oldAccumulation, world, effective, valid }
          else .error { message :=
            "OOM resize must reduce micro-batch and preserve effective batch" }
        else .error (notPositive "effective_batch_size")
      else .error (notPositive "world_size")
    else .error (notPositive "old_gradient_accumulation")
  else .error (notPositive "old_micro_batch_size")

inductive OOMEscalationCode where
  | priorOverrideNotApplied | minimumMicroBatchReached | preservationNotAuthorized
  | nonintegralAccumulation | accumulationLimit

/-- No autonomous resize can be proposed under the supplied constraints. -/
structure OOMEscalation extends OOMRecoveryPlannerResult where
  code : OOMEscalationCode
  reason : String

inductive OOMPlan where
  | proposal (proposal : OOMResizeProposal)
  | escalation (escalation : OOMEscalation)

/-! ## The inputs -/

/-- The conclusion of an episode, with what it was decided on. -/
structure RecoveryPlan extends RecoveryDecision where
  id : String
  episodeId : String
  sequence : Nat
  inputs : RecoveryInputsV1
  /-- The candidate of the inputs. -/
  candidateFingerprint : String
  executionStateFingerprint : Digest
  sequenced : 1 ≤ sequence

/-- An executed resize whose successor is the attempt that failed now. -/
structure PriorOOMResize where
  actionId : String
  successorAttemptId : String
  priorExecutionStateFingerprint : Digest
  promisedMicroBatchSize : Nat
  promisedGradientAccumulation : Nat
  promisedMicro : 1 ≤ promisedMicroBatchSize
  promisedAccumulation : 1 ≤ promisedGradientAccumulation

/-- The diagnoses a plan was decided on. -/
def RecoveryPlan.categories (plan : RecoveryPlan) : List IncidentCategory :=
  plan.inputs.acceptedEvidence.flatMap RecoveryEvidence.categories

/-- The facts of the failed attempt's execution, bound to a paused episode of running out of
memory. -/
structure OOMRecoveryInputsV1 where
  plan : RecoveryPlan
  runId : String
  candidateFingerprint : String
  executionStateFingerprint : Digest
  currentMicroBatchSize : Nat
  currentGradientAccumulation : Nat
  worldSize : Nat
  minMicroBatchSize : Nat := 1
  maxGradientAccumulation : Option Nat := none
  preserveEffectiveBatch : Bool := true
  priorResize : Option PriorOOMResize := none
  currentMicro : 1 ≤ currentMicroBatchSize
  currentAccumulation : 1 ≤ currentGradientAccumulation
  world : 1 ≤ worldSize
  minMicro : 1 ≤ minMicroBatchSize
  maxAccumulation : ∀ limit ∈ maxGradientAccumulation, 1 ≤ limit
  paused : plan.strategy = .pauseForApproval
  human : plan.recoverability = .human
  training : plan.inputs.context.target.kind = .trainingAttempt
  sameRun : runId = plan.inputs.context.runId
  sameCandidate : candidateFingerprint = plan.candidateFingerprint
  sameState : executionStateFingerprint = plan.executionStateFingerprint
  outOfMemory : .cudaOom ∈ plan.categories
  unblocked : ∀ category ∈ plan.categories,
    (diagnosisRequirement category).specialisedFamily = some .adaptiveExecution ∨
      (diagnosisRequirement category).recoverability = .newAttempt
  producesFailed : ∀ prior ∈ priorResize,
    prior.successorAttemptId = plan.inputs.context.target.id

def OOMRecoveryInputsV1.effectiveBatchSize (inputs : OOMRecoveryInputsV1) : Nat :=
  inputs.currentMicroBatchSize * inputs.currentGradientAccumulation * inputs.worldSize

/-- The failed attempt does not show what the resize before it promised. -/
def OOMRecoveryInputsV1.PriorNotApplied (inputs : OOMRecoveryInputsV1) : Prop :=
  ∃ prior ∈ inputs.priorResize,
    inputs.executionStateFingerprint = prior.priorExecutionStateFingerprint ∨
      inputs.currentMicroBatchSize ≠ prior.promisedMicroBatchSize ∨
      inputs.currentGradientAccumulation ≠ prior.promisedGradientAccumulation

instance OOMRecoveryInputsV1.decidableNotApplied (inputs : OOMRecoveryInputsV1) :
    Decidable inputs.PriorNotApplied :=
  inferInstanceAs (Decidable (∃ prior ∈ inputs.priorResize, _))

/-! ## The planner -/

variable (fingerprint : OOMRecoveryInputsV1 → Digest)

def OOMRecoveryInputsV1.binding (inputs : OOMRecoveryInputsV1) : OOMRecoveryPlannerResult where
  episodeId := inputs.plan.episodeId
  planId := inputs.plan.id
  planSequence := inputs.plan.sequence
  inputFingerprint := fingerprint inputs
  sequenced := inputs.plan.sequenced

def OOMRecoveryInputsV1.escalate (inputs : OOMRecoveryInputsV1) (code : OOMEscalationCode)
    (reason : String) : Except ValidationError OOMPlan :=
  .ok (.escalation { inputs.binding fingerprint with code, reason })

def OOMRecoveryInputsV1.newMicroBatch (inputs : OOMRecoveryInputsV1) : Nat :=
  max inputs.minMicroBatchSize (inputs.currentMicroBatchSize / 2)

def OOMRecoveryInputsV1.resize (inputs : OOMRecoveryInputsV1) (newAccumulation : Nat) :
    Except ValidationError OOMPlan := do
  let actionSpec ← ResizeMicrobatch.validate ⟨.run, inputs.runId⟩ inputs.newMicroBatch
    (some newAccumulation)
  let proposal ← OOMResizeFields.validate
    { inputs.binding fingerprint with
      runId := inputs.runId
      candidateFingerprint := inputs.candidateFingerprint
      sourceExecutionStateFingerprint := inputs.executionStateFingerprint
      oldMicroBatchSize := inputs.currentMicroBatchSize
      oldGradientAccumulation := inputs.currentGradientAccumulation
      worldSize := inputs.worldSize
      effectiveBatchSize := inputs.effectiveBatchSize
      actionSpec := actionSpec }
  return .proposal proposal

def OOMRecoveryPlanner.plan (inputs : OOMRecoveryInputsV1) : Except ValidationError OOMPlan :=
  if inputs.PriorNotApplied then
    inputs.escalate fingerprint .priorOverrideNotApplied
      "the previous adaptive resize is absent from the failed attempt's execution state"
  else if ¬ inputs.preserveEffectiveBatch then
    inputs.escalate fingerprint .preservationNotAuthorized
      "autonomous OOM recovery must preserve the declared effective batch"
  else if inputs.currentMicroBatchSize ≤ inputs.minMicroBatchSize then
    inputs.escalate fingerprint .minimumMicroBatchReached
      "micro-batch is already at the configured minimum"
  else
    let divisor := inputs.newMicroBatch * inputs.worldSize
    if inputs.effectiveBatchSize % divisor ≠ 0 then
      inputs.escalate fingerprint .nonintegralAccumulation
        "effective batch cannot be preserved with integral gradient accumulation"
    else
      let newAccumulation := inputs.effectiveBatchSize / divisor
      if ∃ limit ∈ inputs.maxGradientAccumulation, limit < newAccumulation then
        inputs.escalate fingerprint .accumulationLimit
          "preserving effective batch exceeds the gradient accumulation limit"
      else inputs.resize fingerprint newAccumulation

/-! ## What the planner answers -/

variable {fingerprint} {inputs : OOMRecoveryInputsV1}

theorem one_le_newMicroBatch : 1 ≤ inputs.newMicroBatch :=
  le_max_of_le_left inputs.minMicro

theorem newMicroBatch_lt (above : inputs.minMicroBatchSize < inputs.currentMicroBatchSize) :
    inputs.newMicroBatch < inputs.currentMicroBatchSize := by
  have positive : 0 < inputs.currentMicroBatchSize := inputs.currentMicro
  exact max_lt above (Nat.div_lt_self positive Nat.one_lt_two)

theorem one_le_effectiveBatchSize : 1 ≤ inputs.effectiveBatchSize :=
  Nat.mul_pos (Nat.mul_pos inputs.currentMicro inputs.currentAccumulation) inputs.world

/-- Where the accumulation comes out whole, it restores the effective batch. -/
theorem newMicroBatch_mul
    (whole : inputs.effectiveBatchSize % (inputs.newMicroBatch * inputs.worldSize) = 0) :
    inputs.newMicroBatch *
        (inputs.effectiveBatchSize / (inputs.newMicroBatch * inputs.worldSize)) *
        inputs.worldSize = inputs.effectiveBatchSize := by
  rw [Nat.mul_right_comm]
  exact Nat.mul_div_cancel' (Nat.dvd_of_mod_eq_zero whole)

theorem one_le_newAccumulation
    (whole : inputs.effectiveBatchSize % (inputs.newMicroBatch * inputs.worldSize) = 0) :
    1 ≤ inputs.effectiveBatchSize / (inputs.newMicroBatch * inputs.worldSize) := by
  have restored := newMicroBatch_mul whole
  apply Nat.pos_of_ne_zero
  intro none
  rw [none, Nat.mul_zero, Nat.zero_mul] at restored
  exact absurd restored.symm (Nat.one_le_iff_ne_zero.mp one_le_effectiveBatchSize)

/-- What a proposal says of the attempt it was made for. -/
structure OOMResizeProposal.Answers (inputs : OOMRecoveryInputsV1)
    (proposal : OOMResizeProposal) : Prop where
  above : inputs.minMicroBatchSize < inputs.currentMicroBatchSize
  micro : proposal.actionSpec.microBatchSize = inputs.newMicroBatch
  world : proposal.worldSize = inputs.worldSize
  effective : proposal.effectiveBatchSize = inputs.effectiveBatchSize
  limited : ∀ accumulation ∈ proposal.actionSpec.gradientAccumulation,
    ∀ limit ∈ inputs.maxGradientAccumulation, accumulation ≤ limit

/-- The proposal's own checks accept what the planner computes. -/
theorem resize_answers (above : inputs.minMicroBatchSize < inputs.currentMicroBatchSize)
    (whole : inputs.effectiveBatchSize % (inputs.newMicroBatch * inputs.worldSize) = 0)
    (limited : ∀ limit ∈ inputs.maxGradientAccumulation,
      inputs.effectiveBatchSize / (inputs.newMicroBatch * inputs.worldSize) ≤ limit) :
    ∃ proposal, inputs.resize fingerprint
        (inputs.effectiveBatchSize / (inputs.newMicroBatch * inputs.worldSize)) =
          .ok (.proposal proposal) ∧
      proposal.Answers inputs := by
  have accumulates : ∀ steps ∈ some
      (inputs.effectiveBatchSize / (inputs.newMicroBatch * inputs.worldSize)), 1 ≤ steps := by
    intro steps isNew
    rw [← Option.mem_some.mp isNew]
    exact one_le_newAccumulation whole
  have validated : ResizeMicrobatch.validate ⟨.run, inputs.runId⟩ inputs.newMicroBatch
      (some (inputs.effectiveBatchSize / (inputs.newMicroBatch * inputs.worldSize))) =
      .ok ⟨⟨.run, inputs.runId⟩, inputs.newMicroBatch, _, rfl, one_le_newMicroBatch,
        accumulates⟩ := by
    unfold ResizeMicrobatch.validate
    rw [dif_pos one_le_newMicroBatch, dif_pos accumulates, dif_pos rfl]
  unfold OOMRecoveryInputsV1.resize
  rw [validated]
  simp only [bind, Except.bind, OOMResizeFields.validate]
  rw [dif_pos inputs.currentMicro, dif_pos inputs.currentAccumulation, dif_pos inputs.world,
    dif_pos one_le_effectiveBatchSize, dif_pos]
  · refine ⟨_, rfl, above, rfl, rfl, rfl, ?_⟩
    intro accumulation isNew limit isLimit
    rw [← Option.mem_some.mp isNew]
    exact limited limit isLimit
  · exact ⟨newMicroBatch_lt above, rfl, rfl, ⟨_, rfl, newMicroBatch_mul whole⟩, rfl, rfl⟩

/-- The planner escalates, or its proposal answers the attempt. -/
theorem plan_cases (fingerprint : OOMRecoveryInputsV1 → Digest) (inputs : OOMRecoveryInputsV1) :
    (∃ escalation, OOMRecoveryPlanner.plan fingerprint inputs = .ok (.escalation escalation)) ∨
      ∃ proposal, OOMRecoveryPlanner.plan fingerprint inputs = .ok (.proposal proposal) ∧
        proposal.Answers inputs := by
  unfold OOMRecoveryPlanner.plan
  dsimp only
  split_ifs with notApplied authorized minimum fraction limit
  · exact .inl ⟨_, rfl⟩
  · exact .inl ⟨_, rfl⟩
  · exact .inl ⟨_, rfl⟩
  · exact .inl ⟨_, rfl⟩
  · right
    apply resize_answers (Nat.not_le.mp minimum) (not_not.mp fraction)
    intro bound isLimit
    exact Nat.not_lt.mp fun beyond => limit ⟨bound, isLimit, beyond⟩
  · exact .inl ⟨_, rfl⟩

theorem answers_of_planned {proposal : OOMResizeProposal}
    (planned : OOMRecoveryPlanner.plan fingerprint inputs = .ok (.proposal proposal)) :
    proposal.Answers inputs := by
  rcases plan_cases fingerprint inputs with ⟨escalation, escalated⟩ | ⟨other, proposed, answers⟩
  · rw [planned] at escalated
    cases escalated
  · rw [planned] at proposed
    cases proposed
    exact answers

/-! ## Chains of resizes -/

/-- The attempt runs in the configuration proposed. -/
def OOMResizeProposal.AppliedTo (proposal : OOMResizeProposal) (next : OOMRecoveryInputsV1) :
    Prop :=
  next.currentMicroBatchSize = proposal.actionSpec.microBatchSize ∧
    some next.currentGradientAccumulation = proposal.actionSpec.gradientAccumulation ∧
    next.worldSize = proposal.worldSize

/-- The next failed attempt ran as it was proposed after the one before. -/
def Resized (fingerprint : OOMRecoveryInputsV1 → Digest) (failed next : OOMRecoveryInputsV1) :
    Prop :=
  ∃ proposal, OOMRecoveryPlanner.plan fingerprint failed = .ok (.proposal proposal) ∧
    proposal.AppliedTo next

/-- Whether a resize is proposed after an attempt. -/
def proposes (fingerprint : OOMRecoveryInputsV1 → Digest) (failed : OOMRecoveryInputsV1) : Bool :=
  match OOMRecoveryPlanner.plan fingerprint failed with
  | .ok (.proposal _) => true
  | _ => false

variable {failed next : OOMRecoveryInputsV1}

theorem Resized.effectiveBatchSize (resized : Resized fingerprint failed next) :
    next.effectiveBatchSize = failed.effectiveBatchSize := by
  obtain ⟨proposal, planned, micro, accumulation, world⟩ := resized
  obtain ⟨reduces, kind, id, ⟨steps, isSteps, preserved⟩, restored⟩ := proposal.valid
  have same : next.currentGradientAccumulation = steps :=
    Option.some.inj (accumulation.trans isSteps)
  calc next.effectiveBatchSize
      = proposal.actionSpec.microBatchSize * steps * proposal.worldSize := by
        rw [OOMRecoveryInputsV1.effectiveBatchSize, micro, same, world]
    _ = proposal.effectiveBatchSize := preserved
    _ = failed.effectiveBatchSize := (answers_of_planned planned).effective

theorem Resized.newMicroBatch (resized : Resized fingerprint failed next) :
    next.currentMicroBatchSize = failed.newMicroBatch := by
  obtain ⟨proposal, planned, micro, applied⟩ := resized
  exact micro.trans (answers_of_planned planned).micro

namespace Sample

def outOfMemory : RecoveryEvidence :=
  { preempted with categories := [.cudaOom], diagnosed := by decide }

def episode : RecoveryPlan where
  toRecoveryDecision := pauseBecause "specialised recovery required: adaptive-execution"
  id := "plan-1"
  episodeId := "episode-1"
  sequence := 1
  inputs := inputsOf [outOfMemory] (by decide) (by decide) (by decide)
  candidateFingerprint := "candidate-1"
  executionStateFingerprint := "state-1"
  sequenced := le_refl 1

end Sample

end Xaytune.Resilience
