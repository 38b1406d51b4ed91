import Mathlib.Algebra.Ring.Nat
import Mathlib.Data.List.Forall2
import Mathlib.Data.Rat.Defs

/-!
# Measuring a harness

The metric catalog, the observations one task gives and the run values over all
tasks. A metric absent on any task has no run value; beside each execution metric
stands its mean over the tasks that succeeded.
-/

namespace Xaytune.Evaluation

/-! ## The catalog -/

inductive AbsenceReason where
  | noAttestedResult | unscoredCancelled | judgeFailed | notRecorded | notApplicable
  | spendUnaccounted
  deriving DecidableEq

/-- Every reason, in the order of its text. -/
def absenceReasons : List AbsenceReason :=
  [.judgeFailed, .noAttestedResult, .notApplicable, .notRecorded, .spendUnaccounted,
    .unscoredCancelled]

inductive Metric where
  | taskSuccess | quality
  | promptTokens | outputTokens | totalTokens | cachedTokens | reasoningTokens | cost
  | modelLatencyMs | elapsedMs | turns | toolCalls | failedToolCalls | refusedToolCalls | retries
  | contextTruncations | peakPromptTokens | tokenBudgetUtilization | spendTotalTokens
  deriving DecidableEq

def executionMetrics : List Metric :=
  [.promptTokens, .outputTokens, .totalTokens, .cachedTokens, .reasoningTokens, .cost,
    .modelLatencyMs, .elapsedMs, .turns, .toolCalls, .failedToolCalls, .refusedToolCalls, .retries,
    .contextTruncations, .peakPromptTokens, .tokenBudgetUtilization, .spendTotalTokens]

namespace Metric

def name : Metric → String
  | taskSuccess => "task_success"
  | quality => "quality"
  | promptTokens => "prompt_tokens"
  | outputTokens => "output_tokens"
  | totalTokens => "total_tokens"
  | cachedTokens => "cached_tokens"
  | reasoningTokens => "reasoning_tokens"
  | cost => "cost"
  | modelLatencyMs => "model_latency_ms"
  | elapsedMs => "elapsed_ms"
  | turns => "turns"
  | toolCalls => "tool_calls"
  | failedToolCalls => "failed_tool_calls"
  | refusedToolCalls => "refused_tool_calls"
  | retries => "retries"
  | contextTruncations => "context_truncations"
  | peakPromptTokens => "peak_prompt_tokens"
  | tokenBudgetUtilization => "token_budget_utilization"
  | spendTotalTokens => "spend_total_tokens"

/-- Computed against a held-out reference. -/
def referenceDerived : Metric → Bool
  | taskSuccess | quality => true
  | _ => false

/-- The unit of a metric; the token counter is part of every token unit. -/
def unit (tokenCounter : String) (rubricDigest : Option String) : Metric → String
  | taskSuccess | tokenBudgetUtilization => "fraction"
  | quality => "rubric:" ++ rubricDigest.getD "None" ++ " points"
  | promptTokens | outputTokens | totalTokens | peakPromptTokens | spendTotalTokens =>
      "tokens(" ++ tokenCounter ++ ")"
  | cachedTokens | reasoningTokens => "provider-tokens"
  | cost => "currency"
  | modelLatencyMs | elapsedMs => "ms"
  | turns | toolCalls | failedToolCalls | refusedToolCalls | retries | contextTruncations => "count"

end Metric

def successfulTasks : String := "successful-tasks"

/-! ## Floats -/

/-- The float operations of a measurement. A sum of zeros and ones is exact, so that its mean is
zero only where every summand is. -/
structure Floats (F : Type) where
  ofInt : Int → F
  fsum : List F → F
  divide : F → F → F
  zero_ne_one : ofInt 0 ≠ ofInt 1
  mean_scores : ∀ scores : List F, (∀ score ∈ scores, score = ofInt 0 ∨ score = ofInt 1) →
    scores ≠ [] → (divide (fsum scores) (ofInt scores.length) = ofInt 0 ↔
      ∀ score ∈ scores, score = ofInt 0)

def Floats.mean {F : Type} (floats : Floats F) (numbers : List F) : F :=
  floats.divide (floats.fsum numbers) (floats.ofInt numbers.length)

/-! ## Observations -/

/-- A value, or an absence with its reason: never both, never neither. -/
inductive Reading (F : Type) where
  | value (number : F)
  | absent (reason : AbsenceReason)

def Reading.value? {F : Type} : Reading F → Option F
  | .value number => some number
  | .absent _ => none

def Reading.absent? {F : Type} : Reading F → Option AbsenceReason
  | .value _ => none
  | .absent reason => some reason

structure MetricObservation (F : Type) where
  metric : Metric
  reading : Reading F

structure TaskObservations (F : Type) where
  taskId : String
  position : Nat
  observations : List (MetricObservation F)

def TaskObservations.get {F : Type} (task : TaskObservations F) (metric : Metric) :
    Option (MetricObservation F) :=
  task.observations.find? fun observation => observation.metric = metric

inductive TerminationReason where
  | finalAnswer | noToolCall | maxTurns | tokenBudget | toolCallBudget | contextOverflow
  | modelError | cancelled
  deriving DecidableEq

def TerminationReason.completion : TerminationReason → Bool
  | finalAnswer | noToolCall => true
  | _ => false

/-- What a measurement reads of an attested result. -/
structure HarnessRunResult where
  termination : TerminationReason
  answer : Option String
  turns : Nat
  toolCalls : Nat
  refusedToolCalls : Nat
  failedToolCalls : Nat
  contextTruncations : Nat
  promptTokens : Nat
  outputTokens : Nat
  totalTokens : Nat

inductive CallOutcome where
  | replied | failed | cancelled
  deriving DecidableEq

/-- A recorded event, as far as a measurement reads one. -/
inductive RecordedEvent where
  | modelCallStarted (sequence : Nat)
  | modelCallFinished (parent : Option Nat) (outcome : CallOutcome)
      (promptTokens outputTokens : Nat)
      (latencyMs : Option Nat)
  | other

/-- A model call that finished. -/
structure ModelCall where
  parent : Option Nat
  outcome : CallOutcome
  promptTokens : Nat
  outputTokens : Nat
  latencyMs : Option Nat

def modelCalls (events : List RecordedEvent) : List ModelCall :=
  events.filterMap fun
    | .modelCallFinished parent outcome promptTokens outputTokens latencyMs =>
        some ⟨parent, outcome, promptTokens, outputTokens, latencyMs⟩
    | _ => none

def replies (events : List RecordedEvent) : List ModelCall :=
  (modelCalls events).filter fun call => call.outcome = .replied

def unfinishedModelCalls (events : List RecordedEvent) : Bool :=
  events.any fun
    | .modelCallStarted sequence =>
        !((modelCalls events).any fun call => call.parent = some sequence)
    | _ => false

inductive Normalization where
  | none | strip | casefoldStrip

/-- `str.strip` and `str.casefold`. -/
structure TextMethods where
  strip : String → String
  casefold : String → String

/-- Whether an attested answer matches the held-out reference. -/
def Normalization.matches (text : TextMethods) (rule : Normalization) (answer reference : String) :
    Bool :=
  match rule with
  | .strip => text.strip answer = text.strip reference
  | .casefoldStrip => text.casefold (text.strip answer) = text.casefold (text.strip reference)
  | .none => answer = reference

/-- An attempt that was abandoned, and whether what it committed was lost. -/
inductive Abandonment where
  | postCommitEvidenceLost | other
  deriving DecidableEq

/-- One assigned task, read from the store. -/
structure Task where
  taskId : String
  position : Nat
  result : Option HarnessRunResult
  outcomeEvents : List RecordedEvent
  attempts : List (Option Abandonment × List RecordedEvent)
  reference : Option String
  taskInputs : String := ""

section Observations

variable {F : Type} (floats : Floats F)

/-- `task_success` for one task; a completed task without answer or reference raises. -/
def successObservation (text : TextMethods) (rule : Normalization) (task : Task) :
    Option (MetricObservation F) :=
  match task.result with
  | none => some ⟨.taskSuccess, .absent .noAttestedResult⟩
  | some result =>
      if result.termination = .cancelled then
        some ⟨.taskSuccess, .absent .unscoredCancelled⟩
      else if result.termination.completion then do
        let answer ← result.answer
        let reference ← task.reference
        pure ⟨.taskSuccess,
          .value (floats.ofInt (if rule.matches text answer reference then 1 else 0))⟩
      else some ⟨.taskSuccess, .value (floats.ofInt 0)⟩

/-- A count of the attested result. -/
def attestedObservation (result : Option HarnessRunResult) (metric : Metric)
    (count : HarnessRunResult → Nat) : MetricObservation F :=
  match result with
  | none => ⟨metric, .absent .noAttestedResult⟩
  | some result => ⟨metric, .value (floats.ofInt (count result))⟩

def latencyObservation (task : Task) : MetricObservation F :=
  match task.result with
  | none => ⟨.modelLatencyMs, .absent .noAttestedResult⟩
  | some _ =>
      let latencies := (modelCalls task.outcomeEvents).map ModelCall.latencyMs
      if latencies.any Option.isNone then ⟨.modelLatencyMs, .absent .notRecorded⟩
      else ⟨.modelLatencyMs,
        .value (floats.fsum (latencies.map fun latency => floats.ofInt (latency.getD 0)))⟩

def utilizationObservation (task : Task) (tokenBudget : Option Nat) : MetricObservation F :=
  match tokenBudget with
  | none => ⟨.tokenBudgetUtilization, .absent .notApplicable⟩
  | some budget =>
      match task.result with
      | none => ⟨.tokenBudgetUtilization, .absent .noAttestedResult⟩
      | some result => ⟨.tokenBudgetUtilization,
          .value (floats.divide (floats.ofInt result.totalTokens) (floats.ofInt budget))⟩

/-- The tokens every attempt is known to have spent. -/
def spentTokens (task : Task) : Nat :=
  (task.attempts.flatMap fun attempt => (replies attempt.2).map fun reply =>
    reply.promptTokens + reply.outputTokens).sum

def spendObservation (task : Task) : MetricObservation F :=
  if task.attempts.any fun attempt =>
      attempt.1 = some .postCommitEvidenceLost || unfinishedModelCalls attempt.2 then
    ⟨.spendTotalTokens, .absent .spendUnaccounted⟩
  else ⟨.spendTotalTokens, .value (floats.ofInt (spentTokens task))⟩

/-- Every execution metric for one task. -/
def executionObservations (task : Task) (tokenBudget : Option Nat) : List (MetricObservation F) :=
  let attested := attestedObservation floats task.result
  [attested .promptTokens HarnessRunResult.promptTokens,
    attested .outputTokens HarnessRunResult.outputTokens,
    attested .totalTokens HarnessRunResult.totalTokens,
    ⟨.cachedTokens, .absent .notRecorded⟩, ⟨.reasoningTokens, .absent .notRecorded⟩,
    ⟨.cost, .absent .notRecorded⟩, latencyObservation floats task,
    ⟨.elapsedMs, .absent .notRecorded⟩,
    attested .turns HarnessRunResult.turns, attested .toolCalls HarnessRunResult.toolCalls,
    attested .failedToolCalls HarnessRunResult.failedToolCalls,
    attested .refusedToolCalls HarnessRunResult.refusedToolCalls,
    ⟨.retries, .value (floats.ofInt (task.attempts.length - 1))⟩,
    attested .contextTruncations HarnessRunResult.contextTruncations,
    attested .peakPromptTokens fun _ =>
      ((replies task.outcomeEvents).map ModelCall.promptTokens).foldl max 0,
    utilizationObservation floats task tokenBudget, spendObservation floats task]

end Observations

/-! ## Run values -/

structure RunValue (F : Type) where
  metric : Metric
  slice : Option String := none
  value : F
  sampleCount : Nat
  unit : String

structure AbsenceCount where
  metric : Metric
  reason : AbsenceReason
  tasks : Nat

section RunValues

variable {F : Type} [DecidableEq F] (floats : Floats F) (unit : Metric → String)

/-- The observations of one metric, a task without one included. -/
def observedOf (tasks : List (TaskObservations F)) (metric : Metric) :
    List (Option (MetricObservation F)) :=
  tasks.map fun task => task.get metric

def numberOf (observation : Option (MetricObservation F)) : Option F :=
  observation.bind fun observation => observation.reading.value?

def absenceOf (observation : Option (MetricObservation F)) : Option AbsenceReason :=
  observation.bind fun observation => observation.reading.absent?

/-- The tasks whose `task_success` is 1, when every task was scored. -/
def succeededTasks (tasks : List (TaskObservations F)) : Option (List (TaskObservations F)) :=
  let scored := observedOf tasks .taskSuccess
  if !scored.isEmpty && scored.all fun observation => (numberOf observation).isSome then
    some (tasks.filter fun task => numberOf (task.get .taskSuccess) = some (floats.ofInt 1))
  else none

def absenceCounts (tasks : List (TaskObservations F)) (metric : Metric) : List AbsenceCount :=
  let absences := (observedOf tasks metric).filterMap absenceOf
  absenceReasons.filterMap fun reason =>
    if absences.count reason = 0 then none else some ⟨metric, reason, absences.count reason⟩

/-- The run value of the successful tasks alone. -/
def sliceValues (succeeded : Option (List (TaskObservations F))) (metric : Metric) :
    List (RunValue F) :=
  match succeeded with
  | none | some [] => []
  | some tasks =>
      let subset := observedOf tasks metric
      if !metric.referenceDerived && subset.all fun observation =>
        (numberOf observation).isSome then
        let picked := subset.filterMap numberOf
        [⟨metric, some successfulTasks, floats.mean picked, picked.length, unit metric⟩]
      else []

/-- A metric that is absent on any task has no run value. -/
def valueless (observed : List (Option (MetricObservation F))) : Bool :=
  !(observed.filterMap absenceOf).isEmpty || observed.isEmpty || observed.any Option.isNone

/-- The run values of one metric. -/
def metricValues (tasks : List (TaskObservations F)) (metric : Metric) : List (RunValue F) :=
  if valueless (observedOf tasks metric) then []
  else
    ⟨metric, none, floats.mean ((observedOf tasks metric).filterMap numberOf),
        ((observedOf tasks metric).filterMap numberOf).length, unit metric⟩ ::
      sliceValues floats unit (succeededTasks floats tasks) metric

/-- Run values and absence counts over the tasks, in assignment order. -/
def aggregateRun (tasks : List (TaskObservations F)) (metrics : List Metric) :
    List (RunValue F) × List AbsenceCount :=
  (metrics.flatMap (metricValues floats unit tasks), metrics.flatMap (absenceCounts tasks))

end RunValues

end Xaytune.Evaluation
