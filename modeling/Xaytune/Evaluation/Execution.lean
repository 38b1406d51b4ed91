import Xaytune.Evaluation.Measurement

/-!
# Evaluating a harness

An evaluation verifies its subject, observes every task and releases a report.
Under `aggregate` disclosure the report keeps back run values that would tell a
single task's score, and names them; a provider is given a further filtered view
whatever the disclosure.
-/

namespace Xaytune.Evaluation

/-! ## Evaluations -/

inductive Disclosure where
  | aggregate | perTask

/-- Permission to send a suite's references to one pinned judge. -/
structure ReferenceEgressGrant where
  suite : String
  judge : String
  grantedBy : String
  deriving DecidableEq

structure JudgeConfig where
  judge : String
  prompt : String
  rubric : String
  rubricDigest : String
  readsReference : Bool

inductive EvaluationKind where
  | outcome
  | judge (config : JudgeConfig)

structure EvaluationConfig where
  suite : String
  sampling : String
  success : Normalization
  kind : EvaluationKind

/-- What execution needs beyond the subject. -/
structure WorkerConfig where
  evaluator : String
  evaluatorVersion : String
  config : EvaluationConfig
  disclosure : Disclosure
  grant : Option ReferenceEgressGrant := none
  seed : Option Int := none
  replicate : Option Nat := none

structure EvaluationExecutionSpec where
  evaluationFingerprint : String
  subjectDigest : String
  worker : WorkerConfig

structure HarnessRunEvidence where
  evidenceDigest : String
  suite : String
  sampling : String
  tokenCounter : String
  tokenBudget : Option Nat

/-- What an execution finds at the subject's location and in the benchmark source: the evidence,
why the suite or the evidence does not verify, the assigned tasks and the judge's answers. -/
structure Subject where
  evidence : Option HarnessRunEvidence
  suiteProblems : List String := []
  evidenceProblems : List String := []
  tasks : List Task
  judgeModel : Option String := none
  grants : List ReferenceEgressGrant := []
  ask : String → Except String Int := fun _ => .error ""

structure HarnessEvaluationReport (F : Type) where
  evaluator : String
  evaluatorVersion : String
  evaluationFingerprint : String
  evidenceDigest : String
  seed : Option Int
  replicate : Option Nat
  disclosure : Disclosure
  grant : Option ReferenceEgressGrant
  runValues : List (RunValue F)
  absences : List AbsenceCount
  withheld : List String
  tasks : List (TaskObservations F)
  spendLowerBound : Nat
  failure : Option String

structure JudgeExchange where
  taskId : String
  message : String
  reply : Option Int
  failure : Option String

structure RestrictedEvaluationReport (F : Type) where
  evaluationFingerprint : String
  evidenceDigest : String
  runValues : List (RunValue F)
  tasks : List (TaskObservations F)
  judge : List JudgeExchange

structure Measured (F : Type) where
  report : HarnessEvaluationReport F
  restricted : RestrictedEvaluationReport F
  released : List (RunValue F)

/-- An evaluation measures nothing, with every reason, or raises while it observes. -/
inductive EvaluationError where
  | refused (reasons : List String)
  | valueError

structure ProviderFeedback (F : Type) where
  evaluationFingerprint : String
  evidenceDigest : String
  runValues : List (RunValue F)
  withheld : List String
  tasks : List (TaskObservations F)

section Release

variable {F : Type}

def RunValue.label (value : RunValue F) : String :=
  value.metric.name ++ (match value.slice with
    | none => ""
    | some slice => "/" ++ slice)

/-- A slice is chosen by per-task success, and a reference-derived value over one task is its
score. -/
def RunValue.hidden (value : RunValue F) : Bool :=
  value.slice.isSome || (value.metric.referenceDerived && value.sampleCount = 1)

/-- `_provider_values`: the run values that tell no task's score, and the names of the others. -/
def providerValues (values : List (RunValue F)) : List (RunValue F) × List String :=
  (values.filter fun value => !value.hidden, (values.filter RunValue.hidden).map RunValue.label)

/-- Run values that may be released. -/
def disclose (values : List (RunValue F)) : Disclosure → List (RunValue F) × List String
  | .perTask => (values, [])
  | .aggregate =>
      (values.filter fun value => !value.hidden, (values.filter RunValue.hidden).map RunValue.label)

def releasedTasks (observed : List (TaskObservations F)) :
    Disclosure → List (TaskObservations F)
  | .perTask => observed
  | .aggregate => observed.map fun task =>
      { task with observations :=
          task.observations.filter fun observation => !observation.metric.referenceDerived }

/-- The provider's view of a report. -/
def providerFeedback (report : HarnessEvaluationReport F) : ProviderFeedback F where
  evaluationFingerprint := report.evaluationFingerprint
  evidenceDigest := report.evidenceDigest
  runValues := (providerValues report.runValues).1
  withheld := (providerValues report.runValues).2
  tasks := releasedTasks report.tasks .aggregate

/-- Why the evaluation produced no result. -/
def failureOf (observed : List (TaskObservations F)) (values released : List (RunValue F)) :
    Option String :=
  if (observed.flatMap TaskObservations.observations).all fun observation =>
      !observation.metric.referenceDerived ||
        observation.reading.absent? = some .unscoredCancelled then
    some "every task was cancelled: no task has a scored outcome"
  else if values.isEmpty then
    some "every metric is absent on at least one task: there is no run value"
  else if released.isEmpty then some "every run value is withheld by the disclosure policy"
  else none

end Release

/-! ## Refusals -/

/-- Execution's own check of the prepared grant. -/
def grantRefusals (config : EvaluationConfig) (grant : Option ReferenceEgressGrant)
    (grants : List ReferenceEgressGrant) : List String :=
  let sends := match config.kind with
    | .outcome => none
    | .judge judge => if judge.readsReference then some judge else none
  match sends, grant with
  | none, none => []
  | none, some _ =>
      ["the execution carries a grant for an evaluation that sends no reference"]
  | some _, none =>
      ["reference_access is 'reference' and the execution carries no ReferenceEgressGrant; nothing is sent"]
  | some judge, some grant =>
      (if grant.suite = config.suite ∧ grant.judge = judge.judge then [] else
        ["the execution's ReferenceEgressGrant does not name this suite and this pinned judge model; nothing is sent"]) ++
      (if grants.contains grant then [] else
        ["the execution's ReferenceEgressGrant is not one the host supplied; nothing is sent"])

def judgeRefusals (config : JudgeConfig) (model : Option String) : List String :=
  match model with
  | none => ["a judge evaluation needs a judge model"]
  | some model =>
      if model = config.judge then []
      else ["the judge model offered is not the one the config pins; nothing is sent"]

/-- Every reason the subject is not what the execution measures. -/
def subjectRefusals (execution : EvaluationExecutionSpec) (subject : Subject)
    (evidence : HarnessRunEvidence) : List String :=
  (if evidence.evidenceDigest ≠ execution.subjectDigest then
      ["the published evidence is not the subject's digest"] else []) ++
    (if evidence.suite ≠ execution.worker.config.suite ∨
        evidence.sampling ≠ execution.worker.config.sampling then
      ["the evidence ran another suite or sampling than this evaluation measures"] else []) ++
    subject.evidenceProblems ++
    (match execution.worker.config.kind with
      | .outcome => []
      | .judge judge => judgeRefusals judge subject.judgeModel)

/-! ## Execution -/

section Execution

variable {F : Type} [DecidableEq F] (floats : Floats F) (text : TextMethods)

/-- What an outcome evaluation observes of one task. -/
def observeOutcome (rule : Normalization) (tokenBudget : Option Nat) (task : Task) :
    Option (TaskObservations F) := do
  let success ← successObservation floats text rule task
  pure ⟨task.taskId, task.position, success :: executionObservations floats task tokenBudget⟩

/-- `quality` for one task, asking the judge only about an attested answer. -/
def judgeTask (config : JudgeConfig) (ask : String → Except String Int) (task : Task) :
    TaskObservations F × Option JudgeExchange :=
  let absent := fun reason : AbsenceReason =>
    (⟨task.taskId, task.position, [⟨.quality, .absent reason⟩]⟩, none)
  match task.result with
  | none => absent .noAttestedResult
  | some result =>
      if result.termination = .cancelled then absent .unscoredCancelled
      else match result.termination.completion, result.answer with
        | true, some answer =>
            let sections := ["Task inputs:\n" ++ task.taskInputs, "Answer:\n" ++ answer,
              "Rubric:\n" ++ config.rubric] ++
              (match config.readsReference, task.reference with
                | true, some reference => ["Reference answer:\n" ++ reference]
                | _, _ => [])
            let message := "\n\n".intercalate sections
            match ask message with
            | .error failure =>
                (⟨task.taskId, task.position, [⟨.quality, .absent .judgeFailed⟩]⟩,
                  some ⟨task.taskId, message, none, some failure⟩)
            | .ok score =>
                (⟨task.taskId, task.position, [⟨.quality, .value (floats.ofInt score)⟩]⟩,
                  some ⟨task.taskId, message, some score, none⟩)
        | _, _ => absent .notApplicable

/-- Every task's observations, the judge's exchanges and the known spend. -/
def observeAll (worker : WorkerConfig) (evidence : HarnessRunEvidence) (subject : Subject) :
    Option (List (TaskObservations F) × List JudgeExchange × Nat) :=
  match worker.config.kind with
  | .outcome => do
      let observed ← subject.tasks.mapM
        (observeOutcome floats text worker.config.success evidence.tokenBudget)
      pure (observed, [], (subject.tasks.map spentTokens).sum)
  | .judge config =>
      let judged := subject.tasks.map (judgeTask floats config subject.ask)
      some (judged.map Prod.fst, judged.filterMap Prod.snd, 0)

def metricsOf : EvaluationKind → List Metric
  | .outcome => .taskSuccess :: executionMetrics
  | .judge _ => [.quality]

def unitOf (tokenCounter : String) : EvaluationKind → Metric → String
  | .outcome => Metric.unit tokenCounter none
  | .judge config => Metric.unit tokenCounter (some config.rubricDigest)

/-- The reports on what was observed. -/
def measure (execution : EvaluationExecutionSpec) (evidence : HarnessRunEvidence)
    (observed : List (TaskObservations F)) (exchanges : List JudgeExchange) (spend : Nat) :
    Measured F :=
  let worker := execution.worker
  let run := aggregateRun floats (unitOf evidence.tokenCounter worker.config.kind) observed
    (metricsOf worker.config.kind)
  let disclosed := disclose run.1 worker.disclosure
  let failure := failureOf observed run.1 disclosed.1
  { report :=
      { evaluator := worker.evaluator, evaluatorVersion := worker.evaluatorVersion
        evaluationFingerprint := execution.evaluationFingerprint
        evidenceDigest := evidence.evidenceDigest, seed := worker.seed
        replicate := worker.replicate, disclosure := worker.disclosure, grant := worker.grant
        runValues := disclosed.1, absences := run.2, withheld := disclosed.2
        tasks := releasedTasks observed worker.disclosure, spendLowerBound := spend
        failure := failure }
    restricted :=
      { evaluationFingerprint := execution.evaluationFingerprint
        evidenceDigest := evidence.evidenceDigest, runValues := run.1, tasks := observed
        judge := exchanges }
    released := if failure.isNone then disclosed.1 else [] }

/-- Measure the subject an execution names, after verifying it. -/
def executeHarnessEvaluation (execution : EvaluationExecutionSpec) (subject : Subject) :
    Except EvaluationError (Measured F) :=
  let refused := grantRefusals execution.worker.config execution.worker.grant subject.grants
  if !refused.isEmpty then .error (.refused refused)
  else match subject.evidence with
    | none => .error (.refused ["the subject's evidence cannot be read"])
    | some evidence =>
        if !subject.suiteProblems.isEmpty then
          .error (.refused (subject.suiteProblems.map fun reason => "suite: " ++ reason))
        else
          let reasons := subjectRefusals execution subject evidence
          if !reasons.isEmpty then .error (.refused reasons.eraseDups)
          else match observeAll floats text execution.worker evidence subject with
            | none => .error .valueError
            | some (observed, exchanges, spend) =>
                .ok (measure floats execution evidence observed exchanges spend)

end Execution

end Xaytune.Evaluation
