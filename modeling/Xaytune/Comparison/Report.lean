import Mathlib.Data.Prod.Lex
import Xaytune.Comparison.Assignment
import Xaytune.Library.Insertions
import Xaytune.Library.Samples

/-!
# Comparing two harness candidates

Each candidate's replicates are summarized metric by metric; two candidates are compared under a
declared rule only where they are comparable at all. A verdict is an exploratory decision rule:
it says which way the evidence points, and by how much it has to point there.
-/

namespace Xaytune.Comparison

open Xaytune.Library

variable {J E K : Type}

/-! ## Sets -/

/-- The only member of a set, where it has one. -/
def sole? {α : Type} [DecidableEq α] (items : List α) : Option α :=
  match items.dedup with
  | [item] => some item
  | _ => none

-- names and seeds are sorted by these
instance trans_text : IsTrans String (· ≤ ·) := inferInstance

instance antisymm_text : Std.Antisymm (fun text other : String => text ≤ other) := inferInstance

instance trans_seed : IsTrans Int (· ≤ ·) := inferInstance

instance antisymm_seed : Std.Antisymm (fun seed other : Int => seed ≤ other) := inferInstance

/-! ## Inputs -/

structure ExecutionFacets where
  runnerName : String
  runnerVersion : String
  compilerName : String
  compilerVersion : String
  tokenCounter : String
  entrypoint : String
  container : String
  dependencies : String
  resources : String
  recording : String
  timingEnvironment : Option String

/-- One execution replicate's evidence; of its entries only the number is read. -/
structure HarnessRunEvidence where
  sampling : TaskSampling
  assignment : TaskAssignment
  seed : Int
  replicate : Nat
  facets : ExecutionFacets
  entryCount : Nat
  evidenceDigest : String

/-- One measured value; `unit` is the text of its metadata's unit. -/
structure MetricResult (K : Type) where
  name : String
  slice : Option String
  value : K
  unit : String

structure EvaluationResult (K : Type) where
  id : String
  subjectDigest : String
  evaluationFingerprint : String
  metrics : List (MetricResult K)

/-- A value, or none where the metric is absent. -/
structure MetricObservation (K : Type) where
  metric : String
  value : Option K

structure TaskObservations (K : Type) where
  taskId : String
  observations : List (MetricObservation K)

def TaskObservations.get (task : TaskObservations K) (metric : String) :
    Option (MetricObservation K) :=
  task.observations.find? fun observation => observation.metric = metric

structure RestrictedEvaluationReport (K : Type) where
  tasks : List (TaskObservations K)

structure ReplicateRuns (K : Type) where
  evidence : HarnessRunEvidence
  results : List (EvaluationResult K)
  restricted : List (RestrictedEvaluationReport K)

inductive EvaluatorDeterminism where
  | deterministic | seeded | stochastic
  deriving DecidableEq

structure EvaluatorSpec (J : Type) where
  name : String
  version : Option String
  determinism : Option EvaluatorDeterminism
  config : J

structure EvaluationSpec (J : Type) where
  evaluator : EvaluatorSpec J
  dataset : Option J
  slices : List String

structure CandidateRuns (J K : Type) where
  evaluations : List (EvaluationSpec J)
  replicates : List (ReplicateRuns K)
  evaluated : evaluations ≠ []
  replicated : replicates ≠ []

def CandidateRuns.seeds (candidate : CandidateRuns J K) : List Int :=
  candidate.replicates.map fun replicate => replicate.evidence.seed

/-- What a request is pinned to, or the request itself. -/
inductive SuiteChoice where
  | ref (pinned : BenchmarkSuiteRef)
  | request (suiteId revision : String)

structure HarnessEvaluationConfig where
  suite : SuiteChoice
  sampling : TaskSampling

/-- `evaluation_identity_v1` -/
structure EvaluationIdentity (J : Type) where
  name : String
  version : Option String
  config : J
  dataset : Option J
  slices : List String

/-! ## Summaries -/

inductive Summarized (K : Type) where
  | absent (reason : String)
  | present (unit : String) (estimate : K)
      (executionStandardError judgeStandardDeviation : Option K)
      (tasks : Nat) (values : List K)

/-- A summary has an estimate or an absence reason, never both. -/
structure MetricSummary (K : Type) where
  metric : String
  slice : Option String
  replicates : Nat
  judgingRuns : Nat
  summarized : Summarized K

structure HarnessSummary (K : Type) where
  evaluationFingerprint : String
  seeds : List Int
  metrics : List (MetricSummary K)

def HarnessSummary.get (summary : HarnessSummary K) (metric : String) (slice : Option String) :
    Option (MetricSummary K) :=
  summary.metrics.find? fun found => (found.metric, found.slice) = (metric, slice)

/-! ## The report -/

inductive Verdict where
  | favorsA | favorsB | inconclusive | notComparable
  deriving DecidableEq

inductive Relation where
  | favorsA | favorsB | tradeOff | inconclusive | notComparable

structure Comparability where
  comparable : Bool
  reasons : List String
  comparisonKey : Option String
  timingEnvironment : Option String

/-- What the comparison key is a digest of. -/
structure ComparisonIdentity where
  cohort : String
  evaluationFingerprints : List String
  facets : List (String × String)
  timingEnvironment : Option String
  seeds : List Int
  rule : String

inductive Direction where
  | maximize | minimize

structure ObjectiveMetric (K : Type) [LE K] [Zero K] where
  metric : String
  slice : Option String
  direction : Direction
  minEffect : {effect : K // 0 ≤ effect}

structure ComparisonSpec (K : Type) [LE K] [LT K] [Zero K] where
  objectives : List (ObjectiveMetric K)
  k : {threshold : K // 0 < threshold}
  objected : objectives ≠ []
  eachOnce : (objectives.map fun objective => (objective.metric, objective.slice)).Nodup

structure TaskOutcomeCounts where
  wins : Nat
  losses : Nat
  ties : Nat
  unscored : Nat

structure MetricComparison (K : Type) where
  metric : String
  slice : Option String
  direction : Direction
  minEffect : K
  verdict : Verdict
  a : Option (MetricSummary K)
  b : Option (MetricSummary K)
  differences : List K
  meanDifference : Option K
  standardError : Option K
  threshold : Option K
  reasons : List String

structure CandidateRecord where
  evidenceDigests : List String
  resultIds : List String

structure HarnessComparisonBody (K : Type) where
  rule : String
  k : K
  replicates : Nat
  seeds : List Int
  a : CandidateRecord
  b : CandidateRecord
  comparability : Comparability
  metrics : List (MetricComparison K)
  relation : Relation
  taskSuccess : Option TaskOutcomeCounts
  notes : List String

structure HarnessComparisonReport (K : Type) extends HarnessComparisonBody K where
  reportFingerprint : String

/-- What a comparison calls outside: the typed configuration model, the digests of the canonical
encoder, and the square root. -/
structure Outside (J E K : Type) extends BenchmarkHashing where
  parseEvaluationConfig : J → Except E HarnessEvaluationConfig
  evaluation : EvaluationIdentity J → String
  comparison : ComparisonIdentity → String
  report : HarnessComparisonBody K → String
  sqrt : K → K

inductive CompareError (E : Type) where
  | invalidConfig (error : E)
  | summaryRefused (reasons : List String)
  | emptySet
  | noValueAt (seed : Int)

def EvaluationSpec.evaluationFingerprint (outside : Outside J E K) (spec : EvaluationSpec J) :
    String :=
  outside.evaluation
    ⟨spec.evaluator.name, spec.evaluator.version, spec.evaluator.config, spec.dataset, spec.slices⟩

/-! ## Summarizing -/

def orderKey (evidence : HarnessRunEvidence) : Int ×ₗ Nat :=
  toLex (evidence.seed, evidence.replicate)

def ordered (replicates : List (ReplicateRuns K)) : List (ReplicateRuns K) :=
  replicates.insertionSort fun replicate replicate' =>
    orderKey replicate.evidence ≤ orderKey replicate'.evidence

def metricOf (result : EvaluationResult K) (key : String × Option String) :
    Option (MetricResult K) :=
  result.metrics.find? fun metric => (metric.name, metric.slice) = key

def runsOf (fingerprint : String) (replicate : ReplicateRuns K) : List (EvaluationResult K) :=
  replicate.results.filter fun result => result.evaluationFingerprint = fingerprint

/-- Every metric some run reports, in the order of names and slices. -/
def metricKeys (runs : List (List (EvaluationResult K))) : List (String × Option String) :=
  (runs.flatten.flatMap fun result =>
    result.metrics.map fun metric => (metric.name, metric.slice)).dedup.insertionSort
      fun key key' => toLex (key.1, key.2.getD "") ≤ toLex (key'.1, key'.2.getD "")

def valuesOf (key : String × Option String) (results : List (EvaluationResult K)) : List K :=
  results.filterMap fun result => (metricOf result key).map MetricResult.value

def unitsOf (key : String × Option String) (results : List (EvaluationResult K)) : List String :=
  results.filterMap fun result => (metricOf result key).map MetricResult.unit

variable [Field K]

def summarizeMetric (outside : Outside J E K) (tasks : Option Nat) (judging : Nat)
    (runs : List (List (EvaluationResult K))) (key : String × Option String) : MetricSummary K where
  metric := key.1
  slice := key.2
  replicates := runs.length
  judgingRuns := judging
  summarized :=
    match tasks with
    | none => .absent "unbalanced: replicates ran different task counts"
    | some tasks =>
        if runs.flatten.any fun result => (metricOf result key).isNone then
          .absent "unbalanced: some run has no value for this metric"
        else
          let perReplicate := runs.map (valuesOf key)
          match sole? (unitsOf key runs.flatten) with
          | none => .absent "the runs report different units"
          | some unit =>
              let values := perReplicate.map mean
              .present unit (mean values)
                (if 2 ≤ values.length then
                  some (outside.sqrt (variance values) / outside.sqrt values.length) else none)
                (if 2 ≤ judging then
                  some (outside.sqrt ((perReplicate.map variance).sum / perReplicate.length))
                  else none)
                tasks values

/-- Why replicates with these seeds and numbers of runs are not one balanced design. -/
def refusals (seeds : List Int) (counts : List Nat) : List String :=
  (if seeds.toFinset.card ≠ seeds.length then
    ["a seed has more than one execution replicate"] else []) ++
  (if 0 ∈ counts then
    ["an execution replicate has no evaluation under this fingerprint"] else []) ++
  if 1 < counts.toFinset.card then
    ["judging is unbalanced: execution replicates have different numbers of judging runs"] else []

def summarize (outside : Outside J E K) (replicates : List (ReplicateRuns K))
    (fingerprint : String) : Except (CompareError E) (HarnessSummary K) :=
  let ordered := ordered replicates
  let seeds := ordered.map fun replicate => replicate.evidence.seed
  let runs := ordered.map (runsOf fingerprint)
  let counts := runs.map List.length
  let reasons := refusals seeds counts
  if reasons ≠ [] then .error (.summaryRefused reasons)
  else
    match sole? counts with
    | none => .error .emptySet
    | some judging =>
        let tasks := sole? (ordered.map fun replicate => replicate.evidence.entryCount)
        .ok ⟨fingerprint, seeds, (metricKeys runs).map (summarizeMetric outside tasks judging runs)⟩

variable [LinearOrder K]

/-! ## Comparability -/

/-- Every facet but the timing label, in the order of the names. -/
def facetsOf (facets : ExecutionFacets) : List (String × String) :=
  [("compiler_name", facets.compilerName), ("compiler_version", facets.compilerVersion),
    ("container", facets.container), ("dependencies", facets.dependencies),
    ("entrypoint", facets.entrypoint), ("recording", facets.recording),
    ("resources", facets.resources), ("runner_name", facets.runnerName),
    ("runner_version", facets.runnerVersion), ("token_counter", facets.tokenCounter)]

/-- A side's replicates or specs, under the letter the reasons name it by. -/
def sides {α : Type} (a b : List α) : List (String × α) :=
  a.map (Prod.mk "A") ++ b.map (Prod.mk "B")

section Conditions

variable (outside : Outside J E K) (a b : CandidateRuns J K)

def cohorts : Finset String :=
  ((a.replicates ++ b.replicates).map fun r => r.evidence.assignment.cohort).toFinset

def measuredSuite (cohorts : Finset String) (side : String) (spec : EvaluationSpec J) :
    Except E (List String) := do
  let config ← outside.parseEvaluationConfig spec.evaluator.config
  match config.suite with
  | .request _ _ =>
      return ["C1: " ++ side ++ "'s " ++ spec.evaluator.name ++ " names an unpinned suite"]
  | .ref pinned =>
      if cohorts.card = 1 ∧
          benchmarkCohort outside.toBenchmarkHashing pinned config.sampling ∉ cohorts then
        return ["C1: " ++ side ++ "'s " ++ spec.evaluator.name ++
          " measures another suite or sampling"]
      else return []

/-- C1: the same benchmark. -/
def sameBenchmark : Except E (List String) := do
  let measured ← (sides a.evaluations b.evaluations).mapM fun sided =>
    measuredSuite outside (cohorts a b) sided.1 sided.2
  return (if (cohorts a b).card ≠ 1 then ["C1: the replicates ran different benchmark cohorts"]
    else []) ++ measured.flatten

def repeatedSeed (side : String) (seeds : List Int) : List String :=
  if seeds.toFinset.card ≠ seeds.length then
    ["C2: " ++ side ++ " has more than one execution replicate at a seed"] else []

def unverified (suite : ResolvedBenchmarkSuite) (side : String) (replicate : ReplicateRuns K) :
    List String :=
  if verifyAssignment outside.toBenchmarkHashing suite replicate.evidence.sampling
      replicate.evidence.assignment ≠ [] then
    ["C2: " ++ side ++ "'s assignment at seed " ++ toString replicate.evidence.seed ++
      " does not verify"] else []

def unmatched (replicate : ReplicateRuns K) : List String :=
  let bySeed := b.replicates.map fun r => (r.evidence.seed, r.evidence)
  match lastOf replicate.evidence.seed bySeed with
  | none => []
  | some other =>
      (assignmentMismatches replicate.evidence.assignment other.assignment).map fun mismatch =>
        "C2: at seed " ++ toString replicate.evidence.seed ++ ": " ++ mismatch

/-- C2: matched assignments, paired by seed. -/
def matchedAssignments (suite : ResolvedBenchmarkSuite) : List String :=
  repeatedSeed "A" a.seeds ++ repeatedSeed "B" b.seeds ++
  ((a.seeds.toFinset \ b.seeds.toFinset).sort.map fun seed =>
    "C2: B has no replicate at seed " ++ toString seed) ++
  ((b.seeds.toFinset \ a.seeds.toFinset).sort.map fun seed =>
    "C2: A has no replicate at seed " ++ toString seed) ++
  ((sides a.replicates b.replicates).flatMap fun sided =>
    unverified outside suite sided.1 sided.2) ++
  a.replicates.flatMap (unmatched b)

def evaluators (candidate : CandidateRuns J K) : Finset String :=
  (candidate.evaluations.map fun spec => spec.evaluator.name).toFinset

/-- A candidate's specs of one evaluator. -/
def specsOf (candidate : CandidateRuns J K) (name : String) : List (EvaluationSpec J) :=
  candidate.evaluations.filter fun spec => spec.evaluator.name = name

def differentScoring (name : String) : List String :=
  let printsA := ((specsOf a name).map (·.evaluationFingerprint outside)).toFinset
  let printsB := ((specsOf b name).map (·.evaluationFingerprint outside)).toFinset
  let determinism := ((specsOf a name ++ specsOf b name).map (·.evaluator.determinism)).toFinset
  (if printsA.card ≠ 1 ∨ printsB.card ≠ 1 ∨ printsA ≠ printsB then
    ["C3: " ++ name ++ " has different evaluation fingerprints"] else []) ++
  if determinism.card ≠ 1 then ["C3: " ++ name ++ " declares different determinism"] else []

def declared : Finset String :=
  ((a.evaluations ++ b.evaluations).map (·.evaluationFingerprint outside)).toFinset

def undeclared (declared : Finset String) (side digest : String) (result : EvaluationResult K) :
    List String :=
  (if result.evaluationFingerprint ∉ declared then
    ["C3: a result of " ++ side ++ " has an undeclared evaluation"] else []) ++
  if result.subjectDigest ≠ digest then
    ["C3: a result of " ++ side ++ " measured another subject"] else []

/-- C3: the same scoring and units. -/
def sameScoring : List String :=
  (if evaluators a ≠ evaluators b then
    ["C3: the candidates were measured by different evaluators"] else []) ++
  ((evaluators a ∩ evaluators b).sort.flatMap (differentScoring outside a b)) ++
  (sides a.replicates b.replicates).flatMap fun sided =>
    sided.2.results.flatMap
      (undeclared (declared outside a b) sided.1 sided.2.evidence.evidenceDigest)

def differentFacet (name : String) : List String :=
  if 1 < ((a.replicates ++ b.replicates).map fun r =>
      (facetsOf r.evidence.facets).lookup name).toFinset.card then
    ["C4: the facet " ++ name ++ " differs across runs"] else []

/-- C4: compatible execution conditions, declared and never inferred. -/
def sameConditions : List String :=
  match a.replicates ++ b.replicates with
  | [] => []
  | first :: _ => ((facetsOf first.evidence.facets).map Prod.fst).flatMap (differentFacet a b)

def comparability (suite : ResolvedBenchmarkSuite) (rule : String) : Except E Comparability := do
  let c1 ← sameBenchmark outside a b
  let reasons := (c1 ++ matchedAssignments outside a b suite ++ sameScoring outside a b ++
    sameConditions a b).eraseDups
  let both := a.replicates ++ b.replicates
  let timing := (sole? (both.map fun r => r.evidence.facets.timingEnvironment)).join
  if reasons ≠ [] then return ⟨false, reasons, none, timing⟩
  else
    let key := outside.comparison {
      cohort := (sole? (both.map fun r => r.evidence.assignment.cohort)).getD ""
      evaluationFingerprints := (declared outside a b).sort
      facets := (both.head?.map fun r => facetsOf r.evidence.facets).getD []
      timingEnvironment := timing
      seeds := a.seeds.insertionSort (· ≤ ·)
      rule := rule }
    return ⟨true, [], some key, timing⟩

end Conditions

/-! ## Comparing -/

def pairedDifference : String := "paired-difference/v1"

def timeMetrics : List String := ["model_latency_ms", "elapsed_ms"]

def minReplicates : Nat := 3

def find (summaries : List (HarnessSummary K)) (metric : String) (slice : Option String) :
    Option (MetricSummary K) :=
  summaries.findSome? fun summary => summary.get metric slice

/-- The unit and the values of a metric that is present on a side. -/
def presentOf (summary : Option (MetricSummary K)) : Option (String × List K) :=
  match summary.map MetricSummary.summarized with
  | some (.present unit _ _ _ _ values) => some (unit, values)
  | _ => none

def valuesBySeed (candidate : CandidateRuns J K) (values : List K) : List (Int × K) :=
  (candidate.seeds.insertionSort (· ≤ ·)).zip values

def Direction.sign : Direction → K
  | .maximize => 1
  | .minimize => -1

/-- Oriented so that positive favors A. -/
def differenceAt (direction : Direction) (va vb : List (Int × K)) (seed : Int) :
    Except (CompareError E) K :=
  match lastOf seed va, lastOf seed vb with
  | some x, some y => .ok (direction.sign * (x - y))
  | _, _ => .error (.noValueAt seed)

def seedsOf (values : List (Int × K)) : Finset Int := (values.map Prod.fst).toFinset

def judged (mean threshold : K) : Verdict :=
  if threshold < mean then .favorsA else if threshold < -mean then .favorsB else .inconclusive

/-- A comparison that goes no further than its verdict. -/
def undecided (objective : ObjectiveMetric K) (sa sb : Option (MetricSummary K)) (verdict : Verdict)
    (reason : String) : MetricComparison K where
  metric := objective.metric
  slice := objective.slice
  direction := objective.direction
  minEffect := objective.minEffect
  verdict := verdict
  a := sa
  b := sb
  differences := []
  meanDifference := none
  standardError := none
  threshold := none
  reasons := [reason]

/-- Which way the paired differences point, and whether by enough. -/
def weigh (outside : Outside J E K) (objective : ObjectiveMetric K)
    (sa sb : Option (MetricSummary K)) (k : K) (differences : List K) : MetricComparison K :=
  let r := differences.length
  let mean := mean differences
  let se := if 2 ≤ r then some (outside.sqrt (variance differences) / outside.sqrt r) else none
  let few := { undecided objective sa sb .inconclusive ("R = " ++ toString r ++ ": at least " ++
      toString minReplicates ++ " replicates give a direction") with
    differences := differences
    meanDifference := some mean
    standardError := se }
  match se with
  | none => few
  | some error =>
      if r < minReplicates then few
      else
        let threshold := max objective.minEffect.val (k * error)
        { few with verdict := judged mean threshold, threshold := some threshold, reasons := [] }

def verdict (outside : Outside J E K) (objective : ObjectiveMetric K) (a b : CandidateRuns J K)
    (sa sb : Option (MetricSummary K)) (k : K) (comparable : Comparability) :
    Except (CompareError E) (MetricComparison K) :=
  let notComparable (reason : String) := undecided objective sa sb .notComparable reason
  if comparable.comparable = false then .ok (notComparable "the pair fails C1-C4")
  else if objective.metric ∈ timeMetrics ∧ comparable.timingEnvironment = none then
    .ok (notComparable "time is compared only under one declared timing environment")
  else
    match presentOf sa, presentOf sb with
    | some presentA, some presentB =>
        if presentA.1 ≠ presentB.1 then .ok (notComparable "the sides report different units")
        else do
          let va := valuesBySeed a presentA.2
          let vb := valuesBySeed b presentB.2
          let differences ← (seedsOf va).sort.mapM (differenceAt objective.direction va vb)
          return weigh outside objective sa sb k differences
    | _, _ => .ok (notComparable "the metric is absent on a side")

def relation (verdicts : List Verdict) (comparable : Bool) : Relation :=
  if comparable = false ∨ .notComparable ∈ verdicts then .notComparable
  else if .favorsA ∈ verdicts ∧ .favorsB ∈ verdicts then .tradeOff
  else if .favorsA ∈ verdicts then .favorsA
  else if .favorsB ∈ verdicts then .favorsB
  else .inconclusive

/-- The scores one replicate inserts, report by report and task by task. -/
def scoresOf (replicate : ReplicateRuns K) : List ((Int × String) × Option K) :=
  replicate.restricted.flatMap fun report =>
    report.tasks.filterMap fun task =>
      (task.get "task_success").map fun observation =>
        ((replicate.evidence.seed, task.taskId), observation.value)

def scores (candidate : CandidateRuns J K) : List ((Int × String) × Option K) :=
  candidate.replicates.flatMap scoresOf

inductive Outcome where
  | win | loss | tie | unscored
  deriving DecidableEq

def outcome (left right : List ((Int × String) × Option K)) (key : Int × String) : Outcome :=
  match (lastOf key left).join, (lastOf key right).join with
  | some x, some y => if y < x then .win else if x < y then .loss else .tie
  | _, _ => .unscored

/-- On how many seeds and tasks of either side the outcome is of a kind. -/
def countOf (left right : List ((Int × String) × Option K)) (kind : Outcome) : Nat :=
  (((left ++ right).map Prod.fst).toFinset.filter fun key => outcome left right key = kind).card

def taskOutcomes (a b : CandidateRuns J K) : Option TaskOutcomeCounts :=
  let left := scores a
  let right := scores b
  if left.isEmpty ∨ right.isEmpty then none
  else some ⟨countOf left right .win, countOf left right .loss, countOf left right .tie,
    countOf left right .unscored⟩

def recordOf (candidate : CandidateRuns J K) : CandidateRecord :=
  let ordered := candidate.replicates.insertionSort fun r r' => r.evidence.seed ≤ r'.evidence.seed
  ⟨ordered.map fun r => r.evidence.evidenceDigest,
    ordered.flatMap fun r => r.results.map EvaluationResult.id⟩

def summaries (outside : Outside J E K) (candidate : CandidateRuns J K) :
    Except (CompareError E) (List (HarnessSummary K)) :=
  candidate.evaluations.mapM fun spec =>
    summarize outside candidate.replicates (spec.evaluationFingerprint outside)

def compare (outside : Outside J E K) (a b : CandidateRuns J K) (spec : ComparisonSpec K)
    (suite : ResolvedBenchmarkSuite) (notes : List String) :
    Except (CompareError E) (HarnessComparisonReport K) := do
  let comparable ← (comparability outside a b suite pairedDifference).mapError .invalidConfig
  let summariesA ← summaries outside a
  let summariesB ← summaries outside b
  let metrics ← spec.objectives.mapM fun objective =>
    verdict outside objective a b (find summariesA objective.metric objective.slice)
      (find summariesB objective.metric objective.slice) spec.k.val comparable
  let body : HarnessComparisonBody K := {
    rule := pairedDifference
    k := spec.k.val
    replicates := a.replicates.length
    seeds := a.seeds.insertionSort (· ≤ ·)
    a := recordOf a
    b := recordOf b
    comparability := comparable
    metrics := metrics
    relation := relation (metrics.map MetricComparison.verdict) comparable.comparable
    taskSuccess := taskOutcomes a b
    notes := notes }
  return { body with reportFingerprint := outside.report body }

end Xaytune.Comparison
