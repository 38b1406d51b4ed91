import Xaytune.Comparison.Mirror

/-!
# Comparison is antisymmetric and free of order

What `compare` returns is read off both candidates alike: the other way round it is mirrored, and
for shuffled candidates it is the same. It does not return where a configuration is not one of a
harness evaluation, or where a design is not balanced.
-/

namespace Xaytune.Comparison

open Xaytune.Library

variable {J E K : Type} {outside : Outside J E K} {suite : ResolvedBenchmarkSuite}
  {a a' b b' : CandidateRuns J K}

/-! ## Exchanged candidates -/

theorem sort_perm {seeds seeds' : List Int} (order : seeds.Perm seeds') :
    seeds.insertionSort (· ≤ ·) = seeds'.insertionSort (· ≤ ·) := by
  have perm := (List.perm_insertionSort (· ≤ ·) seeds).trans
    (order.trans (List.perm_insertionSort (· ≤ ·) seeds').symm)
  exact perm.eq_of_pairwise' (List.pairwise_insertionSort _ _) (List.pairwise_insertionSort _ _)

theorem timingOf_swap : timingOf b a = timingOf a b := by
  unfold timingOf replicatesOf
  rw [List.map_append, List.map_append, sole?_congr toFinset_append_comm]

theorem head_facets (comparable : Comparable outside suite a b) {replicate : ReplicateRuns K}
    (isOne : replicate ∈ replicatesOf a b) :
    ((replicatesOf a b).head?.map fun r => facetsOf r.evidence.facets).getD [] =
      facetsOf replicate.evidence.facets := by
  cases both : replicatesOf a b with
  | nil =>
      rw [both] at isOne
      cases isOne
  | cons first rest =>
      apply comparable.facets first _ replicate isOne
      rw [both]
      exact List.mem_cons_self

theorem exists_replicate (a b : CandidateRuns J K) : ∃ replicate, replicate ∈ a.replicates ∧
    replicate ∈ replicatesOf a b ∧ replicate ∈ replicatesOf b a := by
  obtain ⟨replicate, isOne⟩ := List.exists_mem_of_ne_nil _ a.replicated
  exact ⟨replicate, isOne, List.mem_append_left _ isOne, List.mem_append_right _ isOne⟩

theorem identityOf_swap (comparable : Comparable outside suite a b) (rule : String) :
    identityOf outside b a rule = identityOf outside a b rule := by
  obtain ⟨replicate, _, inBoth, inBoth'⟩ := exists_replicate a b
  have cohort : sole? ((replicatesOf b a).map fun r => r.evidence.assignment.cohort) =
      sole? ((replicatesOf a b).map fun r => r.evidence.assignment.cohort) := by
    unfold replicatesOf
    rw [List.map_append, List.map_append, sole?_congr toFinset_append_comm]
  have seeds : b.seeds.Perm a.seeds :=
    List.perm_of_nodup_nodup_toFinset_eq comparable.once.2 comparable.once.1 comparable.paired.symm
  unfold identityOf
  rw [cohort, declared_comm, head_facets comparable inBoth, head_facets comparable.symm inBoth',
    timingOf_swap, sort_perm seeds]

theorem Finds.swap {rule : String} {found found' : Comparability}
    (finds : Finds outside suite a b rule found) (finds' : Finds outside suite b a rule found') :
    found'.comparable = found.comparable ∧ found'.comparisonKey = found.comparisonKey ∧
      found'.timingEnvironment = found.timingEnvironment := by
  have same : found'.comparable = found.comparable := by
    rw [Bool.eq_iff_iff, finds.iff, finds'.iff]
    exact ⟨Comparable.symm, Comparable.symm⟩
  refine ⟨same, ?_, ?_⟩
  · rw [finds.key, finds'.key, same]
    by_cases comparable : found.comparable = true
    · rw [identityOf_swap (finds.iff.mp comparable)]
    · rw [if_neg comparable, if_neg comparable]
  · rw [finds.timing, finds'.timing, timingOf_swap]

/-! ## Shuffled candidates -/

theorem ShuffledReplicates.append {first first' second second' : List (ReplicateRuns K)}
    (left : ShuffledReplicates first first') (right : ShuffledReplicates second second') :
    ShuffledReplicates (first ++ second) (first' ++ second') := by
  obtain ⟨arranged, order, each⟩ := left
  obtain ⟨arranged', order', each'⟩ := right
  exact ⟨arranged ++ arranged', order.append order', List.rel_append each each'⟩

theorem Shuffled.symm (shuffled : Shuffled a a') : Shuffled a' a :=
  ⟨shuffled.evaluations.symm, shuffled.replicates.symm⟩

theorem Shuffled.both (shuffled : Shuffled a a') (shuffled' : Shuffled b b') :
    ShuffledReplicates (replicatesOf a b) (replicatesOf a' b') :=
  shuffled.replicates.append shuffled'.replicates

theorem cohorts_shuffled (shuffled : Shuffled a a') (shuffled' : Shuffled b b') :
    cohorts a b = cohorts a' b' :=
  List.toFinset_eq_of_perm _ _ ((shuffled.both shuffled').map_perm _
    fun replicate replicate' alike => by rw [alike.evidence])

theorem evaluationsOf_shuffled (shuffled : Shuffled a a') (shuffled' : Shuffled b b') :
    evaluationsOf a b = evaluationsOf a' b' := by
  unfold evaluationsOf
  rw [shuffled.evaluations, shuffled'.evaluations]

theorem declared_shuffled (shuffled : Shuffled a a') (shuffled' : Shuffled b b') :
    declared outside a b = declared outside a' b' := by
  unfold declared
  rw [shuffled.evaluations, shuffled'.evaluations]

theorem timingOf_shuffled (shuffled : Shuffled a a') (shuffled' : Shuffled b b') :
    timingOf a b = timingOf a' b' := by
  have labels := (shuffled.both shuffled').map_perm (fun r => r.evidence.facets.timingEnvironment)
    fun replicate replicate' alike => by rw [alike.evidence]
  unfold timingOf
  rw [sole?_congr (List.toFinset_eq_of_perm _ _ labels)]

theorem Comparable.shuffled (comparable : Comparable outside suite a b)
    (shuffled : Shuffled a a') (shuffled' : Shuffled b b') : Comparable outside suite a' b' := by
  have back : ∀ replicate' ∈ replicatesOf a' b', ∃ replicate ∈ replicatesOf a b,
      Alike replicate' replicate :=
    fun replicate' isOne => (shuffled.both shuffled').symm.exists_alike isOne
  have seeds : a.seeds.Perm a'.seeds := shuffled.replicates.seeds_perm
  have seeds' : b.seeds.Perm b'.seeds := shuffled'.replicates.seeds_perm
  constructor
  · rw [← cohorts_shuffled shuffled shuffled']
    exact comparable.oneCohort
  · rw [← cohorts_shuffled shuffled shuffled', ← evaluationsOf_shuffled shuffled shuffled']
    exact comparable.measured
  · exact ⟨seeds.nodup_iff.mp comparable.once.1, seeds'.nodup_iff.mp comparable.once.2⟩
  · rw [← List.toFinset_eq_of_perm _ _ seeds, ← List.toFinset_eq_of_perm _ _ seeds']
    exact comparable.paired
  · intro replicate' isOne
    obtain ⟨replicate, isReplicate, alike⟩ := back replicate' isOne
    unfold Verified
    rw [alike.evidence]
    exact comparable.verified replicate isReplicate
  · intro first isFirst second isSecond same
    obtain ⟨replicate, isReplicate, alike⟩ := shuffled.symm.replicates.exists_alike isFirst
    obtain ⟨other, isOther, alike'⟩ := shuffled'.symm.replicates.exists_alike isSecond
    rw [alike.evidence, alike'.evidence] at same ⊢
    exact comparable.matched replicate isReplicate other isOther same
  · unfold evaluators
    rw [← shuffled.evaluations, ← shuffled'.evaluations]
    exact comparable.evaluated
  · rw [← evaluationsOf_shuffled shuffled shuffled']
    exact comparable.scored
  · intro replicate' isOne
    obtain ⟨replicate, isReplicate, alike⟩ := back replicate' isOne
    have measured := comparable.results replicate isReplicate
    rw [← declared_shuffled shuffled shuffled']
    constructor
    · exact fun result isResult => measured.declared result (alike.results.mem_iff.mp isResult)
    · intro result isResult
      rw [alike.evidence]
      exact measured.subject result (alike.results.mem_iff.mp isResult)
  · intro first isFirst second isSecond
    obtain ⟨replicate, isReplicate, alike⟩ := back first isFirst
    obtain ⟨other, isOther, alike'⟩ := back second isSecond
    rw [alike.evidence, alike'.evidence]
    exact comparable.facets replicate isReplicate other isOther

theorem identityOf_shuffled (comparable : Comparable outside suite a b)
    (shuffled : Shuffled a a') (shuffled' : Shuffled b b') (rule : String) :
    identityOf outside a' b' rule = identityOf outside a b rule := by
  obtain ⟨replicate', _, inBoth', _⟩ := exists_replicate a' b'
  obtain ⟨replicate, inBoth, alike⟩ := (shuffled.both shuffled').symm.exists_alike inBoth'
  have labels := (shuffled.both shuffled').map_perm (fun r => r.evidence.assignment.cohort)
    fun replicate replicate' alike => by rw [alike.evidence]
  have seeds : a.seeds.Perm a'.seeds := shuffled.replicates.seeds_perm
  unfold identityOf
  rw [sole?_congr (List.toFinset_eq_of_perm _ _ labels), declared_shuffled shuffled shuffled',
    head_facets comparable inBoth, head_facets (comparable.shuffled shuffled shuffled') inBoth',
    timingOf_shuffled shuffled shuffled', sort_perm seeds, alike.evidence]

theorem Finds.shuffled {rule : String} {found found' : Comparability}
    (finds : Finds outside suite a b rule found) (finds' : Finds outside suite a' b' rule found')
    (shuffled : Shuffled a a') (shuffled' : Shuffled b b') :
    found'.comparable = found.comparable ∧ found'.comparisonKey = found.comparisonKey ∧
      found'.timingEnvironment = found.timingEnvironment := by
  have same : found'.comparable = found.comparable := by
    rw [Bool.eq_iff_iff, finds.iff, finds'.iff]
    exact ⟨fun comparable => comparable.shuffled shuffled.symm shuffled'.symm,
      fun comparable => comparable.shuffled shuffled shuffled'⟩
  refine ⟨same, ?_, ?_⟩
  · rw [finds.key, finds'.key, same]
    by_cases comparable : found.comparable = true
    · rw [identityOf_shuffled (finds.iff.mp comparable) shuffled shuffled']
    · rw [if_neg comparable, if_neg comparable]
  · rw [finds.timing, finds'.timing, timingOf_shuffled shuffled shuffled']

theorem scoresOf_alike {replicate replicate' : ReplicateRuns K}
    (alike : Alike replicate replicate') :
    scoresOf replicate = scoresOf replicate' := by
  unfold scoresOf
  rw [alike.evidence, alike.restricted]

theorem seed_of_scoresOf (replicate : ReplicateRuns K) :
    ∀ entry ∈ scoresOf replicate, entry.1.1 = replicate.evidence.seed := by
  intro entry isEntry
  obtain ⟨report, _, inReport⟩ := List.mem_flatMap.mp isEntry
  obtain ⟨task, _, given⟩ := List.mem_filterMap.mp inReport
  obtain ⟨observation, _, rfl⟩ := Option.map_eq_some_iff.mp given
  rfl

theorem scores_shuffled (once : a.seeds.Nodup) (shuffled : Shuffled a a') :
    (scores a).Perm (scores a') ∧ ∀ key, lastOf key (scores a) = lastOf key (scores a') := by
  obtain ⟨arranged, order, each⟩ := shuffled.replicates
  have same : scores a' = arranged.flatMap scoresOf := by
    unfold scores
    rw [List.flatMap_def, List.flatMap_def, map_eq_of_forall₂ each fun _ _ _ _ => scoresOf_alike]
  rw [same]
  constructor
  · exact order.flatMap_right scoresOf
  · intro key
    exact lastOf_flatMap_perm seed_of_scoresOf order once

theorem taskOutcomes_shuffled [LinearOrder K] (once : a.seeds.Nodup) (once' : b.seeds.Nodup)
    (shuffled : Shuffled a a') (shuffled' : Shuffled b b') :
    taskOutcomes a' b' = taskOutcomes a b := by
  obtain ⟨order, held⟩ := scores_shuffled once shuffled
  obtain ⟨order', held'⟩ := scores_shuffled once' shuffled'
  have counted : ∀ kind,
      countOf (scores a') (scores b') kind = countOf (scores a) (scores b) kind := by
    intro kind
    unfold countOf outcome
    rw [List.toFinset_eq_of_perm _ _ ((order.append order').map Prod.fst)]
    simp only [held, held']
  unfold taskOutcomes
  simp only [counted, order.isEmpty_eq, order'.isEmpty_eq]

/-! ## What is compared -/

variable {candidate : CandidateRuns J K}

def ParsesAll (outside : Outside J E K) (a b : CandidateRuns J K) : Prop :=
  ∀ spec ∈ evaluationsOf a b, Parses outside spec

def BalancedAll (outside : Outside J E K) (candidate : CandidateRuns J K) : Prop :=
  ∀ spec ∈ candidate.evaluations,
    Balanced (spec.evaluationFingerprint outside) candidate.replicates

theorem parsesAll_swap : ParsesAll outside a b ↔ ParsesAll outside b a := by
  unfold ParsesAll
  simp only [mem_evaluationsOf_comm (a := a)]

theorem BalancedAll.shuffled (balanced : BalancedAll outside a) (shuffled : Shuffled a a') :
    BalancedAll outside a' := by
  unfold BalancedAll
  rw [← shuffled.evaluations]
  exact fun spec isSpec => (balanced spec isSpec).shuffled shuffled.replicates

theorem BalancedAll.once (balanced : BalancedAll outside a) : a.seeds.Nodup := by
  obtain ⟨spec, isSpec⟩ := List.exists_mem_of_ne_nil _ a.evaluated
  exact (balanced spec isSpec).once

theorem parsesAll_shuffled (shuffled : Shuffled a a') (shuffled' : Shuffled b b') :
    ParsesAll outside a b ↔ ParsesAll outside a' b' := by
  unfold ParsesAll
  rw [evaluationsOf_shuffled shuffled shuffled']

theorem balancedAll_shuffled (shuffled : Shuffled a a') :
    BalancedAll outside a ↔ BalancedAll outside a' :=
  ⟨fun balanced => balanced.shuffled shuffled, fun balanced => balanced.shuffled shuffled.symm⟩

variable [Field K]

/-- A metric is located in the first evaluation that reports it. -/
def summaryOf (outside : Outside J E K) (candidate : CandidateRuns J K) (metric : String)
    (slice : Option String) : Option (MetricSummary K) :=
  candidate.evaluations.findSome? fun spec =>
    summaryAt outside (spec.evaluationFingerprint outside) candidate.replicates (metric, slice)

theorem summaries_ok (balanced : BalancedAll outside candidate) :
    ∃ found, summaries outside candidate = .ok found ∧
      ∀ metric slice, find found metric slice = summaryOf outside candidate metric slice := by
  obtain ⟨found, ran, each⟩ := exists_mapM fun spec isSpec =>
    exists_summary outside candidate.replicated (balanced spec isSpec)
  refine ⟨found, ran, ?_⟩
  intro metric slice
  exact (findSome?_eq_of_forall₂ each fun _ _ reads => (reads metric slice).symm).symm

theorem summaries_refused {spec : EvaluationSpec J} (isSpec : spec ∈ candidate.evaluations)
    (unbalanced : ¬ Balanced (spec.evaluationFingerprint outside) candidate.replicates) :
    ∃ reasons, summaries outside candidate = .error (.summaryRefused reasons) := by
  have kinds : ∀ spec ∈ candidate.evaluations, ∀ refused,
      summarize outside candidate.replicates (spec.evaluationFingerprint outside) =
        .error refused → ∃ reasons, refused = .summaryRefused reasons := by
    intro spec _ refused fails
    by_cases balanced : Balanced (spec.evaluationFingerprint outside) candidate.replicates
    · rw [summarize_balanced candidate.replicated balanced] at fails
      cases fails
    · obtain ⟨reasons, isRefused⟩ := summarize_refused outside balanced
      rw [isRefused] at fails
      exact ⟨reasons, (Except.error.inj fails).symm⟩
  obtain ⟨reasons, fails⟩ := summarize_refused outside unbalanced
  obtain ⟨refused, ran, reasons', rfl⟩ := exists_mapM_error kinds ⟨spec, isSpec, _, fails⟩
  exact ⟨reasons', ran⟩

theorem valued_summaryOf {metric : String} {slice : Option String} :
    Valued candidate (summaryOf outside candidate metric slice) := by
  intro present isPresent
  cases isFound : summaryOf outside candidate metric slice with
  | none =>
      rw [isFound] at isPresent
      cases isPresent
  | some summary =>
      rw [isFound] at isPresent
      obtain ⟨spec, _, here⟩ := List.exists_of_findSome?_eq_some isFound
      unfold presentOf at isPresent
      rw [Option.map_some] at isPresent
      cases summarized : summary.summarized with
      | absent reason =>
          rw [summarized] at isPresent
          cases isPresent
      | present unit estimate error spread count values =>
          rw [summarized] at isPresent
          cases isPresent
          exact summaryAt_values here summarized

theorem summaryOf_shuffled (once : candidate.seeds.Nodup) {candidate' : CandidateRuns J K}
    (shuffled : Shuffled candidate candidate') (metric : String) (slice : Option String) :
    summaryOf outside candidate' metric slice = summaryOf outside candidate metric slice := by
  unfold summaryOf
  rw [← shuffled.evaluations]
  congr 1
  funext spec
  exact (summaryAt_shuffled once shuffled.replicates _).symm

variable [LinearOrder K]

/-- What a report says of two candidates, and of what was found about them. -/
structure ReportOf (outside : Outside J E K) (suite : ResolvedBenchmarkSuite)
    (a b : CandidateRuns J K) (spec : ComparisonSpec K) (report : HarnessComparisonReport K) :
    Prop where
  finds : Finds outside suite a b pairedDifference report.comparability
  metrics : report.metrics = spec.objectives.map fun objective =>
    verdictOf outside objective a b (summaryOf outside a objective.metric objective.slice)
      (summaryOf outside b objective.metric objective.slice) spec.k.val report.comparability
  relation : report.relation =
    relation (report.metrics.map MetricComparison.verdict) report.comparability.comparable
  taskSuccess : report.taskSuccess = taskOutcomes a b
  replicates : report.replicates = a.replicates.length
  seeds : report.seeds = a.seeds.insertionSort (· ≤ ·)

variable (suite) (spec : ComparisonSpec K) (notes : List String)

theorem compare_returns (parses : ParsesAll outside a b) (balanced : BalancedAll outside a)
    (balanced' : BalancedAll outside b) :
    ∃ report, compare outside a b spec suite notes = .ok report ∧
      ReportOf outside suite a b spec report := by
  obtain ⟨found, ran, finds⟩ := comparability_finds suite pairedDifference parses
  obtain ⟨summariesA, ranA, readsA⟩ := summaries_ok balanced
  obtain ⟨summariesB, ranB, readsB⟩ := summaries_ok balanced'
  have each : spec.objectives.mapM (fun objective =>
      verdict outside objective a b (find summariesA objective.metric objective.slice)
        (find summariesB objective.metric objective.slice) spec.k.val found) =
      .ok (spec.objectives.map fun objective =>
        verdictOf outside objective a b (summaryOf outside a objective.metric objective.slice)
          (summaryOf outside b objective.metric objective.slice) spec.k.val found) := by
    rw [mapM_eq_ok_iff, List.forall₂_map_right_iff, List.forall₂_same]
    intro objective _
    rw [readsA, readsB]
    exact verdict_eq valued_summaryOf valued_summaryOf fun comparable =>
      (finds.iff.mp comparable).paired
  unfold compare
  rw [ran, ranA, ranB]
  simp only [Except.mapError, bind, Except.bind]
  rw [each]
  exact ⟨_, rfl, finds, rfl, rfl, rfl, rfl, rfl⟩

theorem compare_refused (parses : ParsesAll outside a b)
    (unbalanced : ¬ (BalancedAll outside a ∧ BalancedAll outside b)) :
    ∃ reasons, compare outside a b spec suite notes = .error (.summaryRefused reasons) := by
  obtain ⟨found, ran, _⟩ := comparability_finds suite pairedDifference parses
  have refused : ∀ candidate : CandidateRuns J K, ¬ BalancedAll outside candidate →
      ∃ reasons, summaries outside candidate = .error (.summaryRefused reasons) := by
    intro candidate fails
    obtain ⟨spec, fails⟩ := not_forall.mp fails
    obtain ⟨isSpec, fails⟩ := Classical.not_imp.mp fails
    exact summaries_refused isSpec fails
  unfold compare
  rw [ran]
  simp only [Except.mapError, bind, Except.bind]
  by_cases balanced : BalancedAll outside a
  · obtain ⟨summariesA, ranA, _⟩ := summaries_ok balanced
    obtain ⟨reasons, ranB⟩ := refused b fun balanced' => unbalanced ⟨balanced, balanced'⟩
    rw [ranA, ranB]
    exact ⟨reasons, rfl⟩
  · obtain ⟨reasons, ranA⟩ := refused a balanced
    rw [ranA]
    exact ⟨reasons, rfl⟩

theorem compare_invalid (unparsed : ¬ ParsesAll outside a b) :
    ∃ error, compare outside a b spec suite notes = .error (.invalidConfig error) := by
  obtain ⟨spec, unparsed⟩ := not_forall.mp unparsed
  obtain ⟨isOne, unparsed⟩ := Classical.not_imp.mp unparsed
  obtain ⟨error, ran⟩ := comparability_invalid suite pairedDifference isOne unparsed
  unfold compare
  rw [ran]
  exact ⟨error, rfl⟩

variable {suite spec}

/-! ## The whole comparison -/

/-- Two comparisons end in the same way; a configuration that is not one of a harness evaluation
is refused with its own error before anything is summarized. -/
inductive EndAlike (parses : Prop) (related : HarnessComparisonReport K →
    HarnessComparisonReport K → Prop) :
    Except (CompareError E) (HarnessComparisonReport K) →
      Except (CompareError E) (HarnessComparisonReport K) → Prop where
  | invalidConfig {error error' : E} (unparsed : ¬ parses) :
      EndAlike parses related (.error (.invalidConfig error)) (.error (.invalidConfig error'))
  | summaryRefused {reasons reasons' : List String} (parsed : parses) :
      EndAlike parses related (.error (.summaryRefused reasons))
        (.error (.summaryRefused reasons'))
  | returned {report report' : HarnessComparisonReport K} (parsed : parses)
      (same : related report report') : EndAlike parses related (.ok report) (.ok report')

/-- A report read from the other side. -/
structure Mirrored (report report' : HarnessComparisonReport K) : Prop where
  comparable : report'.comparability.comparable = report.comparability.comparable
  key : report'.comparability.comparisonKey = report.comparability.comparisonKey
  timing : report'.comparability.timingEnvironment = report.comparability.timingEnvironment
  metrics : List.Forall₂ MetricMirrored report.metrics report'.metrics
  relation : report'.relation = report.relation.swap
  taskSuccess : report'.taskSuccess = report.taskSuccess.map TaskOutcomeCounts.swap

/-- Nothing a verdict, the relation, the key or a count says differs. -/
structure Unchanged (report report' : HarnessComparisonReport K) : Prop where
  comparable : report'.comparability.comparable = report.comparability.comparable
  key : report'.comparability.comparisonKey = report.comparability.comparisonKey
  timing : report'.comparability.timingEnvironment = report.comparability.timingEnvironment
  metrics : report'.metrics = report.metrics
  relation : report'.relation = report.relation
  taskSuccess : report'.taskSuccess = report.taskSuccess
  replicates : report'.replicates = report.replicates
  seeds : report'.seeds = report.seeds

def FavorsNoSide (report : HarnessComparisonReport K) : Prop :=
  report.relation ≠ .favorsA ∧ report.relation ≠ .favorsB ∧
    ∀ metric ∈ report.metrics, metric.verdict ≠ .favorsA ∧ metric.verdict ≠ .favorsB

variable {report report' : HarnessComparisonReport K}

theorem ReportOf.mirrored [IsStrictOrderedRing K] (reads : ReportOf outside suite a b spec report)
    (reads' : ReportOf outside suite b a spec report') : Mirrored report report' := by
  obtain ⟨same, key, timing⟩ := reads.finds.swap reads'.finds
  have metrics : List.Forall₂ MetricMirrored report.metrics report'.metrics := by
    rw [reads.metrics, reads'.metrics, List.forall₂_map_left_iff, List.forall₂_map_right_iff,
      List.forall₂_same]
    intro objective _
    exact verdictOf_mirrored valued_summaryOf valued_summaryOf
      (fun comparable => (reads.finds.iff.mp comparable).paired) same timing
  have verdicts : report'.metrics.map MetricComparison.verdict =
      (report.metrics.map MetricComparison.verdict).map Verdict.swap := by
    rw [List.map_map]
    exact (map_eq_of_forall₂ metrics fun _ _ _ _ mirrored => mirrored.verdict.symm).symm
  refine ⟨same, key, timing, metrics, ?_, ?_⟩
  · rw [reads.relation, reads'.relation, verdicts, same, relation_swap]
  · rw [reads.taskSuccess, reads'.taskSuccess, taskOutcomes_swap]

theorem ReportOf.unchanged (reads : ReportOf outside suite a b spec report)
    (reads' : ReportOf outside suite a' b' spec report') (once : a.seeds.Nodup)
    (once' : b.seeds.Nodup) (shuffled : Shuffled a a') (shuffled' : Shuffled b b') :
    Unchanged report report' := by
  obtain ⟨same, key, timing⟩ := reads.finds.shuffled reads'.finds shuffled shuffled'
  have values : ∀ values, valuesBySeed a' values = valuesBySeed (K := K) a values := by
    intro values
    unfold valuesBySeed
    have seeds : a.seeds.Perm a'.seeds := shuffled.replicates.seeds_perm
    rw [sort_perm seeds]
  have values' : ∀ values, valuesBySeed b' values = valuesBySeed (K := K) b values := by
    intro values
    unfold valuesBySeed
    have seeds : b.seeds.Perm b'.seeds := shuffled'.replicates.seeds_perm
    rw [sort_perm seeds]
  have metrics : report'.metrics = report.metrics := by
    rw [reads.metrics, reads'.metrics]
    apply List.map_congr_left
    intro objective _
    rw [summaryOf_shuffled once shuffled, summaryOf_shuffled once' shuffled']
    unfold verdictOf
    simp only [same, timing, values, values']
  have seeds : a.seeds.Perm a'.seeds := shuffled.replicates.seeds_perm
  refine ⟨same, key, timing, metrics, ?_, ?_, ?_, ?_⟩
  · rw [reads.relation, reads'.relation, metrics, same]
  · rw [reads.taskSuccess, reads'.taskSuccess, taskOutcomes_shuffled once once' shuffled shuffled']
  · rw [reads.replicates, reads'.replicates, shuffled.replicates.length_eq]
  · rw [reads.seeds, reads'.seeds, sort_perm seeds]

theorem ReportOf.favorsNoSide [IsStrictOrderedRing K]
    (reads : ReportOf outside suite a a spec report) : FavorsNoSide report := by
  have each : ∀ metric ∈ report.metrics, metric.verdict ≠ .favorsA ∧ metric.verdict ≠ .favorsB := by
    intro metric isOne
    rw [reads.metrics] at isOne
    obtain ⟨objective, _, rfl⟩ := List.mem_map.mp isOne
    exact verdictOf_self
  have noA : .favorsA ∉ report.metrics.map MetricComparison.verdict := by
    rw [List.mem_map]
    rintro ⟨metric, isOne, favors⟩
    exact (each metric isOne).1 favors
  have noB : .favorsB ∉ report.metrics.map MetricComparison.verdict := by
    rw [List.mem_map]
    rintro ⟨metric, isOne, favors⟩
    exact (each metric isOne).2 favors
  have undirected : report.relation = .notComparable ∨ report.relation = .inconclusive := by
    rw [reads.relation]
    unfold Comparison.relation
    rw [if_neg (fun both => noA both.1 : ¬ (.favorsA ∈ report.metrics.map MetricComparison.verdict ∧
      .favorsB ∈ report.metrics.map MetricComparison.verdict)), if_neg noA, if_neg noB]
    split
    · exact .inl rfl
    · exact .inr rfl
  refine ⟨?_, ?_, each⟩ <;> rcases undirected with is | is <;> rw [is] <;> exact nofun

structure AntisymmetricAndOrderFree (outside : Outside J E K) (suite : ResolvedBenchmarkSuite) :
    Prop where
  mirrored : ∀ (a b : CandidateRuns J K) (spec : ComparisonSpec K) (notes : List String),
    EndAlike (ParsesAll outside a b) Mirrored (compare outside a b spec suite notes)
      (compare outside b a spec suite notes)
  unchanged : ∀ (a a' b b' : CandidateRuns J K) (spec : ComparisonSpec K) (notes : List String),
    Shuffled a a' → Shuffled b b' →
      EndAlike (ParsesAll outside a b) Unchanged (compare outside a b spec suite notes)
        (compare outside a' b' spec suite notes)
  itself : ∀ (a : CandidateRuns J K) (spec : ComparisonSpec K) (notes : List String)
    (report : HarnessComparisonReport K),
      compare outside a a spec suite notes = .ok report → FavorsNoSide report

/-- A comparison ends in one of three ways. -/
theorem endAlike_of {related : HarnessComparisonReport K →
      HarnessComparisonReport K → Prop}
    (parses : ParsesAll outside a b ↔ ParsesAll outside a' b')
    (balanced : BalancedAll outside a ∧ BalancedAll outside b ↔
      BalancedAll outside a' ∧ BalancedAll outside b')
    (same : BalancedAll outside a ∧ BalancedAll outside b → ∀ report report',
      ReportOf outside suite a b spec report → ReportOf outside suite a' b' spec report' →
        related report report') :
    EndAlike (ParsesAll outside a b) related (compare outside a b spec suite notes)
      (compare outside a' b' spec suite notes) := by
  by_cases parsed : ParsesAll outside a b
  · have parsed' := parses.mp parsed
    by_cases sides : BalancedAll outside a ∧ BalancedAll outside b
    · have sides' := balanced.mp sides
      obtain ⟨report, ran, reads⟩ := compare_returns suite spec notes parsed sides.1 sides.2
      obtain ⟨report', ran', reads'⟩ := compare_returns suite spec notes parsed' sides'.1 sides'.2
      rw [ran, ran']
      exact .returned parsed (same sides report report' reads reads')
    · obtain ⟨reasons, ran⟩ := compare_refused suite spec notes parsed sides
      obtain ⟨reasons', ran'⟩ := compare_refused suite spec notes parsed'
        fun sides' => sides (balanced.mpr sides')
      rw [ran, ran']
      exact .summaryRefused parsed
  · obtain ⟨error, ran⟩ := compare_invalid suite spec notes parsed
    obtain ⟨error', ran'⟩ := compare_invalid suite spec notes fun parsed' =>
      parsed (parses.mpr parsed')
    rw [ran, ran']
    exact .invalidConfig parsed

theorem comparison_antisymmetric [IsStrictOrderedRing K] (outside : Outside J E K)
    (suite : ResolvedBenchmarkSuite) : AntisymmetricAndOrderFree outside suite := by
  constructor
  · intro a b spec notes
    exact endAlike_of notes parsesAll_swap and_comm
      fun _ report report' reads reads' => reads.mirrored reads'
  · intro a a' b b' spec notes shuffled shuffled'
    apply endAlike_of notes (parsesAll_shuffled shuffled shuffled')
      (and_congr (balancedAll_shuffled shuffled) (balancedAll_shuffled shuffled'))
    intro sides report report' reads reads'
    exact reads.unchanged reads' sides.1.once sides.2.once shuffled shuffled'
  · intro a spec notes report ran
    have reads : ReportOf outside suite a a spec report := by
      by_cases parsed : ParsesAll outside a a
      · by_cases balanced : BalancedAll outside a
        · obtain ⟨returned, ran', reads⟩ :=
            compare_returns suite spec notes parsed balanced balanced
          rw [ran] at ran'
          cases ran'
          exact reads
        · obtain ⟨reasons, ran'⟩ := compare_refused suite spec notes parsed
            fun sides => balanced sides.1
          rw [ran] at ran'
          cases ran'
      · obtain ⟨error, ran'⟩ := compare_invalid suite spec notes parsed
        rw [ran] at ran'
        cases ran'
    exact reads.favorsNoSide

/-! ## A configuration of another kind -/

/-- A configuration is its entries; the typed model refuses one that has none. -/
def entriesOutside : Outside (List (String × String)) Unit ℚ where
  cohort := fun _ => "cohort"
  sha256 := id
  parseEvaluationConfig := fun config => if config.isEmpty then .error () else
    .ok ⟨.ref ⟨"suite", "1", "sha256:suite"⟩, .allTasks⟩
  evaluation := fun _ => "evaluation"
  comparison := fun _ => "comparison"
  report := fun _ => "report"
  sqrt := id

def soloSuite : ResolvedBenchmarkSuite where
  ref := ⟨"suite", "1", "sha256:suite"⟩
  members := ["task"]
  listed := List.cons_ne_nil _ _
  once := List.nodup_singleton _

def soloEvidence : HarnessRunEvidence where
  sampling := .allTasks
  assignment := ⟨"cohort", 0, ["task"], List.cons_ne_nil _ _, List.nodup_singleton _⟩
  seed := 0
  replicate := 0
  facets := ⟨"runner", "1", "compiler", "1", "words", "e", "c", "d", "r", "p", none⟩
  entryCount := 1
  evidenceDigest := "sha256:evidence"

def unconfigured : CandidateRuns (List (String × String)) ℚ where
  evaluations := [⟨⟨"exact-match", some "1", some .deterministic, []⟩, none, []⟩]
  replicates := [⟨soloEvidence, [], []⟩]
  evaluated := List.cons_ne_nil _ _
  replicated := List.cons_ne_nil _ _

def turnsSpec : ComparisonSpec ℚ where
  objectives := [⟨"turns", none, .minimize, ⟨0, le_refl 0⟩⟩]
  k := ⟨2, two_pos⟩
  objected := List.cons_ne_nil _ _
  eachOnce := List.nodup_singleton _

/-- Neither way round is a summary refused or a report returned. -/
theorem compare_unconfigured :
    ¬ ((∃ reasons, compare entriesOutside unconfigured unconfigured turnsSpec soloSuite [] =
          .error (.summaryRefused reasons)) ∨
        ∃ report, compare entriesOutside unconfigured unconfigured turnsSpec soloSuite [] =
          .ok report) := by
  have ran : compare entriesOutside unconfigured unconfigured turnsSpec soloSuite [] =
      .error (.invalidConfig ()) := rfl
  rw [ran]
  rintro (⟨reasons, refused⟩ | ⟨report, returned⟩)
  · cases refused
  · cases returned

/-- One seed's run of a harness evaluation, with the turns it took. -/
def measured (turns : ℚ) (seed : Int) : ReplicateRuns ℚ :=
  ⟨{ soloEvidence with seed := seed },
    [⟨"result", "sha256:evidence", "evaluation", [⟨"turns", none, turns, "turns"⟩]⟩], []⟩

def configured (turns : ℚ) : CandidateRuns (List (String × String)) ℚ where
  evaluations :=
    [⟨⟨"exact-match", some "1", some .deterministic, [("suite", "suite")]⟩, none, []⟩]
  replicates := [0, 1, 2].map (measured turns)
  evaluated := List.cons_ne_nil _ _
  replicated := List.cons_ne_nil _ _

theorem configured_parses : ParsesAll entriesOutside (configured 4) (configured 6) := by
  intro spec isSpec
  refine ⟨⟨.ref ⟨"suite", "1", "sha256:suite"⟩, .allTasks⟩, ?_⟩
  simp only [evaluationsOf, configured, List.singleton_append, List.mem_cons, List.not_mem_nil,
    or_false, or_self] at isSpec
  rw [isSpec]
  rfl

theorem configured_balanced (turns : ℚ) : BalancedAll entriesOutside (configured turns) := by
  intro spec isSpec
  rw [List.mem_singleton.mp isSpec]
  constructor
  · exact (by decide : [(0 : Int), 1, 2].Nodup)
  · simp [configured, measured, runsOf, EvaluationSpec.evaluationFingerprint, entriesOutside]
  · simp [configured, measured, runsOf]

theorem configured_comparable :
    Comparable entriesOutside soloSuite (configured 4) (configured 6) := by
  obtain ⟨found, ran, finds⟩ :=
    comparability_finds soloSuite pairedDifference configured_parses
  have comparable : ((comparability entriesOutside (configured 4) (configured 6) soloSuite
      pairedDifference).toOption.map Comparability.comparable) = some true := by decide +kernel
  rw [ran] at comparable
  exact finds.iff.mp (Option.some.inj comparable)

theorem differences_configured : differencesOf .minimize [((0 : Int), (4 : ℚ)), (1, 4), (2, 4)]
    [(0, 6), (1, 6), (2, 6)] = [2, 2, 2] := by
  have seeds : (seedsOf [((0 : Int), (4 : ℚ)), (1, 4), (2, 4)]).sort = [0, 1, 2] :=
    (List.toFinset_sort (· ≤ ·) (by decide)).mpr (by decide)
  rw [differencesOf, seeds]
  decide +kernel

theorem compare_configured :
    ∃ report, compare entriesOutside (configured 4) (configured 6) turnsSpec soloSuite [] =
      .ok report ∧ report.relation = .favorsA := by
  obtain ⟨report, ran, reads⟩ := compare_returns soloSuite turnsSpec [] configured_parses
    (configured_balanced 4) (configured_balanced 6)
  have comparable := reads.finds.iff.mpr configured_comparable
  have present : presentOf (summaryOf entriesOutside (configured 4) "turns" none) =
      some ("turns", [4, 4, 4]) := by decide +kernel
  have present' : presentOf (summaryOf entriesOutside (configured 6) "turns" none) =
      some ("turns", [6, 6, 6]) := by decide +kernel
  have favors : report.metrics.map MetricComparison.verdict = [.favorsA] := by
    have untimed : "turns" ∉ timeMetrics := by decide
    rw [reads.metrics, turnsSpec, List.map_singleton, List.map_singleton, verdictOf,
      if_neg (by rw [comparable]; exact Bool.noConfusion), if_neg fun timed => untimed timed.1,
      present, present']
    change [(weigh _ _ _ _ _ (differencesOf _ [((0 : Int), (4 : ℚ)), (1, 4), (2, 4)]
      [(0, 6), (1, 6), (2, 6)])).verdict] = _
    rw [differences_configured]
    decide +kernel
  refine ⟨report, ran, ?_⟩
  rw [reads.relation, favors, comparable]
  rfl

/-- The candidate that takes fewer turns is favored from either side. -/
theorem comparison_antisymmetric_configured :
    ∃ report report',
      compare entriesOutside (configured 4) (configured 6) turnsSpec soloSuite [] = .ok report ∧
      compare entriesOutside (configured 6) (configured 4) turnsSpec soloSuite [] = .ok report' ∧
      report.relation = .favorsA ∧ report'.relation = .favorsB := by
  obtain ⟨report, ran, favors⟩ := compare_configured
  have alike := (comparison_antisymmetric entriesOutside soloSuite).mirrored (configured 4)
    (configured 6) turnsSpec []
  rw [ran] at alike
  cases swapped : compare entriesOutside (configured 6) (configured 4) turnsSpec soloSuite [] with
  | error error =>
      rw [swapped] at alike
      cases alike
  | ok report' =>
      rw [swapped] at alike
      cases alike with
      | returned parsed mirrored =>
          exact ⟨report, report', ran, rfl, favors, by rw [mirrored.relation, favors]; rfl⟩

end Xaytune.Comparison
