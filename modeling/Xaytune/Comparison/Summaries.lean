import Xaytune.Comparison.Comparability

/-!
# Summaries of shuffled replicates

A summary is made exactly where the design is balanced, and reads the replicates in the order of
their seeds: it is the same for the same replicates in another order, with their results in
another order.
-/

namespace Xaytune.Comparison

open Xaytune.Library

variable {J E K : Type}

/-! ## Shuffled candidates -/

/-- The same replicate, with its results in another order. -/
structure Alike (replicate replicate' : ReplicateRuns K) : Prop where
  evidence : replicate.evidence = replicate'.evidence
  restricted : replicate.restricted = replicate'.restricted
  results : replicate.results.Perm replicate'.results

/-- The same replicates, in another order, each with its results in another order. -/
def ShuffledReplicates (replicates replicates' : List (ReplicateRuns K)) : Prop :=
  ∃ arranged, replicates.Perm arranged ∧ List.Forall₂ Alike arranged replicates'

structure Shuffled (candidate candidate' : CandidateRuns J K) : Prop where
  evaluations : candidate.evaluations = candidate'.evaluations
  replicates : ShuffledReplicates candidate.replicates candidate'.replicates

section Replicates

variable {replicates replicates' : List (ReplicateRuns K)}

/-- What is read off the evidence alone. -/
theorem ShuffledReplicates.map_perm {β : Type} (read : ReplicateRuns K → β)
    (shuffled : ShuffledReplicates replicates replicates')
    (same : ∀ replicate replicate', Alike replicate replicate' → read replicate = read replicate') :
    (replicates.map read).Perm (replicates'.map read) := by
  obtain ⟨arranged, order, each⟩ := shuffled
  rw [← map_eq_of_forall₂ each fun _ _ _ _ => same _ _]
  exact order.map read

theorem ShuffledReplicates.seeds_perm (shuffled : ShuffledReplicates replicates replicates') :
    (replicates.map fun r => r.evidence.seed).Perm (replicates'.map fun r => r.evidence.seed) :=
  shuffled.map_perm _ fun replicate replicate' alike => by rw [alike.evidence]

theorem ShuffledReplicates.length_eq (shuffled : ShuffledReplicates replicates replicates') :
    replicates.length = replicates'.length := by
  obtain ⟨arranged, order, each⟩ := shuffled
  rw [order.length_eq, each.length_eq]

theorem ShuffledReplicates.symm (shuffled : ShuffledReplicates replicates replicates') :
    ShuffledReplicates replicates' replicates := by
  obtain ⟨arranged, order, each⟩ := shuffled
  obtain ⟨arranged', each', order'⟩ := List.perm_comp_forall₂ order each
  refine ⟨arranged', order'.symm, each'.flip.imp ?_⟩
  intro replicate' replicate alike
  exact ⟨alike.evidence.symm, alike.restricted.symm, alike.results.symm⟩

theorem ShuffledReplicates.exists_alike (shuffled : ShuffledReplicates replicates replicates')
    {replicate : ReplicateRuns K} (member : replicate ∈ replicates) :
    ∃ replicate' ∈ replicates', Alike replicate replicate' := by
  obtain ⟨arranged, order, each⟩ := shuffled
  exact exists_of_forall₂ each (order.mem_iff.mp member)

theorem ordered_perm : (ordered replicates).Perm replicates := List.perm_insertionSort _ _

theorem ordered_alike (once : (replicates.map fun r => r.evidence.seed).Nodup)
    (shuffled : ShuffledReplicates replicates replicates') :
    List.Forall₂ Alike (ordered replicates) (ordered replicates') := by
  obtain ⟨arranged, order, each⟩ := shuffled
  have sameOrder : ordered replicates = ordered arranged := by
    have here : (ordered replicates).Perm replicates := ordered_perm
    have perm := here.trans (order.trans ordered_perm.symm)
    apply perm.eq_of_pairwise _ (List.pairwise_insertionSort _ _) (List.pairwise_insertionSort _ _)
    intro replicate replicate' isOne isOne' before after
    have sameKey := le_antisymm before after
    exact List.inj_on_of_nodup_map once (ordered_perm.mem_iff.mp isOne)
      (order.mem_iff.mpr (ordered_perm.mem_iff.mp isOne'))
      (Prod.mk.inj (toLex.injective sameKey)).1
  rw [sameOrder]
  apply forall₂_insertionSort _ each
  intro replicate replicate' other other' alike alike'
  rw [alike.evidence, alike'.evidence]

theorem runsOf_perm {fingerprint : String} {replicate replicate' : ReplicateRuns K}
    (alike : Alike replicate replicate') :
    (runsOf fingerprint replicate).Perm (runsOf fingerprint replicate') :=
  alike.results.filter _

end Replicates

/-! ## One metric -/

section Metrics

variable {runs runs' : List (List (EvaluationResult K))} {key : String × Option String}

theorem mem_metricKeys : key ∈ metricKeys runs ↔
    ∃ found ∈ runs, ∃ result ∈ found, ∃ metric ∈ result.metrics,
      (metric.name, metric.slice) = key := by
  unfold metricKeys
  rw [List.mem_insertionSort, List.mem_dedup]
  simp only [List.mem_flatMap, List.mem_flatten, List.mem_map]
  constructor
  · rintro ⟨result, ⟨found, isOne, inFound⟩, metric⟩
    exact ⟨found, isOne, result, inFound, metric⟩
  · rintro ⟨found, isOne, result, inFound, metric⟩
    exact ⟨result, ⟨found, isOne, inFound⟩, metric⟩

theorem metricKeys_of_perm (same : List.Forall₂ List.Perm runs runs')
    (member : key ∈ metricKeys runs) :
    key ∈ metricKeys runs' := by
  obtain ⟨found, isOne, result, inFound, metric⟩ := mem_metricKeys.mp member
  obtain ⟨found', isOne', order⟩ := exists_of_forall₂ same isOne
  exact mem_metricKeys.mpr ⟨found', isOne', result, order.mem_iff.mp inFound, metric⟩

theorem forall₂_perm_symm (same : List.Forall₂ List.Perm runs runs') :
    List.Forall₂ List.Perm runs' runs :=
  (same.flip).imp fun _ _ order => order.symm

theorem valuesOf_perm {results results' : List (EvaluationResult K)}
    (same : results.Perm results') : (valuesOf key results).Perm (valuesOf key results') :=
  same.filterMap _

theorem flatten_perm (same : List.Forall₂ List.Perm runs runs') :
    runs.flatten.Perm runs'.flatten := by
  induction same with
  | nil => exact .nil
  | cons first _ ih => exact first.append ih

variable [Field K] {outside : Outside J E K} {tasks : Option Nat} {judging : Nat}

theorem summarizeMetric_perm (same : List.Forall₂ List.Perm runs runs') :
    summarizeMetric outside tasks judging runs key =
      summarizeMetric outside tasks judging runs' key := by
  have flat := flatten_perm same
  have missing : (runs.flatten.any fun result => (metricOf result key).isNone) =
      runs'.flatten.any fun result => (metricOf result key).isNone := flat.any_eq
  have units : sole? (unitsOf key runs.flatten) = sole? (unitsOf key runs'.flatten) :=
    sole?_congr (List.toFinset_eq_of_perm _ _ (flat.filterMap _))
  have means : (runs.map (valuesOf key)).map mean = (runs'.map (valuesOf key)).map mean := by
    rw [List.map_map, List.map_map]
    exact map_eq_of_forall₂ same fun _ _ _ _ order => mean_perm (valuesOf_perm order)
  have variances :
      (runs.map (valuesOf key)).map variance = (runs'.map (valuesOf key)).map variance := by
    rw [List.map_map, List.map_map]
    exact map_eq_of_forall₂ same fun _ _ _ _ order => variance_perm (valuesOf_perm order)
  unfold summarizeMetric
  dsimp only
  rw [missing, units, means, variances]
  simp only [List.length_map, same.length_eq]

/-- A summary that is present has one value for each run. -/
theorem summarizeMetric_values {unit : String} {estimate : K} {error spread : Option K}
    {count : Nat} {values : List K}
    (present : (summarizeMetric outside tasks judging runs key).summarized =
      .present unit estimate error spread count values) : values.length = runs.length := by
  unfold summarizeMetric at present
  dsimp only at present
  cases tasks with
  | none => cases present
  | some tasks =>
      dsimp only at present
      split at present
      · cases present
      · split at present
        · cases present
        · cases present
          rw [List.length_map, List.length_map]

end Metrics

/-! ## A balanced design -/

section Balanced

variable {outside : Outside J E K} {fingerprint : String}
  {replicates replicates' : List (ReplicateRuns K)}

/-- Each seed has one replicate, and all replicates have the same number of runs. -/
structure Balanced (fingerprint : String) (replicates : List (ReplicateRuns K)) : Prop where
  once : (replicates.map fun r => r.evidence.seed).Nodup
  judged : ∀ replicate ∈ replicates, (runsOf fingerprint replicate).length ≠ 0
  alike : ∀ replicate ∈ replicates, ∀ replicate' ∈ replicates,
    (runsOf fingerprint replicate).length = (runsOf fingerprint replicate').length

def orderedRuns (fingerprint : String) (replicates : List (ReplicateRuns K)) :
    List (List (EvaluationResult K)) :=
  (ordered replicates).map (runsOf fingerprint)

/-- Read off a balanced design: how many runs judge each replicate. -/
def judgingOf (fingerprint : String) (replicates : List (ReplicateRuns K)) : Nat :=
  (sole? ((orderedRuns fingerprint replicates).map List.length)).getD 0

def tasksOf (replicates : List (ReplicateRuns K)) : Option Nat :=
  sole? ((ordered replicates).map fun r => r.evidence.entryCount)

theorem refusals_eq_nil : refusals ((ordered replicates).map fun r => r.evidence.seed)
    ((orderedRuns fingerprint replicates).map List.length) = [] ↔
      Balanced fingerprint replicates := by
  have member : ∀ replicate, replicate ∈ ordered replicates ↔ replicate ∈ replicates :=
    fun replicate => ordered_perm.mem_iff
  unfold refusals orderedRuns
  simp only [List.append_eq_nil_iff, ite_eq_right_iff, imp_iff_not (List.cons_ne_nil _ _), ne_eq,
    not_not, not_lt, toFinset_card_eq_length, (ordered_perm.map _).nodup_iff, Finset.card_le_one,
    List.map_map, List.mem_toFinset, List.mem_map, not_exists, not_and, Function.comp_apply,
    forall_exists_index, and_imp, forall_apply_eq_imp_iff₂, member, and_assoc]
  constructor
  · rintro ⟨once, judged, alike⟩
    exact ⟨once, judged, alike⟩
  · intro balanced
    exact ⟨balanced.once, balanced.judged, balanced.alike⟩

theorem Balanced.shuffled (balanced : Balanced fingerprint replicates)
    (shuffled : ShuffledReplicates replicates replicates') : Balanced fingerprint replicates' := by
  have counts := shuffled.map_perm (fun r => (runsOf fingerprint r).length)
    fun _ _ alike => (runsOf_perm alike).length_eq
  have back : ∀ replicate' ∈ replicates', ∃ replicate ∈ replicates,
      (runsOf fingerprint replicate).length = (runsOf fingerprint replicate').length := by
    intro replicate' isOne
    exact List.mem_map.mp (counts.mem_iff.mpr (List.mem_map_of_mem isOne))
  constructor
  · exact shuffled.seeds_perm.nodup_iff.mp balanced.once
  · intro replicate' isOne
    obtain ⟨replicate, isReplicate, same⟩ := back replicate' isOne
    rw [← same]
    exact balanced.judged replicate isReplicate
  · intro first isFirst second isSecond
    obtain ⟨replicate, isReplicate, same⟩ := back first isFirst
    obtain ⟨other, isOther, same'⟩ := back second isSecond
    rw [← same, ← same']
    exact balanced.alike replicate isReplicate other isOther

theorem find?_map_key {metrics : List (String × Option String)} {key : String × Option String}
    {make : String × Option String → MetricSummary K}
    (keyed : ∀ key, ((make key).metric, (make key).slice) = key) :
    (metrics.map make).find? (fun found => (found.metric, found.slice) = key) =
      if key ∈ metrics then some (make key) else none := by
  induction metrics with
  | nil => simp
  | cons first metrics ih =>
      rw [List.map_cons, List.find?_cons, keyed first]
      by_cases same : first = key
      · subst same
        simp
      · simp only [same, decide_false, ih, List.mem_cons, Ne.symm same, false_or]

variable [Field K]

theorem exists_sole? {α : Type} [DecidableEq α] {items : List α} (present : items ≠ [])
    (few : items.toFinset.card ≤ 1) : ∃ item, sole? items = some item := by
  have some : items.toFinset.card ≠ 0 := by
    rwa [Ne, Finset.card_eq_zero, List.toFinset_eq_empty_iff]
  obtain ⟨item, single⟩ := Finset.card_eq_one.mp (by omega : items.toFinset.card = 1)
  exact ⟨item, sole?_eq_some_iff.mpr single⟩

theorem summarize_balanced (present : replicates ≠ [])
    (balanced : Balanced fingerprint replicates) :
    summarize outside replicates fingerprint = .ok ⟨fingerprint,
      (ordered replicates).map fun r => r.evidence.seed,
      (metricKeys (orderedRuns fingerprint replicates)).map
        (summarizeMetric outside (tasksOf replicates) (judgingOf fingerprint replicates)
          (orderedRuns fingerprint replicates))⟩ := by
  have none := refusals_eq_nil.mpr balanced
  have some : (orderedRuns fingerprint replicates).map List.length ≠ [] := by
    unfold orderedRuns
    rw [Ne, List.map_eq_nil_iff, List.map_eq_nil_iff]
    intro empty
    have order : (ordered replicates).Perm replicates := ordered_perm
    rw [empty] at order
    exact present (List.nil_perm.mp order)
  have few : ((orderedRuns fingerprint replicates).map List.length).toFinset.card ≤ 1 := by
    unfold refusals at none
    have last := (List.append_eq_nil_iff.mp none).2
    rw [ite_eq_right_iff, imp_iff_not (List.cons_ne_nil _ _)] at last
    exact not_lt.mp last
  obtain ⟨judging, isSole⟩ := exists_sole? some few
  have isJudging : judgingOf fingerprint replicates = judging := by
    unfold judgingOf
    rw [isSole]
    rfl
  rw [isJudging]
  unfold orderedRuns at isSole none
  unfold summarize orderedRuns
  dsimp only
  rw [if_neg (not_not.mpr none), isSole]
  rfl

theorem summarize_refused (outside : Outside J E K)
    (unbalanced : ¬ Balanced fingerprint replicates) :
    ∃ reasons, summarize outside replicates fingerprint = .error (.summaryRefused reasons) := by
  have refused : refusals ((ordered replicates).map fun r => r.evidence.seed)
      (((ordered replicates).map (runsOf fingerprint)).map List.length) ≠ [] :=
    fun none => unbalanced (refusals_eq_nil.mp none)
  unfold summarize
  dsimp only
  rw [if_pos refused]
  exact ⟨_, rfl⟩

/-! ## What is read of a summary -/

/-- The summary of one metric of a balanced design, where some run reports it. -/
def summaryAt (outside : Outside J E K) (fingerprint : String)
    (replicates : List (ReplicateRuns K)) (key : String × Option String) :
    Option (MetricSummary K) :=
  if key ∈ metricKeys (orderedRuns fingerprint replicates) then
    some (summarizeMetric outside (tasksOf replicates) (judgingOf fingerprint replicates)
      (orderedRuns fingerprint replicates) key)
  else none

/-- A balanced design has a summary, and it is read metric by metric. -/
theorem exists_summary (outside : Outside J E K) (present : replicates ≠ [])
    (balanced : Balanced fingerprint replicates) :
    ∃ summary, summarize outside replicates fingerprint = .ok summary ∧
      ∀ metric slice, summary.get metric slice =
        summaryAt outside fingerprint replicates (metric, slice) := by
  refine ⟨_, summarize_balanced present balanced, ?_⟩
  intro metric slice
  exact find?_map_key fun key => rfl

theorem summaryAt_values {key : String × Option String} {summary : MetricSummary K} {unit : String}
    {estimate : K} {error spread : Option K} {count : Nat} {values : List K}
    (found : summaryAt outside fingerprint replicates key = some summary)
    (present : summary.summarized = .present unit estimate error spread count values) :
    values.length = replicates.length := by
  unfold summaryAt at found
  split at found
  · cases found
    rw [summarizeMetric_values present, orderedRuns, List.length_map]
    exact ordered_perm.length_eq
  · cases found

/-! ## Shuffled replicates -/

theorem summaryAt_shuffled (once : (replicates.map fun r => r.evidence.seed).Nodup)
    (shuffled : ShuffledReplicates replicates replicates') (key : String × Option String) :
    summaryAt outside fingerprint replicates key =
      summaryAt outside fingerprint replicates' key := by
  have each := ordered_alike once shuffled
  have runs : List.Forall₂ List.Perm (orderedRuns fingerprint replicates)
      (orderedRuns fingerprint replicates') := by
    unfold orderedRuns
    rw [List.forall₂_map_left_iff, List.forall₂_map_right_iff]
    exact each.imp fun _ _ alike => runsOf_perm alike
  have tasks : tasksOf replicates = tasksOf replicates' := by
    unfold tasksOf
    rw [map_eq_of_forall₂ each fun _ _ _ _ alike => by rw [alike.evidence]]
  have judging : judgingOf fingerprint replicates = judgingOf fingerprint replicates' := by
    unfold judgingOf
    rw [map_eq_of_forall₂ runs fun _ _ _ _ order => order.length_eq]
  have reported : key ∈ metricKeys (orderedRuns fingerprint replicates) ↔
      key ∈ metricKeys (orderedRuns fingerprint replicates') :=
    ⟨metricKeys_of_perm runs, metricKeys_of_perm (forall₂_perm_symm runs)⟩
  unfold summaryAt
  simp only [reported, tasks, judging, summarizeMetric_perm runs]

end Balanced

end Xaytune.Comparison
