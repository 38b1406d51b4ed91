import Mathlib.Tactic.Linarith
import Xaytune.Comparison.Summaries

/-!
# A comparison read from the other side

Exchanging the two candidates negates every difference, exchanges the sides in every verdict and
leaves the rest. Where the two are comparable their replicates are paired by seed, so no difference
is missing.
-/

namespace Xaytune.Comparison

open Xaytune.Library

variable {J E K : Type}

/-! ## Exchanging the sides -/

def Verdict.swap : Verdict → Verdict
  | .favorsA => .favorsB
  | .favorsB => .favorsA
  | .inconclusive => .inconclusive
  | .notComparable => .notComparable

def Relation.swap : Relation → Relation
  | .favorsA => .favorsB
  | .favorsB => .favorsA
  | .tradeOff => .tradeOff
  | .inconclusive => .inconclusive
  | .notComparable => .notComparable

def Outcome.swap : Outcome → Outcome
  | .win => .loss
  | .loss => .win
  | .tie => .tie
  | .unscored => .unscored

/-- Wins and losses exchanged. -/
def TaskOutcomeCounts.swap (counts : TaskOutcomeCounts) : TaskOutcomeCounts :=
  ⟨counts.losses, counts.wins, counts.ties, counts.unscored⟩

@[simp] theorem Verdict.swap_swap (verdict : Verdict) : verdict.swap.swap = verdict := by
  cases verdict <;> rfl

@[simp] theorem Outcome.swap_swap (outcome : Outcome) : outcome.swap.swap = outcome := by
  cases outcome <;> rfl

theorem mem_map_swap {verdicts : List Verdict} {verdict : Verdict} :
    verdict ∈ verdicts.map Verdict.swap ↔ verdict.swap ∈ verdicts := by
  rw [List.mem_map]
  constructor
  · rintro ⟨other, isOne, rfl⟩
    rwa [Verdict.swap_swap]
  · intro isOne
    exact ⟨verdict.swap, isOne, verdict.swap_swap⟩

theorem relation_swap (verdicts : List Verdict) (comparable : Bool) :
    relation (verdicts.map Verdict.swap) comparable = (relation verdicts comparable).swap := by
  unfold relation
  simp only [mem_map_swap, Verdict.swap]
  by_cases refused : comparable = false ∨ .notComparable ∈ verdicts
  · rw [if_pos refused, if_pos refused]
    rfl
  · rw [if_neg refused, if_neg refused]
    by_cases forA : .favorsA ∈ verdicts <;> by_cases forB : .favorsB ∈ verdicts <;>
      simp [forA, forB, Relation.swap]

/-! ## Paired values -/

theorem seedsOf_valuesBySeed {a : CandidateRuns J K} {values : List K}
    (each : values.length = a.replicates.length) :
    seedsOf (valuesBySeed a values) = a.seeds.toFinset := by
  have full : (a.seeds.insertionSort (· ≤ ·)).length ≤ values.length := by
    rw [List.length_insertionSort, CandidateRuns.seeds, List.length_map, each]
  unfold seedsOf valuesBySeed
  rw [List.map_fst_zip full]
  exact List.toFinset_eq_of_perm _ _ (List.perm_insertionSort _ _)

section Differences

variable [Field K]

/-- The differences where none is missing. -/
def differencesOf (direction : Direction) (va vb : List (Int × K)) : List K :=
  (seedsOf va).sort.map fun seed =>
    direction.sign * ((lastOf seed va).getD 0 - (lastOf seed vb).getD 0)

theorem mapM_differenceAt {direction : Direction} {va vb : List (Int × K)}
    (paired : seedsOf va = seedsOf vb) :
    (seedsOf va).sort.mapM (differenceAt (E := E) direction va vb) =
      .ok (differencesOf direction va vb) := by
  rw [mapM_eq_ok_iff, differencesOf, List.forall₂_map_right_iff, List.forall₂_same]
  intro seed isSeed
  have inA : seed ∈ seedsOf va := (Finset.mem_sort _).mp isSeed
  have inB : seed ∈ seedsOf vb := paired ▸ inA
  obtain ⟨x, isX⟩ := exists_lastOf (List.mem_toFinset.mp inA)
  obtain ⟨y, isY⟩ := exists_lastOf (List.mem_toFinset.mp inB)
  unfold differenceAt
  rw [isX, isY]
  rfl

theorem differencesOf_swap {direction : Direction} {va vb : List (Int × K)}
    (paired : seedsOf va = seedsOf vb) :
    differencesOf direction vb va =
      (differencesOf direction va vb).map fun difference => -difference := by
  unfold differencesOf
  rw [List.map_map, paired]
  apply List.map_congr_left
  intro seed _
  rw [Function.comp_apply, ← mul_neg, neg_sub]

theorem differencesOf_self {direction : Direction} {va : List (Int × K)} :
    ∀ difference ∈ differencesOf direction va va, difference = 0 := by
  intro difference isOne
  obtain ⟨seed, _, rfl⟩ := List.mem_map.mp isOne
  rw [sub_self, mul_zero]

end Differences

/-! ## Verdicts -/

section Exact

variable [Field K] [LinearOrder K]

/-- A metric's comparison read from the other side. -/
structure MetricMirrored (metric metric' : MetricComparison K) : Prop where
  verdict : metric'.verdict = metric.verdict.swap
  differences : metric'.differences = metric.differences.map fun difference => -difference
  mean : metric'.meanDifference = metric.meanDifference.map fun mean => -mean
  standardError : metric'.standardError = metric.standardError
  threshold : metric'.threshold = metric.threshold
  sides : metric'.a = metric.b ∧ metric'.b = metric.a

theorem judged_neg [IsStrictOrderedRing K] {mean threshold : K} (nonneg : 0 ≤ threshold) :
    judged (-mean) threshold = (judged mean threshold).swap := by
  unfold judged
  rw [neg_neg]
  by_cases above : threshold < mean
  · have notBelow : ¬ threshold < -mean := by
      intro below
      linarith
    rw [if_neg notBelow, if_pos above, if_pos above]
    rfl
  · rw [if_neg above, if_neg above]
    by_cases below : threshold < -mean
    · rw [if_pos below, if_pos below]
      rfl
    · rw [if_neg below, if_neg below]
      rfl

variable {outside : Outside J E K} {objective : ObjectiveMetric K}
  {sa sb : Option (MetricSummary K)} {k : K}

theorem undecided_mirrored {verdict : Verdict} {reason : String} (fixed : verdict.swap = verdict) :
    MetricMirrored (undecided objective sa sb verdict reason)
      (undecided objective sb sa verdict reason) :=
  ⟨fixed.symm, rfl, rfl, rfl, rfl, rfl, rfl⟩

theorem weigh_mirrored [IsStrictOrderedRing K] (differences : List K) :
    MetricMirrored (weigh outside objective sa sb k differences)
      (weigh outside objective sb sa k (differences.map fun difference => -difference)) := by
  unfold weigh
  simp only [List.length_map, mean_neg, variance_neg]
  by_cases two : 2 ≤ differences.length
  · simp only [if_pos two]
    by_cases few : differences.length < minReplicates
    · simp only [if_pos few]
      exact ⟨rfl, rfl, rfl, rfl, rfl, rfl, rfl⟩
    · simp only [if_neg few]
      refine ⟨judged_neg ?_, rfl, rfl, rfl, rfl, rfl, rfl⟩
      exact le_max_of_le_left objective.minEffect.property
  · simp only [if_neg two]
    exact ⟨rfl, rfl, rfl, rfl, rfl, rfl, rfl⟩

/-! ## What a verdict returns -/

variable {a b : CandidateRuns J K} {comparable comparable' : Comparability}

/-- A side's summary, if it is present, has one value for each of its replicates. -/
def Valued (candidate : CandidateRuns J K) (summary : Option (MetricSummary K)) : Prop :=
  ∀ present, presentOf summary = some present →
    present.2.length = candidate.replicates.length

/-- What `verdict` returns where the sides are paired. -/
def verdictOf (outside : Outside J E K) (objective : ObjectiveMetric K) (a b : CandidateRuns J K)
    (sa sb : Option (MetricSummary K)) (k : K) (comparable : Comparability) :
    MetricComparison K :=
  if comparable.comparable = false then
    undecided objective sa sb .notComparable "the pair fails C1-C4"
  else if objective.metric ∈ timeMetrics ∧ comparable.timingEnvironment = none then
    undecided objective sa sb .notComparable
      "time is compared only under one declared timing environment"
  else
    match presentOf sa, presentOf sb with
    | some presentA, some presentB =>
        if presentA.1 ≠ presentB.1 then
          undecided objective sa sb .notComparable "the sides report different units"
        else weigh outside objective sa sb k (differencesOf objective.direction
          (valuesBySeed a presentA.2) (valuesBySeed b presentB.2))
    | _, _ => undecided objective sa sb .notComparable "the metric is absent on a side"

theorem verdict_eq (valued : Valued a sa) (valued' : Valued b sb)
    (paired : comparable.comparable = true → a.seeds.toFinset = b.seeds.toFinset) :
    verdict outside objective a b sa sb k comparable =
      .ok (verdictOf outside objective a b sa sb k comparable) := by
  unfold verdict verdictOf
  dsimp only
  by_cases failed : comparable.comparable = false
  · rw [if_pos failed, if_pos failed]
  · rw [if_neg failed, if_neg failed]
    by_cases untimed : objective.metric ∈ timeMetrics ∧ comparable.timingEnvironment = none
    · rw [if_pos untimed, if_pos untimed]
    · rw [if_neg untimed, if_neg untimed]
      cases isA : presentOf sa with
      | none => rfl
      | some presentA =>
          cases isB : presentOf sb with
          | none => rfl
          | some presentB =>
              have seeds := paired (Bool.eq_true_of_not_eq_false failed)
              rw [← seedsOf_valuesBySeed (valued presentA isA),
                ← seedsOf_valuesBySeed (valued' presentB isB)] at seeds
              dsimp only
              rw [mapM_differenceAt seeds]
              by_cases units : presentA.1 = presentB.1
              · rw [if_neg (not_not.mpr units), if_neg (not_not.mpr units)]
                rfl
              · rw [if_pos units, if_pos units]

theorem verdictOf_mirrored [IsStrictOrderedRing K] (valued : Valued a sa) (valued' : Valued b sb)
    (paired : comparable.comparable = true → a.seeds.toFinset = b.seeds.toFinset)
    (same : comparable'.comparable = comparable.comparable)
    (timing : comparable'.timingEnvironment = comparable.timingEnvironment) :
    MetricMirrored (verdictOf outside objective a b sa sb k comparable)
      (verdictOf outside objective b a sb sa k comparable') := by
  have refused : ∀ reason : String,
      MetricMirrored (undecided objective sa sb .notComparable reason)
        (undecided objective sb sa .notComparable reason) :=
    fun reason => undecided_mirrored rfl
  unfold verdictOf
  rw [same, timing]
  by_cases failed : comparable.comparable = false
  · rw [if_pos failed, if_pos failed]
    exact refused _
  · rw [if_neg failed, if_neg failed]
    by_cases untimed : objective.metric ∈ timeMetrics ∧ comparable.timingEnvironment = none
    · rw [if_pos untimed, if_pos untimed]
      exact refused _
    · rw [if_neg untimed, if_neg untimed]
      cases isA : presentOf sa with
      | none => cases presentOf sb <;> exact refused _
      | some presentA =>
          cases isB : presentOf sb with
          | none => exact refused _
          | some presentB =>
              have seeds := paired (Bool.eq_true_of_not_eq_false failed)
              rw [← seedsOf_valuesBySeed (valued presentA isA),
                ← seedsOf_valuesBySeed (valued' presentB isB)] at seeds
              dsimp only
              by_cases units : presentA.1 = presentB.1
              · rw [if_neg (not_not.mpr units), if_neg (not_not.mpr units.symm),
                  differencesOf_swap seeds]
                exact weigh_mirrored _
              · rw [if_pos units, if_pos (Ne.symm units)]
                exact refused _

theorem weigh_zeros {differences : List K} [IsStrictOrderedRing K]
    (zeros : ∀ difference ∈ differences, difference = 0) :
    (weigh outside objective sa sb k differences).verdict = .inconclusive := by
  have still : ∀ threshold : K, 0 ≤ threshold →
      judged (mean differences) threshold = .inconclusive := by
    intro threshold nonneg
    rw [mean_zeros zeros]
    unfold judged
    rw [neg_zero, if_neg (not_lt.mpr nonneg), if_neg (not_lt.mpr nonneg)]
  unfold weigh
  dsimp only
  split
  · rfl
  · split
    · rfl
    · exact still _ (le_max_of_le_left objective.minEffect.property)

/-- A candidate compared with itself. -/
theorem verdictOf_self [IsStrictOrderedRing K] :
    (verdictOf outside objective a a sa sa k comparable).verdict ≠ .favorsA ∧
      (verdictOf outside objective a a sa sa k comparable).verdict ≠ .favorsB := by
  have undirected : ∀ metric : MetricComparison K,
      metric.verdict = .notComparable ∨ metric.verdict = .inconclusive →
        metric.verdict ≠ .favorsA ∧ metric.verdict ≠ .favorsB := by
    rintro metric (is | is) <;> rw [is] <;> exact ⟨nofun, nofun⟩
  apply undirected
  unfold verdictOf
  split
  · exact .inl rfl
  · split
    · exact .inl rfl
    · split
      · next isA isB =>
          rw [isA] at isB
          cases isB
          rw [if_neg (not_not.mpr rfl)]
          exact .inr (weigh_zeros differencesOf_self)
      · exact .inl rfl

end Exact

/-! ## Task outcomes -/

section Outcomes

variable [LinearOrder K] {left right : List ((Int × String) × Option K)} {a b : CandidateRuns J K}

theorem outcome_swap (key : Int × String) :
    outcome right left key = (outcome left right key).swap := by
  unfold outcome
  cases (lastOf key left).join with
  | none => cases (lastOf key right).join <;> rfl
  | some x =>
      cases (lastOf key right).join with
      | none => rfl
      | some y =>
          dsimp only
          rcases lt_trichotomy x y with below | rfl | above
          · rw [if_pos below, if_neg (lt_asymm below), if_pos below]
            rfl
          · rw [if_neg (lt_irrefl x), if_neg (lt_irrefl x)]
            rfl
          · rw [if_neg (lt_asymm above), if_pos above, if_pos above]
            rfl

theorem countOf_swap (kind : Outcome) : countOf right left kind = countOf left right kind.swap := by
  unfold countOf
  rw [List.map_append, List.map_append, toFinset_append_comm]
  congr 1
  apply Finset.filter_congr
  intro key _
  rw [outcome_swap]
  constructor
  · rintro rfl
    exact (Outcome.swap_swap _).symm
  · intro same
    rw [same, Outcome.swap_swap]

theorem taskOutcomes_swap : taskOutcomes b a = (taskOutcomes a b).map TaskOutcomeCounts.swap := by
  unfold taskOutcomes
  dsimp only
  by_cases empty : (scores a).isEmpty ∨ (scores b).isEmpty
  · rw [if_pos empty, if_pos empty.symm]
    rfl
  · rw [if_neg empty, if_neg fun empty' => empty empty'.symm]
    have counted : ∀ kind, countOf (scores b) (scores a) kind =
        countOf (scores a) (scores b) kind.swap := fun kind => countOf_swap kind
    rw [counted, counted, counted, counted]
    rfl

end Outcomes

end Xaytune.Comparison
