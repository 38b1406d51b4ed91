import Xaytune.Comparison.Report
import Xaytune.Library.Reports

/-!
# When two candidates are comparable

The four conditions are gathered as reasons that name the sides; no reason is found exactly where
a relation holds that reads both candidates alike. The comparison key and the timing environment
are read off both of them too.
-/

namespace Xaytune.Comparison

open Xaytune.Library

variable {J E K : Type}

/-! ## Sets -/

section Sets

variable {α : Type} [DecidableEq α] {items others : List α} {item : α}

theorem sole?_eq_some_iff : sole? items = some item ↔ items.toFinset = {item} := by
  have asList : items.toFinset = {item} ↔ items.dedup = [item] := by
    rw [← Finset.val_inj, List.toFinset_val, Finset.singleton_val, ← Multiset.coe_singleton,
      Multiset.coe_eq_coe, List.perm_singleton]
  rw [asList]
  unfold sole?
  split
  · next only same => rw [same, Option.some.injEq, List.cons.injEq, and_iff_left rfl]
  · next several =>
      constructor
      · intro found
        cases found
      · intro same
        exact absurd same (several item)

theorem sole?_congr (same : items.toFinset = others.toFinset) : sole? items = sole? others := by
  ext item
  rw [sole?_eq_some_iff, sole?_eq_some_iff, same]

theorem toFinset_card_eq_length : items.toFinset.card = items.length ↔ items.Nodup := by
  rw [List.card_toFinset]
  constructor
  · intro same
    rw [← (List.dedup_sublist items).eq_of_length same]
    exact List.nodup_dedup items
  · intro once
    rw [List.dedup_eq_self.mpr once]

theorem toFinset_append_comm : (items ++ others).toFinset = (others ++ items).toFinset := by
  rw [List.toFinset_append, List.toFinset_append, Finset.union_comm]

end Sets

theorem forall_sides {α : Type} {a b : List α} (holds : α → Prop) :
    (∀ sided ∈ sides a b, holds sided.2) ↔ ∀ item ∈ a ++ b, holds item := by
  unfold sides
  simp only [List.forall_mem_append, List.forall_mem_map]

/-! ## The conditions -/

section Conditions

variable (outside : Outside J E K) (suite : ResolvedBenchmarkSuite) (a b : CandidateRuns J K)

def replicatesOf : List (ReplicateRuns K) := a.replicates ++ b.replicates

def evaluationsOf : List (EvaluationSpec J) := a.evaluations ++ b.evaluations

/-- The configuration is one of a harness evaluation. -/
def Parses (spec : EvaluationSpec J) : Prop :=
  ∃ config, outside.parseEvaluationConfig spec.evaluator.config = .ok config

/-- A pinned suite, of the only cohort where there is one. -/
def MeasuresCohort (cohorts : Finset String) (spec : EvaluationSpec J) : Prop :=
  ∃ pinned sampling,
    outside.parseEvaluationConfig spec.evaluator.config = .ok ⟨.ref pinned, sampling⟩ ∧
    (cohorts.card = 1 → benchmarkCohort outside.toBenchmarkHashing pinned sampling ∈ cohorts)

/-- What the suite, the policy and the seed assign. -/
def Verified (replicate : ReplicateRuns K) : Prop :=
  verifyAssignment outside.toBenchmarkHashing suite replicate.evidence.sampling
    replicate.evidence.assignment = []

structure Measured (declared : Finset String) (replicate : ReplicateRuns K) : Prop where
  declared : ∀ result ∈ replicate.results, result.evaluationFingerprint ∈ declared
  subject : ∀ result ∈ replicate.results, result.subjectDigest = replicate.evidence.evidenceDigest

/-- Both candidates, read alike. -/
structure Comparable : Prop where
  oneCohort : (cohorts a b).card = 1
  measured : ∀ spec ∈ evaluationsOf a b, MeasuresCohort outside (cohorts a b) spec
  once : a.seeds.Nodup ∧ b.seeds.Nodup
  paired : a.seeds.toFinset = b.seeds.toFinset
  verified : ∀ replicate ∈ replicatesOf a b, Verified outside suite replicate
  matched : ∀ replicate ∈ a.replicates, ∀ replicate' ∈ b.replicates,
    replicate.evidence.seed = replicate'.evidence.seed →
      replicate.evidence.assignment = replicate'.evidence.assignment
  evaluated : evaluators a = evaluators b
  scored : ∀ spec ∈ evaluationsOf a b, ∀ spec' ∈ evaluationsOf a b,
    spec.evaluator.name = spec'.evaluator.name →
      spec.evaluationFingerprint outside = spec'.evaluationFingerprint outside ∧
        spec.evaluator.determinism = spec'.evaluator.determinism
  results : ∀ replicate ∈ replicatesOf a b, Measured (declared outside a b) replicate
  facets : ∀ replicate ∈ replicatesOf a b, ∀ replicate' ∈ replicatesOf a b,
    facetsOf replicate.evidence.facets = facetsOf replicate'.evidence.facets

variable {outside suite a b}

theorem cohorts_comm : cohorts a b = cohorts b a := by
  unfold cohorts
  rw [List.map_append, List.map_append, toFinset_append_comm]

theorem declared_comm : declared outside a b = declared outside b a := by
  unfold declared
  rw [List.map_append, List.map_append, toFinset_append_comm]

theorem mem_replicatesOf_comm {replicate : ReplicateRuns K} :
    replicate ∈ replicatesOf a b ↔ replicate ∈ replicatesOf b a := by
  unfold replicatesOf
  rw [List.mem_append, List.mem_append, or_comm]

theorem mem_evaluationsOf_comm {spec : EvaluationSpec J} :
    spec ∈ evaluationsOf a b ↔ spec ∈ evaluationsOf b a := by
  unfold evaluationsOf
  rw [List.mem_append, List.mem_append, or_comm]

theorem Comparable.symm (comparable : Comparable outside suite a b) :
    Comparable outside suite b a where
  oneCohort := by rw [cohorts_comm]; exact comparable.oneCohort
  measured := by
    intro spec isSpec
    rw [cohorts_comm]
    exact comparable.measured spec (mem_evaluationsOf_comm.mp isSpec)
  once := comparable.once.symm
  paired := comparable.paired.symm
  verified := fun replicate isOne =>
    comparable.verified replicate (mem_replicatesOf_comm.mp isOne)
  matched := fun replicate isB replicate' isA same =>
    (comparable.matched replicate' isA replicate isB same.symm).symm
  evaluated := comparable.evaluated.symm
  scored := fun spec isSpec spec' isSpec' =>
    comparable.scored spec (mem_evaluationsOf_comm.mp isSpec) spec'
      (mem_evaluationsOf_comm.mp isSpec')
  results := by
    intro replicate isOne
    rw [declared_comm]
    exact comparable.results replicate (mem_replicatesOf_comm.mp isOne)
  facets := fun replicate isOne replicate' isOne' =>
    comparable.facets replicate (mem_replicatesOf_comm.mp isOne) replicate'
      (mem_replicatesOf_comm.mp isOne')

/-! ## No reason is found exactly where they hold -/

theorem measuredSuite_reports (cohorts : Finset String) (side : String)
    {spec : EvaluationSpec J} (parses : Parses outside spec) :
    Reports (measuredSuite outside cohorts side spec) (MeasuresCohort outside cohorts spec) := by
  obtain ⟨config, parsed⟩ := parses
  obtain ⟨choice, sampling⟩ := config
  unfold measuredSuite MeasuresCohort
  rw [parsed]
  cases choice with
  | request suiteId revision =>
      apply reports_ok
      simp
  | ref pinned =>
      dsimp only [bind, Except.bind]
      split
      · next outsideCohort =>
          apply reports_ok
          simp only [List.cons_ne_nil, false_iff]
          rintro ⟨pinned', sampling', same, member⟩
          cases same
          exact outsideCohort.2 (member outsideCohort.1)
      · next inside =>
          apply reports_ok
          simp only [true_iff]
          exact ⟨pinned, sampling, rfl, fun single => by_contra fun missing =>
            inside ⟨single, missing⟩⟩

theorem sameBenchmark_reports (parses : ∀ spec ∈ evaluationsOf a b, Parses outside spec) :
    Reports (sameBenchmark outside a b)
      ((cohorts a b).card = 1 ∧
        ∀ spec ∈ evaluationsOf a b, MeasuresCohort outside (cohorts a b) spec) := by
  obtain ⟨found, ran, iff⟩ := reports_flatten
    fun sided (member : sided ∈ sides a.evaluations b.evaluations) =>
      measuredSuite_reports (cohorts a b) sided.1
        ((forall_sides (Parses outside)).mpr parses sided member)
  obtain ⟨measured, mapped, same⟩ := bind_eq_ok_iff.mp ran
  cases same
  unfold sameBenchmark
  rw [mapped]
  apply reports_ok
  rw [List.append_eq_nil_iff, iff, forall_sides (MeasuresCohort outside (cohorts a b))]
  apply and_congr _ Iff.rfl
  rw [ite_eq_right_iff, imp_iff_not (List.cons_ne_nil _ _), not_not]

theorem repeatedSeed_eq_nil {side : String} {seeds : List Int} :
    repeatedSeed side seeds = [] ↔ seeds.Nodup := by
  unfold repeatedSeed
  rw [ite_eq_right_iff, imp_iff_not (List.cons_ne_nil _ _), not_not, toFinset_card_eq_length]

theorem missingSeeds_eq_nil {seeds seeds' : Finset Int} {reason : Int → String} :
    (seeds \ seeds').sort.map reason = [] ↔ seeds ⊆ seeds' := by
  rw [List.map_eq_nil_iff, ← Finset.sdiff_eq_empty_iff_subset]
  constructor
  · intro none
    have asSet := Finset.sort_toFinset (seeds \ seeds') (· ≤ ·)
    rw [none] at asSet
    exact asSet.symm
  · intro none
    rw [none, Finset.sort_empty]

theorem unverified_eq_nil {side : String} {replicate : ReplicateRuns K} :
    unverified outside suite side replicate = [] ↔ Verified outside suite replicate := by
  unfold unverified
  rw [ite_eq_right_iff, imp_iff_not (List.cons_ne_nil _ _), not_not]
  exact Iff.rfl

theorem unmatched_eq_nil (once : b.seeds.Nodup) {replicate : ReplicateRuns K} :
    unmatched b replicate = [] ↔ ∀ replicate' ∈ b.replicates,
      replicate.evidence.seed = replicate'.evidence.seed →
        replicate.evidence.assignment = replicate'.evidence.assignment := by
  have keys : ((b.replicates.map fun r => (r.evidence.seed, r.evidence)).map Prod.fst).Nodup := by
    rw [List.map_map]
    exact once
  unfold unmatched
  dsimp only
  cases held : lastOf replicate.evidence.seed
      (b.replicates.map fun r => (r.evidence.seed, r.evidence)) with
  | none =>
      simp only [true_iff]
      intro replicate' isOne same
      have nowhere := lastOf_eq_none_iff.mp held
      rw [List.map_map] at nowhere
      exact absurd (List.mem_map.mpr ⟨replicate', isOne, same.symm⟩) nowhere
  | some other =>
      dsimp only
      rw [List.map_eq_nil_iff, assignmentMismatches_eq_nil]
      obtain ⟨partner, isPartner, here⟩ := List.mem_map.mp (mem_of_lastOf held)
      obtain ⟨sameSeed, rfl⟩ := Prod.mk.inj here
      constructor
      · intro same replicate' isOne seed
        have one : partner = replicate' :=
          List.inj_on_of_nodup_map once isPartner isOne (sameSeed.trans seed)
        rw [same, one]
      · intro all
        exact all partner isPartner sameSeed.symm

theorem matchedAssignments_eq_nil : matchedAssignments outside a b suite = [] ↔
    (a.seeds.Nodup ∧ b.seeds.Nodup) ∧ a.seeds.toFinset = b.seeds.toFinset ∧
    (∀ replicate ∈ replicatesOf a b, Verified outside suite replicate) ∧
    ∀ replicate ∈ a.replicates, ∀ replicate' ∈ b.replicates,
      replicate.evidence.seed = replicate'.evidence.seed →
        replicate.evidence.assignment = replicate'.evidence.assignment := by
  unfold matchedAssignments
  simp only [List.append_eq_nil_iff, repeatedSeed_eq_nil, missingSeeds_eq_nil,
    List.flatMap_eq_nil_iff,
    unverified_eq_nil, forall_sides (Verified outside suite), Finset.Subset.antisymm_iff, and_assoc]
  apply and_congr_right
  intro onceA
  apply and_congr_right
  intro onceB
  simp only [unmatched_eq_nil onceB]
  exact Iff.rfl

theorem mem_specsOf {candidate : CandidateRuns J K} {name : String} {spec : EvaluationSpec J} :
    spec ∈ specsOf candidate name ↔
      spec ∈ candidate.evaluations ∧ spec.evaluator.name = name := by
  unfold specsOf
  rw [List.mem_filter, decide_eq_true_eq]

theorem mem_evaluators {candidate : CandidateRuns J K} {name : String} :
    name ∈ evaluators candidate ↔
      ∃ spec ∈ candidate.evaluations, spec.evaluator.name = name := by
  unfold evaluators
  rw [List.mem_toFinset, List.mem_map]

theorem card_eq_one_iff {α β : Type} [DecidableEq β] {items : List α} {read : α → β} {item : α}
    (member : item ∈ items) :
    (items.map read).toFinset.card = 1 ↔ ∀ other ∈ items, read other = read item := by
  rw [Finset.card_eq_one]
  constructor
  · rintro ⟨value, single⟩ other isOther
    have each : ∀ one ∈ items, read one = value := by
      intro one isOne
      rw [← Finset.mem_singleton, ← single, List.mem_toFinset]
      exact List.mem_map_of_mem isOne
    rw [each other isOther, each item member]
  · intro all
    refine ⟨read item, Finset.eq_singleton_iff_unique_mem.mpr ⟨?_, ?_⟩⟩
    · exact List.mem_toFinset.mpr (List.mem_map_of_mem member)
    · intro value isValue
      obtain ⟨other, isOther, rfl⟩ := List.mem_map.mp (List.mem_toFinset.mp isValue)
      exact all other isOther

/-- Both sides have specs of the evaluator; they agree exactly where no reason is found. -/
theorem differentScoring_eq_nil {name : String} (isA : name ∈ evaluators a)
    (isB : name ∈ evaluators b) :
    differentScoring outside a b name = [] ↔
      ∀ spec ∈ evaluationsOf a b, ∀ spec' ∈ evaluationsOf a b, spec.evaluator.name = name →
        spec'.evaluator.name = name →
          spec.evaluationFingerprint outside = spec'.evaluationFingerprint outside ∧
            spec.evaluator.determinism = spec'.evaluator.determinism := by
  obtain ⟨specA, memberA, namedA⟩ := mem_evaluators.mp isA
  obtain ⟨specB, memberB, namedB⟩ := mem_evaluators.mp isB
  have ofA := mem_specsOf.mpr ⟨memberA, namedA⟩
  have ofB := mem_specsOf.mpr ⟨memberB, namedB⟩
  have either : ∀ spec, spec ∈ specsOf a name ++ specsOf b name ↔
      spec ∈ evaluationsOf a b ∧ spec.evaluator.name = name := by
    intro spec
    unfold evaluationsOf
    rw [List.mem_append, mem_specsOf, mem_specsOf, List.mem_append, or_and_right]
  unfold differentScoring
  simp only [List.append_eq_nil_iff, ite_eq_right_iff, imp_iff_not (List.cons_ne_nil _ _),
    not_or, not_not, and_assoc]
  rw [card_eq_one_iff ofA, card_eq_one_iff ofB,
    card_eq_one_iff (List.mem_append_left (specsOf b name) ofA)]
  constructor
  · rintro ⟨allA, allB, samePrints, determinism⟩ spec isSpec spec' isSpec' named named'
    have shared : specA.evaluationFingerprint outside = specB.evaluationFingerprint outside := by
      have inB : specA.evaluationFingerprint outside ∈
          ((specsOf b name).map (·.evaluationFingerprint outside)).toFinset := by
        rw [← samePrints]
        exact List.mem_toFinset.mpr (List.mem_map_of_mem ofA)
      obtain ⟨other, isOther, same⟩ := List.mem_map.mp (List.mem_toFinset.mp inB)
      exact same.symm.trans (allB other isOther)
    have each : ∀ one, one ∈ specsOf a name ++ specsOf b name →
        one.evaluationFingerprint outside = specA.evaluationFingerprint outside := by
      intro one isOne
      rcases List.mem_append.mp isOne with inA | inB
      · exact allA one inA
      · exact (allB one inB).trans shared.symm
    have one := (either spec).mpr ⟨isSpec, named⟩
    have two := (either spec').mpr ⟨isSpec', named'⟩
    exact ⟨(each spec one).trans (each spec' two).symm,
      (determinism spec one).trans (determinism spec' two).symm⟩
  · intro agree
    have both : ∀ one ∈ specsOf a name ++ specsOf b name,
        ∀ two ∈ specsOf a name ++ specsOf b name,
          one.evaluationFingerprint outside = two.evaluationFingerprint outside ∧
            one.evaluator.determinism = two.evaluator.determinism := by
      intro one isOne two isTwo
      obtain ⟨isSpec, named⟩ := (either one).mp isOne
      obtain ⟨isSpec', named'⟩ := (either two).mp isTwo
      exact agree one isSpec two isSpec' named named'
    have left := fun one (isOne : one ∈ specsOf a name) =>
      List.mem_append_left (specsOf b name) isOne
    have right := fun one (isOne : one ∈ specsOf b name) =>
      List.mem_append_right (specsOf a name) isOne
    refine ⟨?_, ?_, ?_, ?_⟩
    · exact fun one isOne => (both one (left one isOne) specA (left specA ofA)).1
    · exact fun one isOne => (both one (right one isOne) specB (right specB ofB)).1
    · have sameA : ∀ spec ∈ specsOf a name ++ specsOf b name,
          spec.evaluationFingerprint outside = specA.evaluationFingerprint outside :=
        fun spec isSpec => (both spec isSpec specA (left specA ofA)).1
      ext print
      simp only [List.mem_toFinset, List.mem_map]
      constructor
      · rintro ⟨one, isOne, rfl⟩
        exact ⟨specB, ofB, (sameA specB (right specB ofB)).trans (sameA one (left one isOne)).symm⟩
      · rintro ⟨one, isOne, rfl⟩
        exact ⟨specA, ofA, (sameA one (right one isOne)).symm⟩
    · exact fun one isOne => (both one isOne specA (left specA ofA)).2

theorem undeclared_eq_nil {prints : Finset String} {side : String}
    {replicate : ReplicateRuns K} :
    replicate.results.flatMap (undeclared prints side replicate.evidence.evidenceDigest) = [] ↔
      Measured prints replicate := by
  have each : ∀ result : EvaluationResult K,
      undeclared prints side replicate.evidence.evidenceDigest result = [] ↔
        result.evaluationFingerprint ∈ prints ∧
          result.subjectDigest = replicate.evidence.evidenceDigest := by
    intro result
    unfold undeclared
    simp only [List.append_eq_nil_iff, ite_eq_right_iff, imp_iff_not (List.cons_ne_nil _ _),
      ne_eq, not_not]
  rw [List.flatMap_eq_nil_iff]
  simp only [each]
  constructor
  · intro all
    exact ⟨fun result isOne => (all result isOne).1, fun result isOne => (all result isOne).2⟩
  · intro measured result isOne
    exact ⟨measured.declared result isOne, measured.subject result isOne⟩

theorem sameScoring_eq_nil : sameScoring outside a b = [] ↔
    evaluators a = evaluators b ∧
    (∀ spec ∈ evaluationsOf a b, ∀ spec' ∈ evaluationsOf a b,
      spec.evaluator.name = spec'.evaluator.name →
        spec.evaluationFingerprint outside = spec'.evaluationFingerprint outside ∧
          spec.evaluator.determinism = spec'.evaluator.determinism) ∧
    ∀ replicate ∈ replicatesOf a b, Measured (declared outside a b) replicate := by
  have measured : ((sides a.replicates b.replicates).flatMap fun sided =>
      sided.2.results.flatMap
        (undeclared (declared outside a b) sided.1 sided.2.evidence.evidenceDigest)) = [] ↔
      ∀ replicate ∈ replicatesOf a b, Measured (declared outside a b) replicate := by
    rw [List.flatMap_eq_nil_iff]
    simp only [undeclared_eq_nil]
    exact forall_sides (Measured (declared outside a b))
  unfold sameScoring
  rw [List.append_eq_nil_iff, measured]
  simp only [List.append_eq_nil_iff, ite_eq_right_iff, imp_iff_not (List.cons_ne_nil _ _),
    ne_eq, not_not, List.flatMap_eq_nil_iff, Finset.mem_sort, Finset.mem_inter, and_imp,
    and_assoc]
  apply and_congr_right
  intro evaluated
  apply and_congr _ Iff.rfl
  have named : ∀ spec ∈ evaluationsOf a b,
      spec.evaluator.name ∈ evaluators a ∧ spec.evaluator.name ∈ evaluators b := by
    intro spec isSpec
    rcases List.mem_append.mp isSpec with isA | isB
    · have inA := mem_evaluators.mpr ⟨spec, isA, rfl⟩
      exact ⟨inA, evaluated ▸ inA⟩
    · have inB := mem_evaluators.mpr ⟨spec, isB, rfl⟩
      exact ⟨evaluated ▸ inB, inB⟩
  constructor
  · intro none spec isSpec spec' isSpec' same
    obtain ⟨inA, inB⟩ := named spec isSpec
    exact (differentScoring_eq_nil inA inB).mp (none _ inA inB) spec isSpec spec' isSpec' rfl
      same.symm
  · intro agree name inA inB
    rw [differentScoring_eq_nil inA inB]
    intro spec isSpec spec' isSpec' here here'
    exact agree spec isSpec spec' isSpec' (here.trans here'.symm)

theorem facetsOf_eq_iff {facets facets' : ExecutionFacets} (any : ExecutionFacets) :
    facetsOf facets = facetsOf facets' ↔ ∀ name ∈ (facetsOf any).map Prod.fst,
      (facetsOf facets).lookup name = (facetsOf facets').lookup name := by
  constructor
  · intro same name _
    rw [same]
  · intro each
    have keys : (facetsOf facets).map Prod.fst = (facetsOf facets').map Prod.fst := rfl
    apply entries_ext keys _ each
    change ["compiler_name", "compiler_version", "container", "dependencies", "entrypoint",
      "recording", "resources", "runner_name", "runner_version", "token_counter"].Nodup
    decide

theorem differentFacet_eq_nil {name : String} : differentFacet a b name = [] ↔
    ∀ replicate ∈ replicatesOf a b, ∀ replicate' ∈ replicatesOf a b,
      (facetsOf replicate.evidence.facets).lookup name =
        (facetsOf replicate'.evidence.facets).lookup name := by
  unfold differentFacet
  rw [ite_eq_right_iff, imp_iff_not (List.cons_ne_nil _ _), not_lt, Finset.card_le_one]
  simp only [List.mem_toFinset, List.forall_mem_map]
  exact Iff.rfl

theorem sameConditions_eq_nil : sameConditions a b = [] ↔
    ∀ replicate ∈ replicatesOf a b, ∀ replicate' ∈ replicatesOf a b,
      facetsOf replicate.evidence.facets = facetsOf replicate'.evidence.facets := by
  unfold sameConditions
  cases both : a.replicates ++ b.replicates with
  | nil => exact absurd (List.append_eq_nil_iff.mp both).1 a.replicated
  | cons first rest =>
      simp only [List.flatMap_eq_nil_iff, differentFacet_eq_nil,
        facetsOf_eq_iff first.evidence.facets]
      constructor
      · intro each replicate isOne replicate' isOne' name isName
        exact each name isName replicate isOne replicate' isOne'
      · intro each name isName replicate isOne replicate' isOne'
        exact each replicate isOne replicate' isOne' name isName

/-! ## What is found -/

/-- The shared timing environment, of every run of both. -/
def timingOf (a b : CandidateRuns J K) : Option String :=
  (sole? ((replicatesOf a b).map fun r => r.evidence.facets.timingEnvironment)).join

/-- What the key of two comparable candidates is a digest of. -/
def identityOf (outside : Outside J E K) (a b : CandidateRuns J K) (rule : String) :
    ComparisonIdentity where
  cohort := (sole? ((replicatesOf a b).map fun r => r.evidence.assignment.cohort)).getD ""
  evaluationFingerprints := (declared outside a b).sort
  facets := ((replicatesOf a b).head?.map fun r => facetsOf r.evidence.facets).getD []
  timingEnvironment := timingOf a b
  seeds := a.seeds.insertionSort (· ≤ ·)
  rule := rule

structure Finds (outside : Outside J E K) (suite : ResolvedBenchmarkSuite)
    (a b : CandidateRuns J K) (rule : String) (found : Comparability) : Prop where
  iff : found.comparable = true ↔ Comparable outside suite a b
  key : found.comparisonKey =
    if found.comparable then some (outside.comparison (identityOf outside a b rule)) else none
  timing : found.timingEnvironment = timingOf a b

theorem eraseDups_eq_nil {α : Type} [DecidableEq α] {items : List α} :
    items.eraseDups = [] ↔ items = [] := by
  cases items with
  | nil => simp
  | cons item items => simp [List.eraseDups_cons]

theorem comparability_finds (suite : ResolvedBenchmarkSuite) (rule : String)
    (parses : ∀ spec ∈ evaluationsOf a b, Parses outside spec) :
    ∃ found, comparability outside a b suite rule = .ok found ∧
      Finds outside suite a b rule found := by
  obtain ⟨c1, ran, iff⟩ := sameBenchmark_reports parses
  have clean : c1 ++ matchedAssignments outside a b suite ++ sameScoring outside a b ++
      sameConditions a b = [] ↔ Comparable outside suite a b := by
    simp only [List.append_eq_nil_iff, iff, matchedAssignments_eq_nil, sameScoring_eq_nil,
      sameConditions_eq_nil]
    constructor
    · rintro ⟨⟨⟨⟨oneCohort, measured⟩, once, paired, verified, matched⟩, evaluated, scored,
        results⟩, facets⟩
      exact ⟨oneCohort, measured, once, paired, verified, matched, evaluated, scored, results,
        facets⟩
    · intro comparable
      exact ⟨⟨⟨⟨comparable.oneCohort, comparable.measured⟩, comparable.once, comparable.paired,
        comparable.verified, comparable.matched⟩, comparable.evaluated, comparable.scored,
        comparable.results⟩, comparable.facets⟩
  unfold comparability
  rw [ran]
  dsimp only [bind, Except.bind]
  by_cases reasons : (c1 ++ matchedAssignments outside a b suite ++ sameScoring outside a b ++
      sameConditions a b).eraseDups = []
  · rw [if_neg (not_not.mpr reasons)]
    refine ⟨_, rfl, ?_, rfl, rfl⟩
    simp only [true_iff]
    exact clean.mp (eraseDups_eq_nil.mp reasons)
  · rw [if_pos reasons]
    refine ⟨_, rfl, ?_, rfl, rfl⟩
    simp only [Bool.false_eq_true, false_iff]
    intro comparable
    exact reasons (eraseDups_eq_nil.mpr (clean.mpr comparable))

theorem comparability_invalid (suite : ResolvedBenchmarkSuite) (rule : String)
    {spec : EvaluationSpec J}
    (isOne : spec ∈ evaluationsOf a b) (unparsed : ¬ Parses outside spec) :
    ∃ error, comparability outside a b suite rule = .error error := by
  cases ran : comparability outside a b suite rule with
  | error error => exact ⟨error, rfl⟩
  | ok found =>
      obtain ⟨c1, first, _⟩ := bind_eq_ok_iff.mp ran
      obtain ⟨measured, mapped, _⟩ := bind_eq_ok_iff.mp first
      obtain ⟨side, sided⟩ : ∃ side, (side, spec) ∈ sides a.evaluations b.evaluations := by
        unfold sides
        rcases List.mem_append.mp isOne with isA | isB
        · exact ⟨"A", List.mem_append_left _ (List.mem_map_of_mem isA)⟩
        · exact ⟨"B", List.mem_append_right _ (List.mem_map_of_mem isB)⟩
      obtain ⟨reasons, _, each⟩ := exists_of_forall₂ (mapM_eq_ok_iff.mp mapped) sided
      obtain ⟨config, parsed, _⟩ := bind_eq_ok_iff.mp each
      exact absurd ⟨config, parsed⟩ unparsed

end Conditions

end Xaytune.Comparison
