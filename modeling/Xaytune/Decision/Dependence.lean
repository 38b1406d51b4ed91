import Xaytune.Library.Fallible
import Mathlib.Data.Option.Basic
import Mathlib.Data.String.Basic
import Xaytune.Decision.Threshold

/-!
# What a decision depends on

A proposal is a function of the comparisons gathered, and these read one measurement of each
metric the objective names. Two contexts with the same measurements of these metrics, in any
arrangement, are decided alike.
-/

namespace Xaytune.Decision

open Xaytune.Library Xaytune.Core Search

variable {F D R : Type} {floats : FloatOperations F} {printing : Printing F}
  {context context' : DecisionContext floats D R}

/-! ## Finite inputs -/

section

attribute [local simp] allFinite everyFinite entriesFinite

theorem everyFinite_iff {arithmetic : FloatArithmetic F} {items : List (Value F)} :
    everyFinite arithmetic items = true ↔ ∀ item ∈ items, allFinite arithmetic item = true := by
  induction items with
  | nil => simp [everyFinite]
  | cons item items ih => simp [everyFinite, ih]

theorem allFinite_record {arithmetic : FloatArithmetic F} {entries : List (String × Value F)} :
    allFinite arithmetic (record entries) = true ↔
      ∀ entry ∈ entries, allFinite arithmetic entry.2 = true := by
  rw [record, allFinite]
  induction entries with
  | nil => simp [entriesFinite]
  | cons entry entries ih => simp [entriesFinite, ih]

end

@[simp] theorem allFinite_ofText {arithmetic : FloatArithmetic F} (letters : String) :
    allFinite arithmetic (ofText letters) = true := by
  rw [ofText, allFinite]
  all_goals simp

theorem allFinite_optional {α : Type} {arithmetic : FloatArithmetic F} {value : α → Value F}
    {given : Option α} (each : ∀ one ∈ given, allFinite arithmetic (value one) = true) :
    allFinite arithmetic (optional value given) = true := by
  cases given with
  | none => rw [optional, allFinite] <;> simp
  | some one => exact each one rfl

theorem metricIdentity_finite (metric : MetricResult floats D) :
    allFinite floats.arithmetic (metricIdentity metric) = true := by
  rw [metricIdentity, allFinite_record]
  simp only [List.forall_mem_cons, allFinite_ofText, List.not_mem_nil, false_imp_iff,
    implies_true, and_true, true_and]
  refine ⟨metric.value.property, ?_, ?_, ?_, ?_, ?_, ?_⟩
  · exact allFinite_optional fun _ _ => allFinite_ofText _
  · exact allFinite_optional fun _ _ => allFinite_ofText _
  · exact allFinite_optional fun _ _ => by simp [allFinite]
  · exact allFinite_optional fun _ _ => by simp [allFinite]
  · refine allFinite_optional fun bounds _ => ?_
    simp only [allFinite, everyFinite, Bool.and_true, Bool.and_eq_true]
    exact ⟨bounds.1.property, bounds.2.property⟩
  · exact allFinite_optional fun error _ => error.property

theorem everyFinite_sorted {arithmetic : FloatArithmetic F} {items : List (Value F)}
    (each : ∀ item ∈ items, allFinite arithmetic item = true) :
    allFinite arithmetic (.seq (sortedByDump printing items)) = true := by
  rw [allFinite, everyFinite_iff]
  intro item member
  exact each item ((List.perm_insertionSort _ items).mem_iff.mp member)

theorem resultIdentity_finite (result : EvaluationResult floats D R) :
    allFinite floats.arithmetic (resultIdentity printing result) = true := by
  rw [resultIdentity, allFinite_record]
  simp only [List.forall_mem_cons, allFinite_ofText, List.not_mem_nil, false_imp_iff,
    implies_true, and_true, true_and]
  constructor
  · rw [allFinite_record]
    simp only [List.forall_mem_cons, allFinite_ofText, List.not_mem_nil, false_imp_iff,
      implies_true, and_true, true_and]
    exact allFinite_optional fun _ _ => allFinite_ofText _
  · apply everyFinite_sorted
    intro item member
    obtain ⟨metric, _, rfl⟩ := List.mem_map.mp member
    exact metricIdentity_finite metric

/-- Every threshold of the objective is finite. -/
def Objective.Finite (floats : FloatOperations F) (objective : Objective F) : Prop :=
  (∀ target ∈ objective.target, floats.finite target = true) ∧
    ∀ constraint ∈ objective.constraints, floats.finite constraint.value = true

theorem identity_finite (finite : context.objective.Finite floats) :
    allFinite floats.arithmetic (decisionInputIdentityV1 printing context) = true := by
  rw [decisionInputIdentityV1, allFinite_record]
  simp only [List.forall_mem_cons, allFinite_ofText, List.not_mem_nil, false_imp_iff,
    implies_true, and_true, true_and]
  refine ⟨by simp [allFinite], by simp [allFinite], ?_, ?_⟩
  · rw [objectiveIdentity, allFinite_record]
    simp only [List.forall_mem_cons, List.not_mem_nil, false_imp_iff, implies_true, and_true]
    refine ⟨?_, ?_, ?_⟩
    · simp [allFinite_record]
    · exact allFinite_optional finite.1
    · apply everyFinite_sorted
      intro item member
      obtain ⟨constraint, isOne, rfl⟩ := List.mem_map.mp member
      rw [constraintIdentity, allFinite_record]
      simp only [List.forall_mem_cons, allFinite_ofText, List.not_mem_nil, false_imp_iff,
        implies_true, and_true, true_and]
      exact finite.2 constraint isOne
  · rw [allFinite, everyFinite_iff]
    intro item member
    obtain ⟨result, _, rfl⟩ := List.mem_map.mp member
    exact resultIdentity_finite result

/-- What `input_fingerprint` hashes the identity to, where it can be encoded. -/
def fingerprintOf (printing : Printing F) (floats : FloatOperations F) (identity : Value F) :
    String :=
  "sha256:" ++ printing.sha256 (encode floats.arithmetic.repr identity)

theorem inputFingerprint_eq (finite : context.objective.Finite floats) :
    inputFingerprint printing context =
      some (fingerprintOf printing floats (decisionInputIdentityV1 printing context)) := by
  rw [inputFingerprint, Search.canonicalEncode, if_pos (identity_finite finite)]
  rfl

/-! ## What is gathered -/

theorem mem_wanted {objective : Objective F} {name : String} :
    name ∈ wanted objective ↔
      name = objective.primary.name ∨ ∃ constraint ∈ objective.constraints,
        constraint.name = name := by
  simp [wanted]

theorem locate_eq_ok_iff {name : String} {measured : Measurement floats D R} :
    locate printing context name = .ok measured ↔
      measurements context.results name = [measured] := by
  unfold locate
  split
  · next nothing => simp [nothing]
  · next only found => simp [found]
  · next located notNone notOne =>
      constructor
      · intro same
        cases same
      · intro one
        exact absurd one (notOne measured)

theorem locateEach_reasons {names : List String} :
    (locateEach printing context names).2 = [] ↔
      ∀ name ∈ names, ∃ measured, measurements context.results name = [measured] := by
  induction names with
  | nil => simp [locateEach]
  | cons name names ih =>
      rw [List.forall_mem_cons, ← ih, locateEach]
      cases located : locate printing context name with
      | ok measured =>
          have one := locate_eq_ok_iff.mp located
          simp [one]
      | error reason =>
          have notOne : ¬ ∃ measured, measurements context.results name = [measured] := by
            rintro ⟨measured, one⟩
            rw [locate_eq_ok_iff.mpr one] at located
            cases located
          simp [notOne]

theorem locateEach_lookup {names : List String} {name : String} (member : name ∈ names)
    {measured : Measurement floats D R} (one : measurements context.results name = [measured]) :
    (locateEach printing context names).1.lookup name = some measured := by
  induction names with
  | nil => cases member
  | cons first names ih =>
      rw [locateEach]
      by_cases same : name = first
      · subst same
        rw [locate_eq_ok_iff.mpr one]
        simp
      · have later := ih ((List.mem_cons.mp member).resolve_left same)
        cases locate printing context first with
        | ok located =>
            simp only [List.lookup_cons, beq_eq_false_iff_ne.mpr same]
            exact later
        | error reason => exact later

/-- The comparison of the metric's only measurement with the threshold. -/
def Compared (context : DecisionContext floats D R) (role : Role) (name : String)
    (operator : ConstraintOperator) (threshold : F) (evidence : MetricEvidence floats) : Prop :=
  ∃ measured, measurements context.results name = [measured] ∧
    evidenceOf role name operator threshold measured = .ok evidence

def ComparedConstraint (context : DecisionContext floats D R) (constraint : MetricConstraint F)
    (evidence : MetricEvidence floats) : Prop :=
  Compared context .constraint constraint.name constraint.operator constraint.value evidence

def ComparedTarget (context : DecisionContext floats D R) (target : F)
    (evidence : MetricEvidence floats) : Prop :=
  Compared context .objective context.objective.primary.name
    (targetOperator context.objective.primary.direction) target evidence

/-- What `gather` returns, if it does. -/
structure Gathered (context : DecisionContext floats D R) (target : Option (MetricEvidence floats))
    (constraints : List (MetricEvidence floats)) : Prop where
  primary : ∃ measured,
    measurements context.results context.objective.primary.name = [measured]
  constraints : List.Forall₂ (ComparedConstraint context) context.objective.constraints constraints
  target : Option.Rel (ComparedTarget context) context.objective.target target

theorem evidenceFound_iff {names : List String} {role : Role} {name : String}
    {operator : ConstraintOperator} {threshold : F} {evidence : MetricEvidence floats}
    (all : ∀ name ∈ names, ∃ measured, measurements context.results name = [measured])
    (member : name ∈ names) :
    evidenceFound (locateEach printing context names).1 role name operator threshold =
      .ok evidence ↔ Compared context role name operator threshold evidence := by
  obtain ⟨measured, one⟩ := all name member
  rw [evidenceFound, locateEach_lookup member one]
  constructor
  · intro made
    exact ⟨measured, one, made⟩
  · rintro ⟨other, alsoOne, made⟩
    obtain rfl : measured = other := by
      rw [one] at alsoOne
      exact (List.cons.inj alsoOne).1
    exact made

variable {target : Option (MetricEvidence floats)} {constraints : List (MetricEvidence floats)}

theorem all_located (gathered : Gathered context target constraints) :
    ∀ name ∈ wanted context.objective,
      ∃ measured, measurements context.results name = [measured] := by
  intro name member
  rcases mem_wanted.mp member with rfl | ⟨constraint, isOne, rfl⟩
  · exact gathered.primary
  · obtain ⟨_, _, measured, one, _⟩ := exists_of_forall₂ gathered.constraints isOne
    exact ⟨measured, one⟩

theorem compareFound_iff {names : List String} {objective : Objective F}
    (all : ∀ name ∈ names, ∃ measured, measurements context.results name = [measured])
    (primary : objective.primary.name ∈ names)
    (named : ∀ constraint ∈ objective.constraints, constraint.name ∈ names) :
    compareFound (locateEach printing context names).1 objective = .ok (target, constraints) ↔
      List.Forall₂ (ComparedConstraint context) objective.constraints constraints ∧
        Option.Rel (Compared context .objective objective.primary.name
          (targetOperator objective.primary.direction)) objective.target target := by
  have ofConstraints : ∀ made, (objective.constraints.mapM fun constraint =>
        evidenceFound (locateEach printing context names).1 .constraint constraint.name
          constraint.operator constraint.value) = .ok made ↔
      List.Forall₂ (ComparedConstraint context) objective.constraints made := by
    intro made
    rw [mapM_eq_ok_iff]
    apply forall₂_of_mem_iff
    intro constraint member evidence
    exact evidenceFound_iff all (named constraint member)
  have ofTarget : ∀ made, compareTarget (locateEach printing context names).1 objective =
        .ok made ↔ Option.Rel (Compared context .objective objective.primary.name
          (targetOperator objective.primary.direction)) objective.target made := by
    intro made
    rw [compareTarget]
    cases objective.target with
    | none =>
        constructor
        · intro same
          cases same
          exact .none
        · intro related
          cases related
          rfl
    | some threshold =>
        constructor
        · intro ran
          obtain ⟨evidence, found, same⟩ := bind_eq_ok_iff.mp ran
          cases same
          exact .some ((evidenceFound_iff all primary).mp found)
        · intro related
          cases related with
          | some compared =>
              exact bind_eq_ok_iff.mpr ⟨_, (evidenceFound_iff all primary).mpr compared, rfl⟩
  rw [compareFound, bind_eq_ok_iff]
  constructor
  · rintro ⟨made, ran, rest⟩
    obtain ⟨found, compared, same⟩ := bind_eq_ok_iff.mp rest
    cases same
    exact ⟨(ofConstraints _).mp ran, (ofTarget _).mp compared⟩
  · rintro ⟨each, related⟩
    exact ⟨constraints, (ofConstraints _).mpr each,
      bind_eq_ok_iff.mpr ⟨target, (ofTarget _).mpr related, rfl⟩⟩

theorem gather_eq_ok_iff {engine : Engine} :
    gather printing engine context = .ok (target, constraints) ↔
      Gathered context target constraints := by
  have clean : (locateEach printing context (wanted context.objective)).2 = [] ↔ _ :=
    locateEach_reasons
  have found : (∀ name ∈ wanted context.objective,
        ∃ measured, measurements context.results name = [measured]) →
      (compareFound (locateEach printing context (wanted context.objective)).1 context.objective =
        .ok (target, constraints) ↔ Gathered context target constraints) := by
    intro all
    have primary : context.objective.primary.name ∈ wanted context.objective :=
      mem_wanted.mpr (.inl rfl)
    rw [compareFound_iff all primary fun constraint member =>
      mem_wanted.mpr (.inr ⟨constraint, member, rfl⟩)]
    constructor
    · rintro ⟨each, related⟩
      exact ⟨all _ primary, each, related⟩
    · intro gathered
      exact ⟨gathered.constraints, gathered.target⟩
  unfold gather
  generalize locateEach printing context (wanted context.objective) = located at clean found ⊢
  obtain ⟨foundOnes, reasons⟩ := located
  cases reasons with
  | nil => exact found (clean.mp rfl)
  | cons reason reasons =>
      constructor
      · intro gathered
        cases gathered
      · intro gathered
        cases clean.mpr (all_located gathered)

theorem finite_of_evidenceOf {role : Role} {name : String} {operator : ConstraintOperator}
    {threshold : F} {measured : Measurement floats D R} {evidence : MetricEvidence floats}
    (made : evidenceOf role name operator threshold measured = .ok evidence) :
    floats.finite threshold = true := by
  unfold evidenceOf at made
  split at made
  · next finite => exact finite
  · cases made

theorem Gathered.finite (gathered : Gathered context target constraints) :
    context.objective.Finite floats := by
  constructor
  · intro threshold isTarget
    have related := gathered.target
    rw [isTarget] at related
    cases related with
    | some compared =>
        obtain ⟨_, _, made⟩ := compared
        exact finite_of_evidenceOf made
  · intro constraint member
    obtain ⟨_, _, _, _, made⟩ := exists_of_forall₂ gathered.constraints member
    exact finite_of_evidenceOf made

/-! ## What is proposed -/

/-- The outcome alone, where the comparisons determine one. -/
def outcomeOf (engine : Engine) (target : Option (MetricEvidence floats))
    (constraints : List (MetricEvidence floats)) : Option DecisionOutcome :=
  if violated constraints ≠ [] then some .reject
  else target.map fun target => if target.satisfied then .stopSucceeded else engine.targetMissed

theorem concluded_iff {engine : Engine} {primary : ObjectiveMetric} {outcome : DecisionOutcome} :
    (∃ reason, conclude printing engine primary target constraints = .ok (outcome, reason)) ↔
      outcomeOf engine target constraints = some outcome := by
  rw [outcomeOf]
  unfold conclude
  by_cases rejected : violated constraints ≠ []
  · simp [rejected]
  · cases target with
    | none => simp [rejected]
    | some target => cases met : target.satisfied <;> simp [rejected, met]

/-- What the proposal of the engine holds, over what was gathered. -/
structure Proposes (printing : Printing F) (engine : Engine) (context : DecisionContext floats D R)
    (target : Option (MetricEvidence floats)) (constraints : List (MetricEvidence floats))
    (proposal : DecisionProposal floats) : Prop where
  experiment : proposal.experimentId = context.experimentId
  node : proposal.nodeId = context.nodeId
  cycle : proposal.evaluationCycle = context.evaluationCycle
  concluded : conclude printing engine context.objective.primary target constraints =
    .ok (proposal.outcome, proposal.reason)
  evidence : proposal.evidence = target.toList ++ constraints
  engineName : proposal.engineName = engine.name
  engineVersion : proposal.engineVersion = engine.version
  resultIds : proposal.evaluationResultIds = evaluationResultIds context
  fingerprint : proposal.inputFingerprint =
    fingerprintOf printing floats (decisionInputIdentityV1 printing context)

theorem evidenced_of_concluded {engine : Engine} {outcome : DecisionOutcome}
    (isOutcome : outcomeOf engine target constraints = some outcome) :
    target.toList ++ constraints ≠ [] := by
  intro nothing
  obtain ⟨noTarget, noConstraint⟩ := List.append_eq_nil_iff.mp nothing
  rw [Option.toList_eq_nil_iff] at noTarget
  subst noTarget noConstraint
  simp [outcomeOf, violated] at isOutcome

theorem attributed_of_gathered (gathered : Gathered context target constraints) :
    evaluationResultIds context ≠ [] := by
  intro nothing
  obtain ⟨measured, one⟩ := gathered.primary
  have noIds : context.results.map EvaluationResult.id = [] := by
    have same := List.perm_insertionSort (· ≤ ·) (context.results.map EvaluationResult.id)
    rw [evaluationResultIds] at nothing
    rw [nothing] at same
    exact same.nil_eq.symm
  rw [List.map_eq_nil_iff.mp noIds] at one
  cases one

theorem decide_eq_ok_iff {engine : Engine} {proposal : DecisionProposal floats} :
    decide printing engine context = .ok proposal ↔ ∃ target constraints,
      Gathered context target constraints ∧
        Proposes printing engine context target constraints proposal := by
  constructor
  · intro decided
    obtain ⟨⟨target, constraints⟩, gathered, rest⟩ := bind_eq_ok_iff.mp decided
    obtain ⟨⟨outcome, reason⟩, concluded, rest⟩ := bind_eq_ok_iff.mp rest
    have isGathered := gather_eq_ok_iff.mp gathered
    rw [inputFingerprint_eq isGathered.finite] at rest
    dsimp only at rest
    split at rest
    · cases rest
      exact ⟨target, constraints, isGathered, rfl, rfl, rfl, concluded, rfl, rfl, rfl, rfl, rfl⟩
    · cases rest
  · rintro ⟨target, constraints, gathered, proposes⟩
    have isOutcome := concluded_iff.mp ⟨_, proposes.concluded⟩
    apply bind_eq_ok_iff.mpr
    refine ⟨(target, constraints), gather_eq_ok_iff.mpr gathered, bind_eq_ok_iff.mpr
      ⟨(proposal.outcome, proposal.reason), proposes.concluded, ?_⟩⟩
    rw [inputFingerprint_eq gathered.finite]
    dsimp only
    rw [dif_pos ⟨evidenced_of_concluded isOutcome, attributed_of_gathered gathered⟩]
    exact congrArg Except.ok (DecisionProposal.ext proposes.experiment.symm proposes.node.symm
      proposes.cycle.symm rfl rfl proposes.evidence.symm proposes.engineName.symm
      proposes.engineVersion.symm proposes.resultIds.symm proposes.fingerprint.symm)

/-- Where the comparisons determine an outcome, it is proposed. -/
theorem exists_decided {engine : Engine} {outcome : DecisionOutcome}
    (gathered : Gathered context target constraints)
    (isOutcome : outcomeOf engine target constraints = some outcome) :
    ∃ proposal, decide printing engine context = .ok proposal ∧ proposal.outcome = outcome ∧
      Proposes printing engine context target constraints proposal := by
  obtain ⟨reason, concluded⟩ : ∃ reason, conclude printing engine context.objective.primary target
      constraints = .ok (outcome, reason) := concluded_iff.mpr isOutcome
  let proposal : DecisionProposal floats :=
    { experimentId := context.experimentId
      nodeId := context.nodeId
      evaluationCycle := context.evaluationCycle
      outcome := outcome
      reason := reason
      evidence := target.toList ++ constraints
      engineName := engine.name
      engineVersion := engine.version
      evaluationResultIds := evaluationResultIds context
      inputFingerprint := fingerprintOf printing floats (decisionInputIdentityV1 printing context)
      evidenced := evidenced_of_concluded isOutcome
      attributed := attributed_of_gathered gathered }
  have proposes : Proposes printing engine context target constraints proposal :=
    ⟨rfl, rfl, rfl, concluded, rfl, rfl, rfl, rfl, rfl⟩
  exact ⟨proposal, decide_eq_ok_iff.mpr ⟨target, constraints, gathered, proposes⟩, rfl, proposes⟩

/-! ## Contexts measured alike -/

/-- What the evidence reads of a measurement. -/
def view (measured : Measurement floats D R) : String × Finite floats × String × Option String :=
  (measured.1.id, measured.2.value, measured.2.evaluatorName, measured.2.evaluatorVersion)

/-- One objective up to the order of its constraints, whose metrics are measured alike. -/
structure Alike (context context' : DecisionContext floats D R) : Prop where
  primary : context.objective.primary = context'.objective.primary
  target : context.objective.target = context'.objective.target
  constraints : context.objective.constraints.Perm context'.objective.constraints
  measured : ∀ name ∈ wanted context.objective,
    ((measurements context.results name).map view).Perm
      ((measurements context'.results name).map view)

theorem Alike.wanted_iff (alike : Alike context context') {name : String} :
    name ∈ wanted context'.objective ↔ name ∈ wanted context.objective := by
  simp only [mem_wanted, alike.primary, alike.constraints.mem_iff]

theorem Alike.symm (alike : Alike context context') : Alike context' context where
  primary := alike.primary.symm
  target := alike.target.symm
  constraints := alike.constraints.symm
  measured name member := (alike.measured name (alike.wanted_iff.mp member)).symm

theorem evidenceOf_view {measured measured' : Measurement floats D R}
    (same : view measured = view measured')
    (role : Role) (name : String) (operator : ConstraintOperator) (threshold : F) :
    evidenceOf role name operator threshold measured =
      evidenceOf role name operator threshold measured' := by
  simp only [view, Prod.mk.injEq] at same
  obtain ⟨id, value, evaluator, version⟩ := same
  simp only [evidenceOf, id, value, evaluator, version]

theorem Alike.only (alike : Alike context context') {name : String}
    (member : name ∈ wanted context.objective) {measured : Measurement floats D R}
    (one : measurements context.results name = [measured]) :
    ∃ measured', measurements context'.results name = [measured'] ∧
      view measured = view measured' := by
  have same := alike.measured name member
  rw [one, List.map_singleton] at same
  obtain ⟨measured', isOne, isView⟩ := List.map_eq_singleton_iff.mp same.singleton_eq.symm
  exact ⟨measured', isOne, isView.symm⟩

theorem Alike.compared (alike : Alike context context') {role : Role} {name : String}
    (member : name ∈ wanted context.objective) {operator : ConstraintOperator} {threshold : F}
    {evidence : MetricEvidence floats}
    (compared : Compared context role name operator threshold evidence) :
    Compared context' role name operator threshold evidence := by
  obtain ⟨measured, one, made⟩ := compared
  obtain ⟨measured', alsoOne, same⟩ := alike.only member one
  rw [evidenceOf_view same] at made
  exact ⟨measured', alsoOne, made⟩

theorem Alike.gathered (alike : Alike context context')
    (gathered : Gathered context target constraints) :
    ∃ constraints', Gathered context' target constraints' ∧ constraints'.Perm constraints := by
  have primary : context.objective.primary.name ∈ wanted context.objective :=
    mem_wanted.mpr (.inl rfl)
  have each : List.Forall₂ (ComparedConstraint context') context.objective.constraints
      constraints := by
    have all := gathered.constraints
    have named : ∀ constraint ∈ context.objective.constraints,
        constraint.name ∈ wanted context.objective := fun constraint member =>
      mem_wanted.mpr (.inr ⟨constraint, member, rfl⟩)
    clear gathered
    revert named
    generalize context.objective.constraints = listed at all
    induction all with
    | nil => exact fun _ => .nil
    | cons compared _ ih =>
        intro named
        obtain ⟨first, rest⟩ := List.forall_mem_cons.mp named
        exact .cons (alike.compared first compared) (ih rest)
  obtain ⟨constraints', each', same⟩ := List.perm_comp_forall₂ alike.constraints.symm each
  refine ⟨constraints', ⟨?_, each', ?_⟩, same⟩
  · obtain ⟨measured, one⟩ := gathered.primary
    obtain ⟨measured', one', _⟩ := alike.only primary one
    rw [alike.primary] at one'
    exact ⟨measured', one'⟩
  · have related := gathered.target
    rw [← alike.target]
    generalize context.objective.target = threshold at related ⊢
    cases related with
    | none => exact .none
    | some compared =>
        refine .some ?_
        rw [ComparedTarget, ← alike.primary]
        exact alike.compared primary compared

theorem outcomeOf_perm {engine : Engine} {constraints constraints' : List (MetricEvidence floats)}
    (same : constraints'.Perm constraints) :
    outcomeOf engine target constraints' = outcomeOf engine target constraints := by
  have rejected : violated constraints' = [] ↔ violated constraints = [] := by
    have filtered : (violated constraints').Perm (violated constraints) := same.filter _
    constructor
    · intro nothing
      rw [nothing] at filtered
      exact filtered.nil_eq.symm
    · intro nothing
      rw [nothing] at filtered
      exact filtered.eq_nil
  simp only [outcomeOf, ne_eq, rejected]

/-- Where one of them is decided, so is the other, with the same outcome and evidence. -/
theorem Alike.decided (alike : Alike context context') {engine : Engine}
    {proposal : DecisionProposal floats} (decided : decide printing engine context = .ok proposal) :
    ∃ proposal', decide printing engine context' = .ok proposal' ∧
      proposal'.outcome = proposal.outcome ∧ proposal'.evidence.Perm proposal.evidence := by
  obtain ⟨target, constraints, gathered, proposes⟩ := decide_eq_ok_iff.mp decided
  obtain ⟨constraints', gathered', same⟩ := alike.gathered gathered
  have isOutcome := concluded_iff.mp ⟨_, proposes.concluded⟩
  rw [← outcomeOf_perm same] at isOutcome
  obtain ⟨proposal', decided', outcome, proposes'⟩ :=
    exists_decided gathered' isOutcome
  refine ⟨proposal', decided', outcome, ?_⟩
  rw [proposes.evidence, proposes'.evidence]
  exact same.append_left _

end Xaytune.Decision
