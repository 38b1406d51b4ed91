import Xaytune.Decision.Dependence

/-!
# Same evidence, same decision

Inputs of one identity are decided alike. So are inputs that differ in the order of what they
list, or in metrics that the objective does not name or that describe a slice.
-/

namespace Xaytune.Decision

open Xaytune.Library Xaytune.Core Search

variable {F D R : Type} {floats : FloatOperations F} {printing : Printing F}
  {context context' : DecisionContext floats D R}

/-! ## Measurements of one result after the other -/

/-- The decisive metrics of one result, as the evidence reads them. -/
def views (result : EvaluationResult floats D R) (name : String) :
    List (String × Finite floats × String × Option String) :=
  (result.metrics.filter fun metric => metric.name = name ∧ metric.slice = none).map
    fun metric => view (result, metric)

theorem map_view_measurements (results : List (EvaluationResult floats D R)) (name : String) :
    (measurements results name).map view = results.flatMap fun result => views result name := by
  simp only [measurements, List.map_flatMap, views, List.map_map, Function.comp_def]

theorem measured_alike {results arranged results' : List (EvaluationResult floats D R)}
    {name : String} (order : arranged.Perm results')
    (each : List.Forall₂ (fun result other => (views result name).Perm (views other name))
      results arranged) :
    ((measurements results name).map view).Perm ((measurements results' name).map view) := by
  rw [map_view_measurements, map_view_measurements]
  exact (flatMap_perm each).trans (order.flatMap_right _)

/-! ## Inputs of one identity -/

@[simp] theorem ofText_inj {letters others : String} :
    (ofText letters : Value F) = ofText others ↔ letters = others := by
  rw [ofText, ofText, Value.str.injEq, text_injective.eq_iff]

theorem optional_ofText_inj {given other : Option String} :
    (optional ofText given : Value F) = optional ofText other ↔ given = other := by
  cases given <;> cases other <;> simp [optional, ofText, text_injective.eq_iff]

theorem optional_float_inj {given other : Option F} :
    optional Value.float given = optional Value.float other ↔ given = other := by
  cases given <;> cases other <;> simp [optional]

theorem symbol_injective : Function.Injective ConstraintOperator.symbol := by
  intro operator other same
  cases operator <;> cases other <;> first | rfl | (revert same; decide)

theorem word_injective : Function.Injective Direction.word := by
  intro direction other same
  cases direction <;> cases other <;> first | rfl | (revert same; decide)

theorem metricIdentity_inj {metric metric' : MetricResult floats D}
    (same : metricIdentity metric = metricIdentity metric') :
    metric.name = metric'.name ∧ metric.value = metric'.value ∧ metric.slice = metric'.slice ∧
      metric.evaluatorName = metric'.evaluatorName ∧
        metric.evaluatorVersion = metric'.evaluatorVersion := by
  simp only [metricIdentity, record, Value.map.injEq, List.map_cons, List.cons.injEq,
    Prod.mk.injEq, true_and, ofText_inj, Value.float.injEq, optional_ofText_inj] at same
  obtain ⟨name, value, slice, evaluator, version, _⟩ := same
  exact ⟨name, Subtype.ext value, slice, evaluator, version⟩

theorem constraintIdentity_injective :
    Function.Injective (constraintIdentity : MetricConstraint F → Value F) := by
  rintro ⟨name, operator, value⟩ ⟨name', operator', value'⟩ same
  simp only [constraintIdentity, record, Value.map.injEq, List.map_cons, List.cons.injEq,
    Prod.mk.injEq, true_and, ofText_inj, Value.float.injEq, and_true] at same
  obtain ⟨rfl, operators, rfl⟩ := same
  rw [symbol_injective operators]

theorem perm_of_sortedByDump {values values' : List (Value F)}
    (same : sortedByDump printing values = sortedByDump printing values') :
    values.Perm values' := by
  have before := List.perm_insertionSort
    (fun first second => printing.dumps first ≤ printing.dumps second) values
  have behind := List.perm_insertionSort
    (fun first second => printing.dumps first ≤ printing.dumps second) values'
  rw [sortedByDump, sortedByDump] at same
  rw [same] at before
  exact before.symm.trans behind

theorem views_of_resultIdentity {result result' : EvaluationResult floats D R}
    (same : resultIdentity printing result = resultIdentity printing result') :
    result.id = result'.id ∧ ∀ name, (views result name).Perm (views result' name) := by
  simp only [resultIdentity, record, Value.map.injEq, List.map_cons, List.cons.injEq,
    Prod.mk.injEq, true_and, ofText_inj, Value.seq.injEq, and_true] at same
  obtain ⟨id, -, -, -, metrics⟩ := same
  refine ⟨id, fun name => ?_⟩
  obtain ⟨arranged, order, each⟩ := exists_partners (perm_of_sortedByDump metrics)
  have sameViews : views result name =
      (arranged.filter fun metric => metric.name = name ∧ metric.slice = none).map
        fun metric => view (result', metric) := by
    rw [views]
    clear order metrics
    generalize result.metrics = listed at each
    induction each with
    | nil => rfl
    | cons first _ ih =>
        obtain ⟨sameName, value, slice, evaluator, version⟩ := metricIdentity_inj first
        simp only [List.filter_cons, sameName, slice]
        split
        · rw [List.map_cons, List.map_cons, ih]
          simp only [view, id, value, evaluator, version]
        · exact ih
  rw [sameViews]
  exact (order.filter _).map _

theorem alike_of_identity
    (same : decisionInputIdentityV1 printing context = decisionInputIdentityV1 printing context') :
    Alike context context' ∧ evaluationResultIds context = evaluationResultIds context' := by
  simp only [decisionInputIdentityV1, objectiveIdentity, record, Value.map.injEq, List.map_cons,
    List.cons.injEq, Prod.mk.injEq, true_and, ofText_inj, Value.seq.injEq, and_true,
    optional_float_inj] at same
  obtain ⟨-, -, -, ⟨⟨primaryName, direction⟩, target, constraints⟩, results⟩ := same
  have sortedAgain : ∀ results : List (EvaluationResult floats D R),
      ((sortedById results).map (resultIdentity printing)).Perm
        (results.map (resultIdentity printing)) := fun results =>
    (List.perm_insertionSort _ results).map _
  have permuted : (context.results.map (resultIdentity printing)).Perm
      (context'.results.map (resultIdentity printing)) := by
    have before := sortedAgain context.results
    rw [results] at before
    exact before.symm.trans (sortedAgain context'.results)
  obtain ⟨arranged, order, each⟩ := exists_partners permuted
  constructor
  · refine ⟨?_, target, ?_, fun name _ => ?_⟩
    · cases primary : context.objective.primary
      cases primary' : context'.objective.primary
      simp only [primary, primary'] at primaryName direction
      rw [primaryName, word_injective direction]
    · exact (List.map_perm_map_iff constraintIdentity_injective).mp
        (perm_of_sortedByDump constraints)
    · exact measured_alike order (each.imp fun _ _ same => (views_of_resultIdentity same).2 name)
  · have ids : (context.results.map EvaluationResult.id).Perm
        (context'.results.map EvaluationResult.id) := by
      refine List.Perm.trans (.of_eq ?_) (order.map _)
      clear order permuted results
      generalize context.results = listed at each
      induction each with
      | nil => rfl
      | cons first _ ih => rw [List.map_cons, List.map_cons, ih, (views_of_resultIdentity first).1]
    have sorted : (evaluationResultIds context).Perm (evaluationResultIds context') :=
      (List.perm_insertionSort _ _).trans (ids.trans (List.perm_insertionSort _ _).symm)
    exact sorted.eq_of_sortedLE List.sortedLE_insertionSort List.sortedLE_insertionSort

/-! ## Inputs that differ in what does not decide -/

/-- The metrics that decide: named by the objective, and of no slice. -/
def decisive (objective : Objective F) (results : List (EvaluationResult floats D R)) :
    List (String × MetricResult floats D) :=
  results.flatMap fun result =>
    (result.metrics.filter fun metric => metric.name ∈ wanted objective ∧ metric.slice = none).map
      fun metric => (result.id, metric)

/-- The same objective and the same decisive metrics, both up to order. -/
structure Rearranged (context context' : DecisionContext floats D R) : Prop where
  primary : context.objective.primary = context'.objective.primary
  target : context.objective.target = context'.objective.target
  constraints : context.objective.constraints.Perm context'.objective.constraints
  decisive : (decisive context.objective context.results).Perm
    (decisive context.objective context'.results)

theorem map_view_decisive {objective : Objective F} (results : List (EvaluationResult floats D R))
    {name : String} (member : name ∈ wanted objective) :
    (measurements results name).map view =
      ((decisive objective results).filter fun found => found.2.name = name).map fun found =>
        (found.1, found.2.value, found.2.evaluatorName, found.2.evaluatorVersion) := by
  rw [map_view_measurements]
  induction results with
  | nil => rfl
  | cons result results ih =>
      have first : views result name =
          (((result.metrics.filter fun metric =>
            metric.name ∈ wanted objective ∧ metric.slice = none).map
              fun metric => (result.id, metric)).filter fun found => found.2.name = name).map
            fun found => (found.1, found.2.value, found.2.evaluatorName,
              found.2.evaluatorVersion) := by
        rw [List.filter_map, List.map_map, List.filter_filter, views]
        congr 1
        apply List.filter_congr
        intro metric _
        by_cases isName : metric.name = name
        · simp [isName, member]
        · simp [isName]
      rw [List.flatMap_cons, ih, first, ← List.map_append, ← List.filter_append, decisive,
        decisive, List.flatMap_cons]

theorem Rearranged.alike (rearranged : Rearranged context context') : Alike context context' where
  primary := rearranged.primary
  target := rearranged.target
  constraints := rearranged.constraints
  measured name member := by
    rw [map_view_decisive _ member, map_view_decisive _ member]
    exact (rearranged.decisive.filter _).map _

/-! ## A decision rests on its evidence -/

def Raises (printing : Printing F) (engine : Engine) (context : DecisionContext floats D R) :
    Prop :=
  ∃ error, decide printing engine context = .error error

theorem Alike.agree (alike : Alike context context') (engine : Engine) :
    (Raises printing engine context ∧ Raises printing engine context') ∨
      ∃ proposal proposal', decide printing engine context = .ok proposal ∧
        decide printing engine context' = .ok proposal' ∧
          proposal'.outcome = proposal.outcome ∧ proposal'.evidence.Perm proposal.evidence := by
  cases decided : decide printing engine context with
  | ok proposal =>
      obtain ⟨proposal', decided', same⟩ := alike.decided decided
      exact .inr ⟨proposal, proposal', rfl, decided', same⟩
  | error error =>
      cases decided' : decide printing engine context' with
      | ok proposal' =>
          obtain ⟨proposal, other, _⟩ := alike.symm.decided decided'
          rw [decided] at other
          cases other
      | error error' => exact .inl ⟨⟨error, decided⟩, ⟨error', decided'⟩⟩

theorem satisfied_of_evidenceOf {role : Role} {name : String} {operator : ConstraintOperator}
    {threshold : F} {measured : Measurement floats D R} {evidence : MetricEvidence floats}
    (made : evidenceOf role name operator threshold measured = .ok evidence) :
    evidence.satisfied = compare floats operator measured.2.value.val threshold := by
  unfold evidenceOf at made
  split at made
  · cases made
    rfl
  · cases made

/-- The metric is measured exactly once, and the comparison of its value holds. -/
def Holds (context : DecisionContext floats D R) (name : String) (operator : ConstraintOperator)
    (threshold : F) : Prop :=
  ∃ measured, measurements context.results name = [measured] ∧
    compare floats operator measured.2.value.val threshold = true

theorem holds_of_compared {role : Role} {name : String} {operator : ConstraintOperator}
    {threshold : F} {evidence : MetricEvidence floats}
    (compared : Compared context role name operator threshold evidence)
    (satisfied : evidence.satisfied = true) : Holds context name operator threshold := by
  obtain ⟨measured, one, made⟩ := compared
  exact ⟨measured, one, (satisfied_of_evidenceOf made).symm.trans satisfied⟩

theorem holds_of_succeeded {engine : Engine} (other : engine.targetMissed ≠ .stopSucceeded)
    {proposal : DecisionProposal floats} (decided : decide printing engine context = .ok proposal)
    (succeeded : proposal.outcome = .stopSucceeded) :
    (∀ constraint ∈ context.objective.constraints,
        Holds context constraint.name constraint.operator constraint.value) ∧
      ∃ target, context.objective.target = some target ∧
        Holds context context.objective.primary.name
          (targetOperator context.objective.primary.direction) target := by
  obtain ⟨target, constraints, gathered, proposes⟩ := decide_eq_ok_iff.mp decided
  have isOutcome := concluded_iff.mp ⟨_, proposes.concluded⟩
  rw [succeeded, outcomeOf] at isOutcome
  split at isOutcome
  · cases isOutcome
  · next noneViolated =>
      obtain ⟨met, isTarget, outcome⟩ := Option.map_eq_some_iff.mp isOutcome
      subst isTarget
      constructor
      · intro constraint member
        obtain ⟨evidence, isOne, compared⟩ := exists_of_forall₂ gathered.constraints member
        have clean : violated constraints = [] := not_not.mp noneViolated
        have kept := List.filter_eq_nil_iff.mp clean evidence isOne
        exact holds_of_compared compared (by simpa using kept)
      · have related := gathered.target
        cases isThreshold : context.objective.target with
        | none =>
            rw [isThreshold] at related
            cases related
        | some threshold =>
            rw [isThreshold] at related
            cases related with
            | some compared =>
                refine ⟨threshold, rfl, holds_of_compared compared ?_⟩
                by_contra missed
                rw [if_neg missed] at outcome
                exact other outcome

/-- What the adaptive engine makes of the other's outcome. -/
def adapted : DecisionOutcome → DecisionOutcome
  | .stopFailed => .branch
  | outcome => outcome

theorem outcomeOf_adaptive (target : Option (MetricEvidence floats))
    (constraints : List (MetricEvidence floats)) :
    outcomeOf adaptiveThresholdEngine target constraints =
      (outcomeOf thresholdEngine target constraints).map adapted := by
  unfold outcomeOf
  split
  · rfl
  · cases target with
    | none => rfl
    | some target => cases met : target.satisfied <;> simp [met, adapted, adaptiveThresholdEngine,
        thresholdEngine]

variable {target : Option (MetricEvidence floats)} {constraints : List (MetricEvidence floats)}

theorem conclude_adaptive {primary : ObjectiveMetric} {outcome : DecisionOutcome} {reason : String}
    (concluded : conclude printing thresholdEngine primary target constraints = .ok
      (outcome, reason)) (notFailed : outcome ≠ .stopFailed) :
    conclude printing adaptiveThresholdEngine primary target constraints = .ok
      (outcome, reason) := by
  unfold conclude at concluded ⊢
  by_cases rejected : violated constraints ≠ []
  · simpa only [if_pos rejected] using concluded
  · cases target with
    | none => simp [rejected] at concluded
    | some target =>
        cases met : target.satisfied with
        | true => simpa [rejected, met] using concluded
        | false =>
            have failed : thresholdEngine.targetMissed = outcome := by
              simp only [rejected, met, if_false, Bool.false_eq_true, Except.ok.injEq,
                Prod.mk.injEq] at concluded
              exact concluded.1
            exact absurd failed.symm notFailed

/-- Two proposals that differ in nothing but a missed target's outcome and the engine's name. -/
structure DiffersInOutcome (proposal proposal' : DecisionProposal floats) : Prop where
  outcome : proposal'.outcome = adapted proposal.outcome
  notBranch : proposal.outcome ≠ .branch
  reason : proposal.outcome ≠ .stopFailed → proposal'.reason = proposal.reason
  experiment : proposal'.experimentId = proposal.experimentId
  node : proposal'.nodeId = proposal.nodeId
  cycle : proposal'.evaluationCycle = proposal.evaluationCycle
  evidence : proposal'.evidence = proposal.evidence
  resultIds : proposal'.evaluationResultIds = proposal.evaluationResultIds
  fingerprint : proposal'.inputFingerprint = proposal.inputFingerprint

theorem not_branch {outcome : DecisionOutcome}
    (isOutcome : outcomeOf thresholdEngine target constraints = some outcome) :
    outcome ≠ .branch := by
  rintro rfl
  unfold outcomeOf at isOutcome
  split at isOutcome
  · cases isOutcome
  · obtain ⟨met, _, outcome⟩ := Option.map_eq_some_iff.mp isOutcome
    split at outcome <;> cases outcome

theorem adaptive_decides {proposal : DecisionProposal floats}
    (decided : decide printing thresholdEngine context = .ok proposal) :
    ∃ proposal', decide printing adaptiveThresholdEngine context = .ok proposal' ∧
      DiffersInOutcome proposal proposal' := by
  obtain ⟨target, constraints, gathered, proposes⟩ := decide_eq_ok_iff.mp decided
  have isOutcome := concluded_iff.mp ⟨_, proposes.concluded⟩
  have isAdapted : outcomeOf adaptiveThresholdEngine target constraints =
      some (adapted proposal.outcome) := by rw [outcomeOf_adaptive, isOutcome, Option.map_some]
  obtain ⟨proposal', decided', outcome, proposes'⟩ :=
    exists_decided gathered isAdapted
  refine ⟨proposal', decided', ?_⟩
  constructor
  · exact outcome
  · exact not_branch isOutcome
  · intro notFailed
    have concluded := conclude_adaptive proposes.concluded notFailed
    rw [proposes'.concluded] at concluded
    exact (Prod.mk.inj (Except.ok.inj concluded)).2
  · rw [proposes'.experiment, proposes.experiment]
  · rw [proposes'.node, proposes.node]
  · rw [proposes'.cycle, proposes.cycle]
  · rw [proposes'.evidence, proposes.evidence]
  · rw [proposes'.resultIds, proposes.resultIds]
  · rw [proposes'.fingerprint, proposes.fingerprint]

theorem threshold_decides {proposal : DecisionProposal floats}
    (decided : decide printing adaptiveThresholdEngine context = .ok proposal) :
    ∃ proposal', decide printing thresholdEngine context = .ok proposal' := by
  obtain ⟨target, constraints, gathered, proposes⟩ := decide_eq_ok_iff.mp decided
  have isOutcome := concluded_iff.mp ⟨_, proposes.concluded⟩
  rw [outcomeOf_adaptive] at isOutcome
  obtain ⟨outcome, isOutcome, _⟩ := Option.map_eq_some_iff.mp isOutcome
  obtain ⟨proposal', decided', _⟩ := exists_decided gathered isOutcome
  exact ⟨proposal', decided'⟩

/-- A decision is determined by its recorded evidence. -/
structure DecisionSound (printing : Printing F) (floats : FloatOperations F) (D R : Type) :
    Prop where
  sameIdentity : ∀ engine ∈ [thresholdEngine, adaptiveThresholdEngine],
    ∀ context context' : DecisionContext floats D R,
      decisionInputIdentityV1 printing context = decisionInputIdentityV1 printing context' →
        (Raises printing engine context ∧ Raises printing engine context') ∨
          ∃ proposal proposal', decide printing engine context = .ok proposal ∧
            decide printing engine context' = .ok proposal' ∧
              proposal'.outcome = proposal.outcome ∧
              proposal'.evaluationResultIds = proposal.evaluationResultIds ∧
              proposal'.inputFingerprint = proposal.inputFingerprint ∧
              proposal'.evidence.Perm proposal.evidence
  rearranged : ∀ engine ∈ [thresholdEngine, adaptiveThresholdEngine],
    ∀ context context' : DecisionContext floats D R, Rearranged context context' →
      (Raises printing engine context ∧ Raises printing engine context') ∨
        ∃ proposal proposal', decide printing engine context = .ok proposal ∧
          decide printing engine context' = .ok proposal' ∧ proposal'.outcome = proposal.outcome
  succeeded : ∀ engine ∈ [thresholdEngine, adaptiveThresholdEngine],
    ∀ (context : DecisionContext floats D R) (proposal : DecisionProposal floats),
      decide printing engine context = .ok proposal → proposal.outcome = .stopSucceeded →
        (∀ constraint ∈ context.objective.constraints,
            Holds context constraint.name constraint.operator constraint.value) ∧
          ∃ target, context.objective.target = some target ∧
            Holds context context.objective.primary.name
              (targetOperator context.objective.primary.direction) target
  adaptive : ∀ context : DecisionContext floats D R,
    (Raises printing thresholdEngine context ∧ Raises printing adaptiveThresholdEngine context) ∨
      ∃ proposal proposal', decide printing thresholdEngine context = .ok proposal ∧
        decide printing adaptiveThresholdEngine context = .ok proposal' ∧
          DiffersInOutcome proposal proposal'

theorem decision_sound (printing : Printing F) (floats : FloatOperations F) (D R : Type) :
    DecisionSound printing floats D R := by
  constructor
  · intro engine _ context context' same
    obtain ⟨alike, ids⟩ := alike_of_identity same
    rcases alike.agree engine with raised |
      ⟨proposal, proposal', decided, decided', outcome, evidence⟩
    · exact .inl raised
    · obtain ⟨_, _, _, proposes⟩ := decide_eq_ok_iff.mp decided
      obtain ⟨_, _, _, proposes'⟩ := decide_eq_ok_iff.mp decided'
      refine .inr ⟨proposal, proposal', decided, decided', outcome, ?_, ?_, evidence⟩
      · rw [proposes'.resultIds, proposes.resultIds, ids]
      · rw [proposes'.fingerprint, proposes.fingerprint, same]
  · intro engine _ context context' rearranged
    rcases rearranged.alike.agree engine with raised |
      ⟨proposal, proposal', decided, decided', outcome, _⟩
    · exact .inl raised
    · exact .inr ⟨proposal, proposal', decided, decided', outcome⟩
  · intro engine isEngine context proposal decided succeeded
    refine holds_of_succeeded ?_ decided succeeded
    rcases List.mem_cons.mp isEngine with rfl | isOther
    · exact DecisionOutcome.noConfusion
    · rw [List.mem_singleton.mp isOther]
      exact DecisionOutcome.noConfusion
  · intro context
    cases decided : decide printing thresholdEngine context with
    | ok proposal =>
        obtain ⟨proposal', decided', differs⟩ := adaptive_decides decided
        exact .inr ⟨proposal, proposal', rfl, decided', differs⟩
    | error error =>
        cases decided' : decide printing adaptiveThresholdEngine context with
        | ok proposal =>
            obtain ⟨proposal', other⟩ := threshold_decides decided'
            rw [decided] at other
            cases other
        | error error' => exact .inl ⟨⟨error, decided⟩, ⟨error', decided'⟩⟩

end Xaytune.Decision
