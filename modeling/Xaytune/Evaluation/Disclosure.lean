import Mathlib.Algebra.Order.BigOperators.Group.List
import Mathlib.Algebra.Order.Field.Rat
import Mathlib.Tactic.Positivity
import Xaytune.Evaluation.Execution

/-!
# Disclosure

Two evaluations that differ in their scores alone are compared through everything
they release. With two or more tasks and equal means nothing tells them apart; with
one task the names of what is kept back do: a slice over the successful tasks is
named only where there is one.
-/

namespace Xaytune.Evaluation

/-! ## Two runs that differ in their scores -/

section Scores

variable {F : Type} {floats : Floats F}

/-- A task scored 0 or 1, with what its execution gave. -/
structure Scored (floats : Floats F) (score : F) (rest : List (MetricObservation F))
    (task : TaskObservations F) : Prop where
  observations : task.observations = ⟨.taskSuccess, .value score⟩ :: rest
  binary : score = floats.ofInt 0 ∨ score = floats.ofInt 1
  execution : ∀ observation ∈ rest, observation.metric.referenceDerived = false
  retried : ∃ number, rest.find? (fun observation => observation.metric = .retries) =
    some ⟨.retries, .value number⟩

/-- Two tasks that differ in their scores at most. -/
def Paired (floats : Floats F) (first second : TaskObservations F) : Prop :=
  first.taskId = second.taskId ∧ first.position = second.position ∧
    ∃ score score' rest, Scored floats score rest first ∧ Scored floats score' rest second

theorem Scored.get {score : F} {rest : List (MetricObservation F)} {task : TaskObservations F}
    (scored : Scored floats score rest task) (metric : Metric) : task.get metric =
      if metric = .taskSuccess then some ⟨.taskSuccess, .value score⟩
      else rest.find? fun observation => observation.metric = metric := by
  unfold TaskObservations.get
  rw [scored.observations, List.find?_cons]
  by_cases isSuccess : metric = .taskSuccess
  · simp [isSuccess]
  · have other : ¬ Metric.taskSuccess = metric := fun same => isSuccess same.symm
    simp [isSuccess, other]

theorem Paired.get_eq {first second : TaskObservations F} (paired : Paired floats first second)
    {metric : Metric} (other : metric ≠ .taskSuccess) : first.get metric = second.get metric := by
  obtain ⟨_, _, _, _, rest, scored, scored'⟩ := paired
  rw [scored.get, scored'.get, if_neg other, if_neg other]

variable {tasks tasks' : List (TaskObservations F)}

theorem observedOf_eq (paired : List.Forall₂ (Paired floats) tasks tasks') {metric : Metric}
    (other : metric ≠ .taskSuccess) : observedOf tasks metric = observedOf tasks' metric := by
  induction paired with
  | nil => rfl
  | cons here _ ih =>
      simp only [observedOf, List.map_cons] at ih ⊢
      rw [here.get_eq other, ih]

/-- Every task of a list is scored. -/
def AllScored (floats : Floats F) (tasks : List (TaskObservations F)) : Prop :=
  ∀ task ∈ tasks, ∃ score rest, Scored floats score rest task

theorem allScored_of_paired (paired : List.Forall₂ (Paired floats) tasks tasks') :
    AllScored floats tasks ∧ AllScored floats tasks' := by
  induction paired with
  | nil => exact ⟨fun _ member => absurd member List.not_mem_nil,
      fun _ member => absurd member List.not_mem_nil⟩
  | cons here _ ih =>
      obtain ⟨_, _, score, score', rest, scored, scored'⟩ := here
      constructor
      · intro task member
        rcases List.mem_cons.mp member with rfl | member
        · exact ⟨score, rest, scored⟩
        · exact ih.1 task member
      · intro task member
        rcases List.mem_cons.mp member with rfl | member
        · exact ⟨score', rest, scored'⟩
        · exact ih.2 task member

/-- The scores of a list of tasks. -/
def scoresOf (tasks : List (TaskObservations F)) : List F :=
  (observedOf tasks .taskSuccess).filterMap numberOf

theorem Scored.number {score : F} {rest : List (MetricObservation F)} {task : TaskObservations F}
    (scored : Scored floats score rest task) : numberOf (task.get .taskSuccess) = some score := by
  rw [scored.get, if_pos rfl]
  rfl

theorem Scored.retried_number {score : F} {rest : List (MetricObservation F)}
    {task : TaskObservations F} (scored : Scored floats score rest task) :
    (numberOf (task.get .retries)).isSome = true := by
  obtain ⟨number, found⟩ := scored.retried
  rw [scored.get, if_neg (by decide), found]
  rfl

theorem AllScored.absences (scored : AllScored floats tasks) :
    (observedOf tasks .taskSuccess).filterMap absenceOf = [] := by
  rw [List.filterMap_eq_nil_iff]
  intro observation member
  obtain ⟨task, inTasks, rfl⟩ := List.mem_map.mp member
  obtain ⟨score, rest, here⟩ := scored task inTasks
  rw [here.get, if_pos rfl]
  rfl

theorem AllScored.scores (scored : AllScored floats tasks) : ∀ score ∈ scoresOf tasks,
    score = floats.ofInt 0 ∨ score = floats.ofInt 1 := by
  intro score member
  obtain ⟨observation, inObserved, isNumber⟩ := List.mem_filterMap.mp member
  obtain ⟨task, inTasks, rfl⟩ := List.mem_map.mp inObserved
  obtain ⟨score', rest, here⟩ := scored task inTasks
  rw [here.number, Option.some.injEq] at isNumber
  exact isNumber ▸ here.binary

theorem AllScored.length (scored : AllScored floats tasks) :
    (scoresOf tasks).length = tasks.length := by
  induction tasks with
  | nil => rfl
  | cons task rest ih =>
      obtain ⟨score, _, here⟩ := scored task List.mem_cons_self
      have later := ih fun other member => scored other (List.mem_cons_of_mem task member)
      unfold scoresOf observedOf at later ⊢
      rw [List.map_cons, List.filterMap_cons_some here.number, List.length_cons, List.length_cons,
        later]

/-- The tasks scored 1. -/
def successes [DecidableEq F] (floats : Floats F) (tasks : List (TaskObservations F)) :
    List (TaskObservations F) :=
  tasks.filter fun task => numberOf (task.get .taskSuccess) = some (floats.ofInt 1)

/-- The tasks that succeeded are those scored 1. -/
theorem AllScored.succeeded [DecidableEq F] (scored : AllScored floats tasks)
    (nonempty : tasks ≠ []) :
    succeededTasks floats tasks = some (successes floats tasks) := by
  unfold succeededTasks
  have isObserved : (observedOf tasks .taskSuccess).isEmpty = false := by
    cases tasks with
    | nil => exact absurd rfl nonempty
    | cons => rfl
  have allNumbers : ((observedOf tasks .taskSuccess).all fun observation =>
      (numberOf observation).isSome) = true := by
    rw [List.all_eq_true]
    intro observation member
    obtain ⟨task, inTasks, rfl⟩ := List.mem_map.mp member
    obtain ⟨score, rest, here⟩ := scored task inTasks
    rw [here.number]
    rfl
  simp only [isObserved, allNumbers, Bool.not_false, Bool.and_self, if_true]
  rfl

/-- Some task is scored 1. -/
def SomeSucceeded (floats : Floats F) (tasks : List (TaskObservations F)) : Prop :=
  ∃ task ∈ tasks, numberOf (task.get .taskSuccess) = some (floats.ofInt 1)

theorem mem_scoresOf {score : F} : score ∈ scoresOf tasks ↔
    ∃ task ∈ tasks, numberOf (task.get .taskSuccess) = some score := by
  simp [scoresOf, observedOf, List.mem_filterMap]

/-- Whether some task succeeded can be read off the mean of the scores. -/
theorem someSucceeded_iff (scored : AllScored floats tasks) (nonempty : tasks ≠ []) :
    SomeSucceeded floats tasks ↔ floats.mean (scoresOf tasks) ≠ floats.ofInt 0 := by
  have someScore : scoresOf tasks ≠ [] := by
    intro none
    have counted := scored.length
    rw [none, List.length_nil] at counted
    exact nonempty (List.length_eq_zero_iff.mp counted.symm)
  have vanishes := floats.mean_scores (scoresOf tasks) scored.scores someScore
  unfold Floats.mean
  rw [Ne, vanishes]
  constructor
  · rintro ⟨task, member, isOne⟩ allZero
    exact floats.zero_ne_one (allZero _ (mem_scoresOf.mpr ⟨task, member, isOne⟩)).symm
  · intro notAll
    push Not at notAll
    obtain ⟨score, member, notZero⟩ := notAll
    have isOne := (scored.scores score member).resolve_left notZero
    obtain ⟨task, inTasks, isScore⟩ := mem_scoresOf.mp member
    exact ⟨task, inTasks, isOne ▸ isScore⟩

end Scores

/-! ## What the scores reach -/

section Kindred

variable {F : Type}

/-- Run values that are the same, or are both kept back under one name. -/
def Kindred (first second : RunValue F) : Prop :=
  first = second ∨ (first.hidden = true ∧ second.hidden = true ∧ first.label = second.label)

variable {values values' : List (RunValue F)}

theorem released_eq (kindred : List.Forall₂ Kindred values values') :
    (values.filter fun value => !value.hidden) = values'.filter fun value => !value.hidden := by
  induction kindred with
  | nil => rfl
  | cons here _ ih =>
      rcases here with rfl | ⟨hidden, hidden', _⟩
      · rw [List.filter_cons, List.filter_cons, ih]
      · rw [List.filter_cons, List.filter_cons, hidden, hidden']
        exact ih

theorem withheld_eq (kindred : List.Forall₂ Kindred values values') :
    (values.filter RunValue.hidden).map RunValue.label =
      (values'.filter RunValue.hidden).map RunValue.label := by
  induction kindred with
  | nil => rfl
  | cons here _ ih =>
      rcases here with rfl | ⟨hidden, hidden', sameLabel⟩
      · rw [List.filter_cons, List.filter_cons]
        split
        · rw [List.map_cons, List.map_cons, ih]
        · exact ih
      · rw [List.filter_cons_of_pos hidden, List.filter_cons_of_pos hidden', List.map_cons,
          List.map_cons, ih, sameLabel]

theorem forall₂_flatMap {α β : Type} {related : β → β → Prop} {f g : α → List β} {items : List α}
    (each : ∀ item ∈ items, List.Forall₂ related (f item) (g item)) :
    List.Forall₂ related (items.flatMap f) (items.flatMap g) := by
  induction items with
  | nil => exact .nil
  | cons item rest ih =>
      rw [List.flatMap_cons, List.flatMap_cons]
      exact List.rel_append (each item List.mem_cons_self)
        (ih fun other member => each other (List.mem_cons_of_mem item member))

end Kindred

section Aggregates

variable {F : Type} {floats : Floats F} {unit : Metric → String}
  {tasks tasks' : List (TaskObservations F)}

theorem absenceCounts_eq (paired : List.Forall₂ (Paired floats) tasks tasks') (metric : Metric) :
    absenceCounts tasks metric = absenceCounts tasks' metric := by
  unfold absenceCounts
  by_cases isSuccess : metric = .taskSuccess
  · subst isSuccess
    obtain ⟨scored, scored'⟩ := allScored_of_paired paired
    rw [scored.absences, scored'.absences]
  · rw [observedOf_eq paired isSuccess]

/-- Every task has a number under the metric. -/
def Numbered (tasks : List (TaskObservations F)) (metric : Metric) : Prop :=
  ∀ task ∈ tasks, (numberOf (task.get metric)).isSome = true

theorem Numbered.all {metric : Metric} (numbered : Numbered tasks metric) :
    ((observedOf tasks metric).all fun observation => (numberOf observation).isSome) = true := by
  rw [observedOf, List.all_map, List.all_eq_true]
  exact numbered

/-- A metric has a run value over the tasks, if there are any, that all have a number under it. -/
theorem valueless_iff {metric : Metric} : valueless (observedOf tasks metric) = false ↔
    tasks ≠ [] ∧ Numbered tasks metric := by
  have each : ∀ task : TaskObservations F, (numberOf (task.get metric)).isSome = true ↔
      absenceOf (task.get metric) = none ∧ (task.get metric).isNone = false := by
    intro task
    cases task.get metric with
    | none => simp [numberOf]
    | some observation =>
        obtain ⟨_, reading⟩ := observation
        cases reading <;> simp [numberOf, absenceOf, Reading.value?, Reading.absent?]
  simp only [valueless, observedOf, Numbered, Bool.or_eq_false_iff, Bool.not_eq_false',
    List.isEmpty_iff, List.filterMap_eq_nil_iff, List.mem_map, List.any_eq_false, each]
  constructor
  · rintro ⟨⟨present, nonempty⟩, some_⟩
    refine ⟨?_, fun task member => ⟨present _ ⟨task, member, rfl⟩, ?_⟩⟩
    · rintro rfl
      cases nonempty
    · exact Bool.eq_false_iff.mpr (some_ _ ⟨task, member, rfl⟩)
  · rintro ⟨nonempty, numbered⟩
    refine ⟨⟨?_, ?_⟩, ?_⟩
    · rintro _ ⟨task, member, rfl⟩
      exact (numbered task member).1
    · cases tasks with
      | nil => exact absurd rfl nonempty
      | cons => rfl
    · rintro _ ⟨task, member, rfl⟩
      exact Bool.eq_false_iff.mp (numbered task member).2

theorem AllScored.numbered (scored : AllScored floats tasks) : Numbered tasks .taskSuccess := by
  intro task member
  obtain ⟨score, rest, here⟩ := scored task member
  rw [here.number]
  rfl

/-- Scores have no slice of their own. -/
theorem sliceValues_taskSuccess (succeeded : Option (List (TaskObservations F))) :
    sliceValues floats unit succeeded .taskSuccess = [] := by
  unfold sliceValues
  split <;> rfl

/-- A slice that is there is one value, kept back under the name of its metric. -/
theorem sliceValues_kindred {succeeded succeeded' : List (TaskObservations F)}
    (alike : succeeded = [] ↔ succeeded' = []) {metric : Metric}
    (numbered : Numbered succeeded metric) (numbered' : Numbered succeeded' metric) :
    List.Forall₂ Kindred (sliceValues floats unit (some succeeded) metric)
      (sliceValues floats unit (some succeeded') metric) := by
  cases succeeded with
  | nil =>
      rw [alike.mp rfl]
      exact .nil
  | cons task rest =>
      cases succeeded' with
      | nil => exact absurd (alike.mpr rfl) (List.cons_ne_nil task rest)
      | cons task' rest' =>
          simp only [sliceValues, numbered.all, numbered'.all, Bool.and_true]
          split
          · exact .cons (.inr ⟨rfl, rfl, rfl⟩) .nil
          · exact .nil

variable [DecidableEq F]

theorem successes_eq_nil : successes floats tasks = [] ↔ ¬ SomeSucceeded floats tasks := by
  simp [successes, SomeSucceeded, List.filter_eq_nil_iff]

theorem Numbered.successes {metric : Metric} (numbered : Numbered tasks metric) :
    Numbered (successes floats tasks) metric :=
  fun task member => numbered task (List.mem_of_mem_filter member)

/-- Equal means of two or more scores leave one set of names and one set of released values. -/
theorem metricValues_kindred (paired : List.Forall₂ (Paired floats) tasks tasks')
    (nonempty : tasks ≠ [])
    (means : floats.mean (scoresOf tasks) = floats.mean (scoresOf tasks')) (metric : Metric) :
    List.Forall₂ Kindred (metricValues floats unit tasks metric)
      (metricValues floats unit tasks' metric) := by
  obtain ⟨scored, scored'⟩ := allScored_of_paired paired
  have sameLength : tasks.length = tasks'.length := paired.length_eq
  have nonempty' : tasks' ≠ [] := by
    rintro rfl
    exact nonempty (List.length_eq_zero_iff.mp sameLength)
  have alike : successes floats tasks = [] ↔ successes floats tasks' = [] := by
    rw [successes_eq_nil, successes_eq_nil, someSucceeded_iff scored nonempty,
      someSucceeded_iff scored' nonempty', means]
  unfold metricValues
  rw [scored.succeeded nonempty, scored'.succeeded nonempty']
  by_cases isSuccess : metric = .taskSuccess
  · subst isSuccess
    have sameScores : (scoresOf tasks).length = (scoresOf tasks').length := by
      rw [scored.length, scored'.length, sameLength]
    rw [valueless_iff.mpr ⟨nonempty, scored.numbered⟩,
      valueless_iff.mpr ⟨nonempty', scored'.numbered⟩,
      sliceValues_taskSuccess, sliceValues_taskSuccess, if_neg Bool.false_ne_true,
      if_neg Bool.false_ne_true]
    unfold scoresOf at means sameScores
    rw [means, sameScores]
    exact .cons (.inl rfl) .nil
  · have sameObserved := observedOf_eq paired isSuccess
    cases valued : valueless (observedOf tasks metric) with
    | true =>
        rw [← sameObserved, valued]
        exact .nil
    | false =>
        have numbered := (valueless_iff.mp valued).2
        have numbered' := (valueless_iff.mp (sameObserved ▸ valued)).2
        rw [← sameObserved, valued]
        exact .cons (.inl rfl)
          (sliceValues_kindred alike (numbered.successes) (numbered'.successes))

/-- The name of the slice of `retries`, which every task has a value for. -/
def retriesSlice : String := "retries/successful-tasks"

theorem retriesSlice_ne_name (metric : Metric) : metric.name ++ "" ≠ retriesSlice := by
  cases metric <;> decide

/-- The names of what is kept back tell whether some task succeeded. -/
theorem retriesSlice_withheld_iff (unit : Metric → String) (scored : AllScored floats tasks)
    (nonempty : tasks ≠ []) {metrics : List Metric} (listed : .retries ∈ metrics) :
    retriesSlice ∈ ((metrics.flatMap (metricValues floats unit tasks)).filter
      RunValue.hidden).map RunValue.label ↔ SomeSucceeded floats tasks := by
  have numbered : Numbered tasks .retries := by
    intro task member
    obtain ⟨score, rest, here⟩ := scored task member
    exact here.retried_number
  constructor
  · intro named
    obtain ⟨value, kept, isName⟩ := List.mem_map.mp named
    obtain ⟨metric, _, inValues⟩ := List.mem_flatMap.mp (List.mem_of_mem_filter kept)
    unfold metricValues at inValues
    rw [scored.succeeded nonempty] at inValues
    split at inValues
    · cases inValues
    · rcases List.mem_cons.mp inValues with rfl | inSlice
      · exact absurd isName (retriesSlice_ne_name metric)
      · by_contra none
        rw [successes_eq_nil.mpr none] at inSlice
        cases inSlice
  · intro some_
    have notNil : successes floats tasks ≠ [] := fun none => successes_eq_nil.mp none some_
    obtain ⟨task, others, isCons⟩ := List.exists_cons_of_ne_nil notNil
    have numbered' : Numbered (successes floats tasks) .retries := numbered.successes
    refine List.mem_map.mpr ⟨⟨.retries, some successfulTasks, floats.mean
      ((observedOf (successes floats tasks) .retries).filterMap numberOf),
      ((observedOf (successes floats tasks) .retries).filterMap numberOf).length, unit .retries⟩,
      List.mem_filter.mpr ⟨List.mem_flatMap.mpr ⟨.retries, listed, ?_⟩, rfl⟩, rfl⟩
    unfold metricValues
    rw [valueless_iff.mpr ⟨nonempty, numbered⟩, scored.succeeded nonempty,
      if_neg Bool.false_ne_true]
    refine List.mem_cons_of_mem _ ?_
    rw [isCons] at numbered' ⊢
    simp [sliceValues, numbered'.all, Metric.referenceDerived]

end Aggregates

/-! ## What is observed -/

section Observed

variable {F : Type} {floats : Floats F} {text : TextMethods}

theorem forall₂_of_mapM {α β : Type} {f : α → Option β} {items : List α} {results : List β}
    (ran : items.mapM f = some results) :
    List.Forall₂ (fun item result => f item = some result) items results := by
  induction items generalizing results with
  | nil =>
      cases ran
      exact .nil
  | cons item rest ih =>
      simp only [List.mapM_cons, Option.bind_eq_bind, Option.bind_eq_some_iff] at ran
      obtain ⟨result, here, results', later, isCons⟩ := ran
      cases isCons
      exact .cons here (ih later)

theorem successObservation_binary {rule : Normalization} {task : Task}
    {observation : MetricObservation F}
    (found : successObservation floats text rule task = some observation) :
    observation.metric = .taskSuccess ∧ ∀ score, observation.reading = .value score →
      score = floats.ofInt 0 ∨ score = floats.ofInt 1 := by
  unfold successObservation at found
  split at found
  · cases found
    exact ⟨rfl, nofun⟩
  · split at found
    · cases found
      exact ⟨rfl, nofun⟩
    · split at found
      · simp only [Option.bind_eq_bind, Option.bind_eq_some_iff] at found
        obtain ⟨_, _, _, _, isThis⟩ := found
        cases isThis
        refine ⟨rfl, ?_⟩
        rintro score ⟨⟩
        split
        · exact .inr rfl
        · exact .inl rfl
      · cases found
        refine ⟨rfl, ?_⟩
        rintro score ⟨⟩
        exact .inl rfl

/-- An observed task that has a score is `Scored`. -/
theorem observeOutcome_scored {rule : Normalization} {tokenBudget : Option Nat} {task : Task}
    {observed : TaskObservations F}
    (ran : observeOutcome floats text rule tokenBudget task = some observed)
    (hasScore : (numberOf (observed.get .taskSuccess)).isSome = true) :
    (∃ score, Scored floats score (executionObservations floats task tokenBudget) observed) ∧
      successObservation floats text rule task = observed.get .taskSuccess := by
  simp only [observeOutcome, Option.bind_eq_bind, Option.bind_eq_some_iff] at ran
  obtain ⟨⟨metric, reading⟩, found, isThis⟩ := ran
  cases isThis
  obtain ⟨isSuccess, binary⟩ := successObservation_binary found
  subst isSuccess
  have got : TaskObservations.get (F := F) ⟨task.taskId, task.position,
      ⟨.taskSuccess, reading⟩ :: executionObservations floats task tokenBudget⟩ .taskSuccess =
      some ⟨.taskSuccess, reading⟩ := by
    simp [TaskObservations.get]
  rw [got] at hasScore ⊢
  refine ⟨?_, found⟩
  cases reading with
  | absent reason => cases hasScore
  | value score =>
      refine ⟨score, rfl, binary score rfl, ?_, ?_⟩
      · intro observation member
        simp only [executionObservations, List.mem_cons, List.not_mem_nil, or_false] at member
        rcases member with rfl | rfl | rfl | rfl | rfl | rfl | rfl | rfl | rfl | rfl | rfl | rfl |
          rfl | rfl | rfl | rfl | rfl
        all_goals
          simp only [attestedObservation, latencyObservation, utilizationObservation,
            spendObservation]
          repeat' split
          all_goals rfl
      · refine ⟨floats.ofInt (task.attempts.length - 1), ?_⟩
        unfold executionObservations attestedObservation latencyObservation
        cases task.result with
        | none => simp
        | some result =>
            simp only
            split <;> simp

variable [DecidableEq F]

/-- What an execution that returns has found and done. -/
theorem executed_outcome {execution : EvaluationExecutionSpec} {subject : Subject}
    {measured : Measured F} (outcome : execution.worker.config.kind = .outcome)
    (ran : executeHarnessEvaluation floats text execution subject = .ok measured) :
    ∃ evidence observed, subject.evidence = some evidence ∧
      List.Forall₂ (fun task result => observeOutcome floats text execution.worker.config.success
        evidence.tokenBudget task = some result) subject.tasks observed ∧
      ∃ spend, measured = measure floats execution evidence observed [] spend := by
  unfold executeHarnessEvaluation at ran
  simp only at ran
  split at ran
  · cases ran
  split at ran
  · cases ran
  rename_i evidence isEvidence
  split at ran
  · cases ran
  split at ran
  · cases ran
  split at ran
  · cases ran
  · rename_i observed exchanges spend observes
    unfold observeAll at observes
    rw [outcome] at observes
    simp only [Option.bind_eq_bind, Option.bind_eq_some_iff] at observes
    obtain ⟨_, all, isThis⟩ := observes
    cases isThis
    cases ran
    exact ⟨evidence, observed, isEvidence, forall₂_of_mapM all, _, rfl⟩

end Observed

/-! ## Aggregate disclosure -/

section Hiding

variable {F : Type} {floats : Floats F} {text : TextMethods}
  {tasks tasks' : List (TaskObservations F)}

theorem releasedTasks_eq (paired : List.Forall₂ (Paired floats) tasks tasks') :
    releasedTasks tasks .aggregate = releasedTasks tasks' .aggregate := by
  have kept : ∀ {score : F} {rest : List (MetricObservation F)} {task : TaskObservations F},
      Scored floats score rest task → (task.observations.filter fun observation =>
        !observation.metric.referenceDerived) = rest := by
    intro score rest task scored
    rw [scored.observations, List.filter_cons_of_neg (by simp [Metric.referenceDerived]),
      List.filter_eq_self]
    intro observation member
    rw [scored.execution observation member]
    rfl
  induction paired with
  | nil => rfl
  | cons here _ ih =>
      obtain ⟨sameId, samePosition, score, score', rest, scored, scored'⟩ := here
      simp only [releasedTasks, List.map_cons, sameId, samePosition, kept scored,
        kept scored'] at ih ⊢
      rw [ih]

/-- A scored task keeps an evaluation from failing as wholly cancelled. -/
theorem AllScored.not_cancelled (scored : AllScored floats tasks) (nonempty : tasks ≠ []) :
    ((tasks.flatMap TaskObservations.observations).all fun observation =>
      !observation.metric.referenceDerived ||
        observation.reading.absent? = some .unscoredCancelled) = false := by
  obtain ⟨task, rest, rfl⟩ := List.exists_cons_of_ne_nil nonempty
  obtain ⟨score, others, here⟩ := scored task List.mem_cons_self
  rw [List.flatMap_cons, here.observations]
  rfl

/-- Two tasks' observations that differ in the value of `task_success` at most. -/
structure SameButSuccess (first second : TaskObservations F) : Prop where
  taskId : first.taskId = second.taskId
  position : first.position = second.position
  observations : List.Forall₂ (fun observation observation' =>
    observation.metric = observation'.metric ∧
      (observation.metric ≠ .taskSuccess → observation = observation'))
    first.observations second.observations

theorem execution_eq {rest rest' : List (MetricObservation F)}
    (execution : ∀ observation ∈ rest, observation.metric.referenceDerived = false)
    (alike : List.Forall₂ (fun observation observation' : MetricObservation F =>
      observation.metric = observation'.metric ∧
        (observation.metric ≠ .taskSuccess → observation = observation')) rest rest') :
    rest = rest' := by
  induction alike with
  | nil => rfl
  | @cons observation _ _ _ here _ ih =>
      have notSuccess : observation.metric ≠ .taskSuccess := by
        intro isSuccess
        have executed := execution observation List.mem_cons_self
        rw [isSuccess] at executed
        cases executed
      rw [here.2 notSuccess, ih fun other member => execution other (List.mem_cons_of_mem _ member)]

/-- Scored tasks that differ in their scores at most have one execution. -/
theorem SameButSuccess.paired {first second : TaskObservations F} {score score' : F}
    {rest rest' : List (MetricObservation F)} (same : SameButSuccess first second)
    (scored : Scored floats score rest first) (scored' : Scored floats score' rest' second) :
    Paired floats first second := by
  have alike := same.observations
  rw [scored.observations, scored'.observations, List.forall₂_cons] at alike
  have sameRest : rest = rest' := execution_eq scored.execution alike.2
  exact ⟨same.taskId, same.position, score, score', rest, scored, sameRest ▸ scored'⟩

/-- The observations of two executions that differ in their scores at most are paired. -/
theorem paired_of_observed {rule : Normalization} {tokenBudget : Option Nat}
    {inputs inputs' : List Task}
    (observes : List.Forall₂ (fun task result =>
      observeOutcome floats text rule tokenBudget task = some result) inputs tasks)
    (observes' : List.Forall₂ (fun task result =>
      observeOutcome floats text rule tokenBudget task = some result) inputs' tasks')
    (alike : List.Forall₂ SameButSuccess tasks tasks')
    (scored : Numbered tasks .taskSuccess) (scored' : Numbered tasks' .taskSuccess) :
    List.Forall₂ (Paired floats) tasks tasks' ∧
      inputs.map (successObservation floats text rule) = observedOf tasks .taskSuccess ∧
      inputs'.map (successObservation floats text rule) = observedOf tasks' .taskSuccess := by
  induction alike generalizing inputs inputs' with
  | nil =>
      cases observes
      cases observes'
      exact ⟨.nil, rfl, rfl⟩
  | @cons first second _ _ here _ ih =>
      obtain ⟨task, rest, ran, later, rfl⟩ := List.forall₂_cons_right_iff.mp observes
      obtain ⟨task', rest', ran', later', rfl⟩ := List.forall₂_cons_right_iff.mp observes'
      obtain ⟨⟨score, isScored⟩, success⟩ := observeOutcome_scored ran (scored _ List.mem_cons_self)
      obtain ⟨⟨score', isScored'⟩, success'⟩ :=
        observeOutcome_scored ran' (scored' _ List.mem_cons_self)
      obtain ⟨paired, successes, successes'⟩ := ih later later'
        (fun other member => scored other (List.mem_cons_of_mem first member))
        fun other member => scored' other (List.mem_cons_of_mem second member)
      refine ⟨.cons (here.paired isScored isScored') paired, ?_, ?_⟩
      · rw [List.map_cons, success, successes]
        rfl
      · rw [List.map_cons, success', successes']
        rfl

/-- Paired tasks with the same scores are the same. -/
theorem eq_of_paired (paired : List.Forall₂ (Paired floats) tasks tasks')
    (same : observedOf tasks .taskSuccess = observedOf tasks' .taskSuccess) : tasks = tasks' := by
  induction paired with
  | nil => rfl
  | @cons first second _ _ here _ ih =>
      rw [observedOf, observedOf, List.map_cons, List.map_cons, List.cons.injEq] at same
      obtain ⟨sameId, samePosition, score, score', rest, scored, scored'⟩ := here
      have sameGet := same.1
      rw [scored.get, scored'.get, if_pos rfl, if_pos rfl] at sameGet
      have sameObservations : first.observations = second.observations := by
        rw [scored.observations, scored'.observations, Option.some.inj sameGet]
      have isSecond : first = second := by
        cases first
        cases second
        cases sameId
        cases samePosition
        cases sameObservations
        rfl
      rw [isSecond, ih same.2]

variable [DecidableEq F]

/-- Observations that give the same released values and the same names give the same release. -/
theorem measure_hides {execution : EvaluationExecutionSpec} {evidence : HarnessRunEvidence}
    {exchanges : List JudgeExchange} {spend : Nat}
    (paired : List.Forall₂ (Paired floats) tasks tasks') (nonempty : tasks ≠ [])
    (kindred : ∀ metric, List.Forall₂ Kindred
      (metricValues floats (unitOf evidence.tokenCounter execution.worker.config.kind) tasks metric)
      (metricValues floats
        (unitOf evidence.tokenCounter execution.worker.config.kind) tasks' metric)) :
    (execution.worker.disclosure = .aggregate →
      (measure floats execution evidence tasks exchanges spend).report =
        (measure floats execution evidence tasks' exchanges spend).report) ∧
    providerFeedback (measure floats execution evidence tasks exchanges spend).report =
      providerFeedback (measure floats execution evidence tasks' exchanges spend).report := by
  have values : List.Forall₂ Kindred ((metricsOf execution.worker.config.kind).flatMap _)
      ((metricsOf execution.worker.config.kind).flatMap _) :=
    forall₂_flatMap fun metric _ => kindred metric
  have absences : (metricsOf execution.worker.config.kind).flatMap (absenceCounts tasks) =
      (metricsOf execution.worker.config.kind).flatMap (absenceCounts tasks') := by
    rw [funext (absenceCounts_eq paired)]
  have sameTasks := releasedTasks_eq paired
  have aggregate : execution.worker.disclosure = .aggregate →
      (measure floats execution evidence tasks exchanges spend).report =
        (measure floats execution evidence tasks' exchanges spend).report := by
    intro isAggregate
    obtain ⟨scored, scored'⟩ := allScored_of_paired paired
    have nonempty' : tasks' ≠ [] := by
      rintro rfl
      exact nonempty (List.length_eq_zero_iff.mp paired.length_eq)
    have sameFailure : ∀ values values' released : List (RunValue F),
        List.Forall₂ Kindred values values' →
        failureOf tasks values released = failureOf tasks' values' released := by
      intro values values' released related
      unfold failureOf
      rw [scored.not_cancelled nonempty, scored'.not_cancelled nonempty']
      cases related <;> rfl
    unfold measure
    simp only [isAggregate, aggregateRun, disclose, released_eq values, withheld_eq values,
      absences, sameTasks, sameFailure _ _ _ values]
  refine ⟨aggregate, ?_⟩
  cases disclosed : execution.worker.disclosure with
  | aggregate => rw [aggregate disclosed]
  | perTask =>
      unfold measure
      simp only [disclosed, providerFeedback, providerValues, aggregateRun, disclose,
        released_eq values, withheld_eq values]
      exact congrArg _ sameTasks

/-- A single task's score is told by the names of what is kept back. -/
theorem measure_tells {execution : EvaluationExecutionSpec} {evidence : HarnessRunEvidence}
    {exchanges : List JudgeExchange} {spend : Nat}
    (outcome : execution.worker.config.kind = .outcome) (scored : AllScored floats tasks)
    (scored' : AllScored floats tasks') (nonempty : tasks ≠ []) (nonempty' : tasks' ≠ [])
    (hides : (execution.worker.disclosure = .aggregate →
        (measure floats execution evidence tasks exchanges spend).report =
          (measure floats execution evidence tasks' exchanges spend).report) ∧
      providerFeedback (measure floats execution evidence tasks exchanges spend).report =
        providerFeedback (measure floats execution evidence tasks' exchanges spend).report) :
    SomeSucceeded floats tasks ↔ SomeSucceeded floats tasks' := by
  have listed : Metric.retries ∈ metricsOf execution.worker.config.kind := by
    rw [outcome]
    decide
  rw [← retriesSlice_withheld_iff (unitOf evidence.tokenCounter execution.worker.config.kind)
      scored nonempty listed,
    ← retriesSlice_withheld_iff (unitOf evidence.tokenCounter execution.worker.config.kind)
      scored' nonempty' listed]
  cases disclosed : execution.worker.disclosure with
  | aggregate =>
      have sameNames := congrArg HarnessEvaluationReport.withheld (hides.1 disclosed)
      simp only [measure, disclosed, aggregateRun, disclose] at sameNames
      rw [sameNames]
  | perTask =>
      have sameNames := congrArg ProviderFeedback.withheld hides.2
      simp only [measure, disclosed, aggregateRun, disclose, providerFeedback,
        providerValues] at sameNames
      rw [sameNames]

/-- For two outcome evaluations of one execution over the same evidence, whose observations differ
in the values of `task_success` at most, with every task scored in both and equal means of two or
more scores: the released report under `aggregate`, and the provider's view under either
disclosure, are the same exactly when there is not one single task or its score is the same. -/
theorem disclosure_hides_scores_iff (execution : EvaluationExecutionSpec)
    (subject subject' : Subject)
    (measured measured' : Measured F) (outcome : execution.worker.config.kind = .outcome)
    (ran : executeHarnessEvaluation floats text execution subject = .ok measured)
    (ran' : executeHarnessEvaluation floats text execution subject' = .ok measured')
    (sameEvidence : subject.evidence = subject'.evidence)
    (sameSpend : measured.report.spendLowerBound = measured'.report.spendLowerBound)
    (alike : List.Forall₂ SameButSuccess measured.restricted.tasks measured'.restricted.tasks)
    (scored : Numbered measured.restricted.tasks .taskSuccess)
    (scored' : Numbered measured'.restricted.tasks .taskSuccess)
    (means : 2 ≤ subject.tasks.length →
      floats.mean (scoresOf measured.restricted.tasks) =
        floats.mean (scoresOf measured'.restricted.tasks)) :
    ((execution.worker.disclosure = .aggregate → measured.report = measured'.report) ∧
      providerFeedback measured.report = providerFeedback measured'.report) ↔
    (subject.tasks.length ≠ 1 ∨
      subject.tasks.map (successObservation floats text execution.worker.config.success) =
        subject'.tasks.map (successObservation floats text execution.worker.config.success)) := by
  obtain ⟨evidence, tasks, isEvidence, observes, spend, rfl⟩ := executed_outcome outcome ran
  obtain ⟨evidence', tasks', isEvidence', observes', spend', rfl⟩ := executed_outcome outcome ran'
  rw [isEvidence, isEvidence', Option.some.injEq] at sameEvidence
  subst sameEvidence
  have isSpend : spend = spend' := sameSpend
  subst isSpend
  obtain ⟨paired, success, success'⟩ := paired_of_observed observes observes' alike scored scored'
  rw [success, success']
  have counted : subject.tasks.length = tasks.length := observes.length_eq
  rw [counted] at means ⊢
  constructor
  · intro hides
    by_cases single : tasks.length = 1
    · obtain ⟨task, rfl⟩ := List.length_eq_one_iff.mp single
      obtain ⟨task', rest, here, others, rfl⟩ := List.forall₂_cons_left_iff.mp paired
      cases others
      obtain ⟨allScored, allScored'⟩ := allScored_of_paired paired
      have told := measure_tells outcome allScored allScored' (List.cons_ne_nil _ _)
        (List.cons_ne_nil _ _) hides
      obtain ⟨_, _, score, score', _, isScored, isScored'⟩ := here
      simp only [SomeSucceeded, List.mem_singleton, exists_eq_left, isScored.number,
        isScored'.number, Option.some.injEq] at told
      have sameScore : score = score' := by
        rcases isScored.binary with isZero | isOne
        · rcases isScored'.binary with isZero' | isOne'
          · rw [isZero, isZero']
          · exact (told.mpr isOne').trans isOne'.symm
        · rw [isOne, told.mp isOne]
      refine .inr ?_
      rw [observedOf, observedOf, List.map_singleton, List.map_singleton, isScored.get,
        isScored'.get, sameScore]
    · exact .inl single
  · intro condition
    have cases_ : tasks = tasks' ∨ 2 ≤ tasks.length := by
      rcases condition with several | same
      · by_cases none : tasks = []
        · subst none
          cases paired
          exact .inl rfl
        · have some_ := List.length_pos_iff.mpr none
          exact .inr (by omega)
      · exact .inl (eq_of_paired paired same)
    rcases cases_ with rfl | several
    · exact ⟨fun _ => rfl, rfl⟩
    · have nonempty : tasks ≠ [] := by
        rintro rfl
        cases several
      exact measure_hides paired nonempty
        fun metric => metricValues_kindred paired nonempty (means several) metric

/-! ## One task, and two -/

/-- Rational arithmetic. -/
def ratios : Floats ℚ where
  ofInt n := n
  fsum := List.sum
  divide := (· / ·)
  zero_ne_one := by norm_num
  mean_scores := by
    intro scores binary nonempty
    have nonneg : ∀ score ∈ scores, (0 : ℚ) ≤ score := by
      intro score member
      rcases binary score member with rfl | rfl <;> norm_num
    have counted : ((scores.length : Int) : ℚ) ≠ 0 := by
      exact_mod_cast (List.length_pos_iff.mpr nonempty).ne'
    rw [Int.cast_zero, div_eq_zero_iff, or_iff_left counted]
    constructor
    · exact fun vanishes score member =>
        List.all_zero_of_le_zero_le_of_sum_eq_zero nonneg vanishes member
    · exact fun zeros => List.sum_eq_zero zeros

def verbatim : TextMethods := ⟨id, id⟩

def suiteEvidence : HarnessRunEvidence := ⟨"sha256:e", "suite", "all", "words", none⟩

def outcomeExecution : EvaluationExecutionSpec :=
  ⟨"sha256:f", "sha256:e", { evaluator := "harness-outcome", evaluatorVersion := "1"
                             config := ⟨"suite", "all", .none, .outcome⟩
                             disclosure := .aggregate }⟩

/-- A task answered with 4. -/
def answered (position : Nat) (reference : String) : Task where
  taskId := "sum"
  position := position
  result := some ⟨.finalAnswer, some "4", 1, 0, 0, 0, 0, 8, 1, 9⟩
  outcomeEvents := [.modelCallStarted 1, .modelCallFinished (some 1) .replied 8 1 (some 20)]
  attempts :=
    [(none, [.modelCallStarted 1, .modelCallFinished (some 1) .replied 8 1 (some 20)])]
  reference := some reference

/-- The tasks the references give, as an evaluation finds them. -/
def answeredAll (references : List String) : Subject where
  evidence := some suiteEvidence
  tasks := references.zipIdx.map fun (reference, position) => answered position reference

/-- What is observed of an answered task. -/
def observedAnswer (position : Nat) (score : ℚ) : TaskObservations ℚ :=
  ⟨"sum", position,
    ⟨.taskSuccess, .value score⟩ :: executionObservations ratios (answered position "") none⟩

theorem sameButSuccess_answer (position : Nat) (score score' : ℚ) :
    SameButSuccess (observedAnswer position score) (observedAnswer position score') :=
  ⟨rfl, rfl, .cons ⟨rfl, fun other => absurd rfl other⟩
    (List.forall₂_same.mpr fun _ _ => ⟨rfl, fun _ => rfl⟩)⟩

/-- One task that succeeds in one evaluation and fails in the other, under `aggregate`. -/
theorem single_score_told :
    ∃ measured measured' : Measured ℚ,
      executeHarnessEvaluation ratios verbatim outcomeExecution (answeredAll ["4"]) = .ok measured ∧
      executeHarnessEvaluation ratios verbatim outcomeExecution (answeredAll ["5"]) =
        .ok measured' ∧
      List.Forall₂ SameButSuccess measured.restricted.tasks measured'.restricted.tasks ∧
      Numbered measured.restricted.tasks .taskSuccess ∧
      Numbered measured'.restricted.tasks .taskSuccess ∧
      measured.report.spendLowerBound = measured'.report.spendLowerBound ∧
      outcomeExecution.worker.disclosure = .aggregate ∧ measured.report ≠ measured'.report := by
  refine ⟨measure ratios outcomeExecution suiteEvidence [observedAnswer 0 1] [] 9,
    measure ratios outcomeExecution suiteEvidence [observedAnswer 0 0] [] 9, rfl, rfl,
    .cons (sameButSuccess_answer 0 1 0) .nil, ?_, ?_, rfl, rfl, ?_⟩
  · intro task member
    rw [List.mem_singleton.mp member]
    rfl
  · intro task member
    rw [List.mem_singleton.mp member]
    rfl
  · intro same
    have names := congrArg HarnessEvaluationReport.withheld same
    revert names
    decide

theorem disclosure_hides_scores_iff_swapped :
    ∃ measured measured' : Measured ℚ,
      executeHarnessEvaluation ratios verbatim outcomeExecution (answeredAll ["4", "5"]) =
        .ok measured ∧
      executeHarnessEvaluation ratios verbatim outcomeExecution (answeredAll ["5", "4"]) =
        .ok measured' ∧
      measured.restricted.tasks ≠ measured'.restricted.tasks ∧
      measured.report = measured'.report ∧
      providerFeedback measured.report = providerFeedback measured'.report := by
  have ran : executeHarnessEvaluation ratios verbatim outcomeExecution (answeredAll ["4", "5"]) =
      .ok (measure ratios outcomeExecution suiteEvidence
        [observedAnswer 0 1, observedAnswer 1 0] [] 18) := rfl
  have ran' : executeHarnessEvaluation ratios verbatim outcomeExecution (answeredAll ["5", "4"]) =
      .ok (measure ratios outcomeExecution suiteEvidence
        [observedAnswer 0 0, observedAnswer 1 1] [] 18) := rfl
  have numbered : ∀ score score' : ℚ,
      Numbered [observedAnswer 0 score, observedAnswer 1 score'] .taskSuccess := by
    intro score score' task member
    rcases List.mem_pair.mp member with rfl | rfl <;> rfl
  have means : ratios.mean [1, 0] = ratios.mean [0, 1] := by norm_num [Floats.mean, ratios]
  have hides := (disclosure_hides_scores_iff outcomeExecution _ _ _ _ rfl ran ran' rfl rfl
    (.cons (sameButSuccess_answer 0 1 0) (.cons (sameButSuccess_answer 1 0 1) .nil))
    (numbered 1 0) (numbered 0 1) fun _ => means).mpr (.inl (by decide))
  refine ⟨_, _, ran, ran', ?_, hides.1 rfl, hides.2⟩
  intro same
  have scores := congrArg scoresOf same
  revert scores
  decide

end Hiding

end Xaytune.Evaluation
