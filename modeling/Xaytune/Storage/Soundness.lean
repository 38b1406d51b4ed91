import Xaytune.Storage.Growth

/-!
# The record is sound

What holds of the record at every point of every transaction: a row's owners are
stored and agree about the experiment, a cancellation not being opened is executing
or ended, and what a recovery decision or an intervention names is no cancellation.
-/

namespace Xaytune.Storage

open Xaytune.Core Xaytune.Library

/-- The record at a point of a transaction where `d` is owed. -/
structure Sound (d : Debt) (db : Db) : Prop where
  nodes : ∀ id node, db.nodes.find? id = some node →
    ∃ experiment, db.experiments.find? node.experimentId = some experiment
  runs : ∀ id run, db.runs.find? id = some run →
    ∃ node, db.nodes.find? run.nodeId = some node ∧ node.experimentId = run.experimentId
  attempts : ∀ id attempt, db.attempts.find? id = some attempt →
    ∃ run, db.runs.find? attempt.runId = some run
  evaluationRuns : ∀ id run, db.evaluationRuns.find? id = some run →
    ∃ node, db.nodes.find? run.nodeId = some node ∧ node.experimentId = run.experimentId
  evaluationAttempts : ∀ id attempt, db.evaluationAttempts.find? id = some attempt →
    ∃ run, db.evaluationRuns.find? attempt.evaluationRunId = some run
  operations : ∀ id operation, db.operations.find? id = some operation →
    db.hasAttempt operation.target.kind.toActionTargetKind operation.target.id
  cancellations : ∀ id action, db.actions.find? id = some action → action.isCancellation = true →
    .opening id ∈ d ∨ action.status = .executing ∨ action.isTerminal = true
  children : ∀ id action, db.actions.find? id = some action →
    action.parentActionId.isSome → action.type = "cancel-attempt"
  targets : ∀ id action, db.actions.find? id = some action → action.type = "cancel-attempt" →
    db.hasAttempt action.target.kind action.target.id
  sagas : ∀ id action, db.actions.find? id = some action → action.type = "cancel-experiment" →
    ∃ experiment, db.experiments.find? action.target.id = some experiment
  oomBindings : ∀ id binding, db.oomBindings.find? id = some binding →
    ∃ action, db.actions.find? id = some action ∧ action.type = "resize-microbatch"
  numericalBindings : ∀ id binding, db.numericalBindings.find? id = some binding →
    ∃ action episode, db.actions.find? id = some action ∧
      action.type = "change-learning-rate" ∧
      db.episodes.find? binding.proposal.episodeId = some episode ∧
      action.target = ⟨.run, episode.context.runId⟩
  numericalReceipts : ∀ id receipt, db.numericalReceipts.find? id = some receipt →
    ∃ action, db.actions.find? id = some action ∧ action.type = "change-learning-rate"
  interventions : ∀ id row, db.interventions.find? id = some row →
    ∃ action, db.actions.find? row.intervention.actionId = some action ∧
      action.type = "change-learning-rate"
  amounts : ∀ key entry, db.ledger.find? key = some entry → entry.amount = 1
  slots : ∀ id attempt, db.attempts.find? id = some attempt →
    .slot id ∈ d ∨ db.Accounted .trainingAttempt id .parallelRuns .reserve
  quotas : ∀ id run, db.runs.find? id = some run →
    .quota id ∈ d ∨ db.Accounted .run id .runs .reserve

theorem Sound.empty : Sound [] Db.empty := by
  constructor <;> intro _ _ found <;> cases found

section Kept

variable {L : Licence} {d d' : Debt} {db db' : Db}

theorem Grows.hasAttempt (grows : Grows db db') {kind : ActionTargetKind} {id : String}
    (has : db.hasAttempt kind id) : db'.hasAttempt kind id := by
  cases kind with
  | trainingAttempt =>
      obtain ⟨attempt, found⟩ := has
      obtain ⟨later, found', _⟩ := grows.attempts id attempt found
      exact ⟨later, found'⟩
  | evaluationAttempt =>
      obtain ⟨attempt, found⟩ := has
      obtain ⟨later, found', _⟩ := grows.evaluationAttempts id attempt found
      exact ⟨later, found'⟩
  | experiment | node | run | evaluationRun => cases has

/-- A later action is the same action in another status. -/
theorem ActionLater.same {old new : Action} (later : ActionLater old new) :
    new.id = old.id ∧ new.type = old.type ∧ new.target = old.target ∧
      new.experimentId = old.experimentId ∧ new.parentActionId = old.parentActionId := by
  obtain ⟨_, _, _, _, rfl, _⟩ := later
  exact ⟨rfl, rfl, rfl, rfl, rfl⟩

theorem ActionLater.isCancellation_eq {old new : Action} (later : ActionLater old new) :
    new.isCancellation = old.isCancellation := by
  rw [Action.isCancellation, later.same.2.1, Action.isCancellation]

theorem Grows.typedAction (grows : Grows db db') {id type : String}
    (typed : ∃ action, db.actions.find? id = some action ∧ action.type = type) :
    ∃ action, db'.actions.find? id = some action ∧ action.type = type := by
  obtain ⟨action, found, isType⟩ := typed
  obtain ⟨action', found', later⟩ := grows.actions id action found
  exact ⟨action', found', later.same.2.1.trans isType⟩

theorem Write.sound_nodes (write : Write L d db d' db') (sound : Sound d db) :
    ∀ id node, db'.nodes.find? id = some node →
      ∃ experiment, db'.experiments.find? node.experimentId = some experiment := by
  intro id node found
  have owner : ∃ experiment, db.experiments.find? node.experimentId = some experiment := by
    rcases write.node_origin found with ⟨old, stored, _, _, _, _, rfl, _⟩ | ⟨_, new⟩
    · exact sound.nodes id old stored
    · obtain ⟨experiment, stored, _⟩ := new.owner
      exact ⟨experiment, stored⟩
  obtain ⟨experiment, stored⟩ := owner
  obtain ⟨later, found', _⟩ := write.grows.experiments _ experiment stored
  exact ⟨later, found'⟩

/-- A node keeps its experiment. -/
theorem Grows.ownedNode (grows : Grows db db') {nodeId experimentId : String}
    (owned : ∃ node, db.nodes.find? nodeId = some node ∧ node.experimentId = experimentId) :
    ∃ node, db'.nodes.find? nodeId = some node ∧ node.experimentId = experimentId := by
  obtain ⟨node, stored, same⟩ := owned
  obtain ⟨later, found', _, _, _, _, rfl, _⟩ := grows.nodes _ node stored
  exact ⟨_, found', same⟩

theorem Write.sound_runs (write : Write L d db d' db') (sound : Sound d db) :
    ∀ id run, db'.runs.find? id = some run →
      ∃ node, db'.nodes.find? run.nodeId = some node ∧ node.experimentId = run.experimentId := by
  intro id run found
  refine write.grows.ownedNode ?_
  rcases write.run_origin found with ⟨old, stored, _, _, rfl, _⟩ | ⟨_, new⟩
  · exact sound.runs id old stored
  · exact new.node

theorem Write.sound_attempts (write : Write L d db d' db') (sound : Sound d db) :
    ∀ id attempt, db'.attempts.find? id = some attempt →
      ∃ run, db'.runs.find? attempt.runId = some run := by
  intro id attempt found
  have owner : ∃ run, db.runs.find? attempt.runId = some run := by
    rcases write.attempt_origin found with ⟨old, stored, _, _, _, rfl, _⟩ | ⟨_, new⟩
    · exact sound.attempts id old stored
    · obtain ⟨run, _, stored, _⟩ := new.owner
      exact ⟨run, stored⟩
  obtain ⟨run, stored⟩ := owner
  obtain ⟨later, found', _⟩ := write.grows.runs _ run stored
  exact ⟨later, found'⟩

theorem Write.sound_evaluationRuns (write : Write L d db d' db') (sound : Sound d db) :
    ∀ id run, db'.evaluationRuns.find? id = some run →
      ∃ node, db'.nodes.find? run.nodeId = some node ∧ node.experimentId = run.experimentId := by
  intro id run found
  refine write.grows.ownedNode ?_
  rcases write.evaluationRun_origin found with ⟨old, stored, _, _, rfl, _⟩ | ⟨_, new⟩
  · exact sound.evaluationRuns id old stored
  · obtain ⟨node, stored, same, _⟩ := new.node
    exact ⟨node, stored, same⟩

theorem Write.sound_evaluationAttempts (write : Write L d db d' db') (sound : Sound d db) :
    ∀ id attempt, db'.evaluationAttempts.find? id = some attempt →
      ∃ run, db'.evaluationRuns.find? attempt.evaluationRunId = some run := by
  intro id attempt found
  have owner : ∃ run, db.evaluationRuns.find? attempt.evaluationRunId = some run := by
    rcases write.evaluationAttempt_origin found with ⟨old, stored, _, _, rfl, _⟩ | ⟨_, new⟩
    · exact sound.evaluationAttempts id old stored
    · obtain ⟨run, stored, _⟩ := new.run
      exact ⟨run, stored⟩
  obtain ⟨run, stored⟩ := owner
  obtain ⟨later, found', _⟩ := write.grows.evaluationRuns _ run stored
  exact ⟨later, found'⟩

theorem Write.sound_operations (write : Write L d db d' db') (sound : Sound d db) :
    ∀ id operation, db'.operations.find? id = some operation →
      db'.hasAttempt operation.target.kind.toActionTargetKind operation.target.id := by
  intro id operation found
  refine write.grows.hasAttempt ?_
  rcases write.operation_origin found with ⟨old, stored, _, _, _, rfl, _⟩ | ⟨_, new⟩
  · exact sound.operations id old stored
  · exact new.target

/-- An executing action only ends. -/
theorem ActionMoves.settled {old new : Action} (moved : ActionMoves old new)
    (executing : old.status = .executing) : new.isTerminal = true := by
  obtain ⟨status, _, _, permitted | ⟨_, validated⟩, rfl⟩ := moved
  · rw [executing] at permitted
    cases status <;> simp [actionMachine, StateMachine.can] at permitted <;> rfl
  · rw [executing] at validated
    cases validated

/-- What a transaction owes is forgotten only when it is paid. -/
theorem Write.still_owed {owed : Owed} (write : Write L d db d' db') (due : owed ∈ d)
    (unpaid : ¬ Paid db owed) : owed ∈ d' := by
  cases write with
  | pay _ paid => exact (paid owed due).resolve_right unpaid
  | insertRun | insertAttempt => cases due
  | insertExperiment | insertNode | insertEvaluationRun | insertEvaluationAttempt
  | insertOperation | moveExperiment | moveEvaluationRun =>
      exact List.mem_cons_of_mem _ due
  | insertAction | moveNode | moveRun | moveAttempt | moveEvaluationAttempt | moveOperation =>
      exact List.mem_cons_of_mem _ (List.mem_append_right _ due)
  | _ => exact due

theorem Write.sound_cancellations (write : Write L d db d' db') (sound : Sound d db) :
    ∀ id action, db'.actions.find? id = some action → action.isCancellation = true →
      .opening id ∈ d' ∨ action.status = .executing ∨ action.isTerminal = true := by
  intro id action found cancels
  have kept : ∀ old, db.actions.find? id = some old → old.isCancellation = true →
      action = old → .opening id ∈ d' ∨ action.status = .executing ∨ action.isTerminal = true := by
    rintro old stored cancels rfl
    rcases sound.cancellations id action stored cancels with opening | settled
    · by_cases paid : Paid db (.opening id)
      · exact .inr (paid action stored)
      · exact .inl (write.still_owed opening paid)
    · exact .inr settled
  cases id_eq : write with
  | insertAction row table inserted new =>
      rcases (Table.find?_insert? inserted).mp found with ⟨rfl, rfl⟩ | ⟨_, stored⟩
      · refine .inl (List.mem_cons_of_mem _ (List.mem_append_left _ ?_))
        rw [actionDebt, if_pos cancels]
        exact List.mem_singleton.mpr rfl
      · exact kept action stored cancels rfl
  | moveAction old new event destinations stored moved =>
      rcases (Table.find?_replace stored).mp found with ⟨rfl, rfl⟩ | ⟨_, stored⟩
      · have same : old.isCancellation = true := moved.later.isCancellation_eq ▸ cancels
        rcases sound.cancellations _ old stored same with opening | executing | ended
        · exact .inl opening
        · exact .inr (.inr (moved.settled executing))
        · rw [moved.not_terminal] at ended
          cases ended
      · exact kept action stored cancels rfl
  | _ => exact kept action found cancels rfl

theorem Write.sound_actions (write : Write L d db d' db') (sound : Sound d db) :
    ∀ id action, db'.actions.find? id = some action →
      (action.parentActionId.isSome → action.type = "cancel-attempt") ∧
      (action.type = "cancel-attempt" → db'.hasAttempt action.target.kind action.target.id) ∧
      (action.type = "cancel-experiment" →
        ∃ experiment, db'.experiments.find? action.target.id = some experiment) := by
  intro id action found
  have before : (action.parentActionId.isSome → action.type = "cancel-attempt") ∧
      (action.type = "cancel-attempt" → db.hasAttempt action.target.kind action.target.id) ∧
      (action.type = "cancel-experiment" →
        ∃ experiment, db.experiments.find? action.target.id = some experiment) := by
    rcases write.action_origin found with ⟨old, stored, _, _, _, _, rfl, _⟩ | ⟨_, new⟩
    · exact ⟨sound.children id old stored, sound.targets id old stored, sound.sagas id old stored⟩
    · exact ⟨new.child, new.target, new.saga⟩
  refine ⟨before.1, fun type => write.grows.hasAttempt (before.2.1 type), ?_⟩
  intro type
  obtain ⟨experiment, stored⟩ := before.2.2 type
  obtain ⟨later, found', _⟩ := write.grows.experiments _ experiment stored
  exact ⟨later, found'⟩

theorem Write.sound_oomBindings (write : Write L d db d' db') (sound : Sound d db) :
    ∀ id binding, db'.oomBindings.find? id = some binding →
      ∃ action, db'.actions.find? id = some action ∧ action.type = "resize-microbatch" := by
  intro id binding found
  refine write.grows.typedAction ?_
  cases write with
  | oomBinding row table action inserted bound type =>
      rcases (Table.find?_insert? inserted).mp found with ⟨rfl, rfl⟩ | ⟨_, stored⟩
      · exact ⟨action, bound, type⟩
      · exact sound.oomBindings id binding stored
  | _ => exact sound.oomBindings id binding found

theorem Write.sound_numericalBindings (write : Write L d db d' db') (sound : Sound d db) :
    ∀ id binding, db'.numericalBindings.find? id = some binding →
      ∃ action episode, db'.actions.find? id = some action ∧
        action.type = "change-learning-rate" ∧
        db'.episodes.find? binding.proposal.episodeId = some episode ∧
        action.target = ⟨.run, episode.context.runId⟩ := by
  intro id binding found
  have before : ∃ action episode, db.actions.find? id = some action ∧
      action.type = "change-learning-rate" ∧
      db.episodes.find? binding.proposal.episodeId = some episode ∧
      action.target = ⟨.run, episode.context.runId⟩ := by
    cases write with
    | numericalBinding row table action episode inserted bound type opened sameRun =>
        rcases (Table.find?_insert? inserted).mp found with ⟨rfl, rfl⟩ | ⟨_, stored⟩
        · exact ⟨action, episode, bound, type, opened, sameRun⟩
        · exact sound.numericalBindings id binding stored
    | _ => exact sound.numericalBindings id binding found
  obtain ⟨action, episode, bound, type, opened, sameRun⟩ := before
  obtain ⟨action', bound', later⟩ := write.grows.actions _ action bound
  obtain ⟨_, opened', rfl⟩ := write.grows.episodes _ episode opened
  obtain ⟨_, sameType, sameTarget, _⟩ := later.same
  exact ⟨action', episode, bound', sameType.trans type, opened', sameTarget.trans sameRun⟩

theorem Write.sound_numericalReceipts (write : Write L d db d' db') (sound : Sound d db) :
    ∀ id receipt, db'.numericalReceipts.find? id = some receipt →
      ∃ action, db'.actions.find? id = some action ∧ action.type = "change-learning-rate" := by
  intro id receipt found
  refine write.grows.typedAction ?_
  cases write with
  | numericalReceipt row table binding inserted bound =>
      rcases (Table.find?_insert? inserted).mp found with ⟨rfl, rfl⟩ | ⟨_, stored⟩
      · obtain ⟨action, _, stored, type, _⟩ := sound.numericalBindings _ binding bound
        exact ⟨action, stored, type⟩
      · exact sound.numericalReceipts id receipt stored
  | _ => exact sound.numericalReceipts id receipt found

theorem Write.sound_interventions (write : Write L d db d' db') (sound : Sound d db) :
    ∀ id row, db'.interventions.find? id = some row →
      ∃ action, db'.actions.find? row.intervention.actionId = some action ∧
        action.type = "change-learning-rate" := by
  intro id row found
  refine write.grows.typedAction ?_
  cases write with
  | intervention decision run action actor outbox table runFound decided type inserted =>
      rcases (Table.find?_insert? inserted).mp found with ⟨rfl, rfl⟩ | ⟨_, stored⟩
      · exact ⟨action, decided, type⟩
      · exact sound.interventions id row stored
  | _ => exact sound.interventions id row found

theorem Write.sound_amounts (write : Write L d db d' db') (sound : Sound d db) :
    ∀ key entry, db'.ledger.find? key = some entry → entry.amount = 1 := by
  intro key entry found
  cases write with
  | post row table inserted owned | fail row table _ _ _ _ _ inserted owned =>
      rcases (Table.find?_insert? inserted).mp found with ⟨rfl, rfl⟩ | ⟨_, stored⟩
      · exact owned.one
      · exact sound.amounts key entry stored
  | _ => exact sound.amounts key entry found

/-! ## Owners and accounts -/

/-- A run's experiment is stored. -/
theorem Sound.experimentOfRun (sound : Sound d db) {id : String} {run : Run}
    (found : db.runs.find? id = some run) :
    ∃ experiment, db.experiments.find? run.experimentId = some experiment := by
  obtain ⟨node, nodeFound, same⟩ := sound.runs id run found
  exact same ▸ sound.nodes _ node nodeFound

theorem Sound.experimentOfEvaluationRun (sound : Sound d db) {id : String} {run : EvaluationRun}
    (found : db.evaluationRuns.find? id = some run) :
    ∃ experiment, db.experiments.find? run.experimentId = some experiment := by
  obtain ⟨node, nodeFound, same⟩ := sound.evaluationRuns id run found
  exact same ▸ sound.nodes _ node nodeFound

/-- The experiment that owns a subject is stored. -/
theorem Sound.ownerStored (sound : Sound d db) {kind : BudgetSubjectKind} {id experimentId : String}
    (owner : db.ownerOf? kind id = some experimentId) :
    ∃ experiment, db.experiments.find? experimentId = some experiment := by
  cases kind with
  | run =>
      obtain ⟨run, found, rfl⟩ := Option.map_eq_some_iff.mp owner
      exact sound.experimentOfRun found
  | trainingAttempt =>
      obtain ⟨attempt, _, owner⟩ := Option.bind_eq_some_iff.mp owner
      obtain ⟨run, found, rfl⟩ := Option.map_eq_some_iff.mp owner
      exact sound.experimentOfRun found
  | evaluationAttempt =>
      obtain ⟨attempt, _, owner⟩ := Option.bind_eq_some_iff.mp owner
      obtain ⟨run, found, rfl⟩ := Option.map_eq_some_iff.mp owner
      exact sound.experimentOfEvaluationRun found

/-- A subject keeps its experiment. -/
theorem Grows.ownerOf (grows : Grows db db') {kind : BudgetSubjectKind} {id experimentId : String}
    (owner : db.ownerOf? kind id = some experimentId) :
    db'.ownerOf? kind id = some experimentId := by
  cases kind with
  | run =>
      obtain ⟨run, found, rfl⟩ := Option.map_eq_some_iff.mp owner
      obtain ⟨_, found', _, _, rfl, _⟩ := grows.runs _ run found
      exact Option.map_eq_some_iff.mpr ⟨_, found', rfl⟩
  | trainingAttempt =>
      obtain ⟨attempt, attemptFound, owner⟩ := Option.bind_eq_some_iff.mp owner
      obtain ⟨run, found, rfl⟩ := Option.map_eq_some_iff.mp owner
      obtain ⟨_, attemptFound', _, _, _, rfl, _⟩ := grows.attempts _ attempt attemptFound
      obtain ⟨_, found', _, _, rfl, _⟩ := grows.runs _ run found
      exact Option.bind_eq_some_iff.mpr
        ⟨_, attemptFound', Option.map_eq_some_iff.mpr ⟨_, found', rfl⟩⟩
  | evaluationAttempt =>
      obtain ⟨attempt, attemptFound, owner⟩ := Option.bind_eq_some_iff.mp owner
      obtain ⟨run, found, rfl⟩ := Option.map_eq_some_iff.mp owner
      obtain ⟨_, attemptFound', _, _, rfl, _⟩ := grows.evaluationAttempts _ attempt attemptFound
      obtain ⟨_, found', _, _, rfl, _⟩ := grows.evaluationRuns _ run found
      exact Option.bind_eq_some_iff.mpr
        ⟨_, attemptFound', Option.map_eq_some_iff.mpr ⟨_, found', rfl⟩⟩

/-- A stored experiment keeps its limits. -/
theorem Grows.limitOn_eq (grows : Grows db db') {experimentId : String} {experiment : Experiment}
    (found : db.experiments.find? experimentId = some experiment) (dimension : BudgetDimension) :
    db'.limitOn experimentId dimension = db.limitOn experimentId dimension := by
  obtain ⟨_, found', _, _, _, rfl, _⟩ := grows.experiments _ experiment found
  rw [Db.limitOn, found', Option.bind_some, Db.limitOn, found, Option.bind_some]

theorem Grows.entry (grows : Grows db db') {kind : BudgetSubjectKind} {id : String}
    {dimension : BudgetDimension} {entryKind : LedgerEntryKind}
    (written : (db.entryOf kind id dimension entryKind).isSome) :
    (db'.entryOf kind id dimension entryKind).isSome := by
  obtain ⟨entry, found⟩ := Option.isSome_iff_exists.mp written
  obtain ⟨_, found', _⟩ := grows.ledger _ entry found
  exact Option.isSome_iff_exists.mpr ⟨_, found'⟩

/-- A subject accounted for stays so. -/
theorem Db.Accounted.grows {kind : BudgetSubjectKind} {id experimentId : String}
    {dimension : BudgetDimension} {entryKind : LedgerEntryKind}
    (accounted : db.Accounted kind id dimension entryKind) (sound : Sound d db)
    (grows : Grows db db') (owner : db.ownerOf? kind id = some experimentId) :
    db'.Accounted kind id dimension entryKind := by
  intro owner' ownerFound limited
  rw [grows.ownerOf owner, Option.some.injEq] at ownerFound
  subst ownerFound
  obtain ⟨experiment, found⟩ := sound.ownerStored owner
  rw [grows.limitOn_eq found] at limited
  exact grows.entry (accounted _ owner limited)

theorem Sound.ownerOfRun (_ : Sound d db) {id : String} {run : Run}
    (found : db.runs.find? id = some run) : db.ownerOf? .run id = some run.experimentId :=
  Option.map_eq_some_iff.mpr ⟨run, found, rfl⟩

theorem Sound.ownerOfAttempt (sound : Sound d db) {id : String} {attempt : RunAttempt}
    (found : db.attempts.find? id = some attempt) :
    ∃ experimentId, db.ownerOf? .trainingAttempt id = some experimentId := by
  obtain ⟨run, runFound⟩ := sound.attempts id attempt found
  exact ⟨run.experimentId, Option.bind_eq_some_iff.mpr
    ⟨attempt, found, Option.map_eq_some_iff.mpr ⟨run, runFound, rfl⟩⟩⟩

theorem Write.sound_slots (write : Write L d db d' db') (sound : Sound d db) :
    ∀ id attempt, db'.attempts.find? id = some attempt →
      .slot id ∈ d' ∨ db'.Accounted .trainingAttempt id .parallelRuns .reserve := by
  intro id attempt found
  rcases write.attempt_origin found with ⟨old, stored, _⟩ | ⟨fresh, new⟩
  · obtain ⟨experimentId, owner⟩ := sound.ownerOfAttempt stored
    have accounted : ∀ paid : Paid db (.slot id),
        db'.Accounted .trainingAttempt id .parallelRuns .reserve :=
      fun paid => Db.Accounted.grows paid sound write.grows owner
    rcases sound.slots id old stored with owed | done
    · by_cases paid : Paid db (.slot id)
      · exact .inr (accounted paid)
      · exact .inl (write.still_owed owed paid)
    · exact .inr (accounted done)
  · cases write with
    | insertAttempt row table inserted =>
        rcases (Table.find?_insert? inserted).mp found with ⟨rfl, rfl⟩ | ⟨_, stored⟩
        · exact .inl (by simp)
        · rw [fresh] at stored
          cases stored
    | moveAttempt old row stored =>
        rcases (Table.find?_replace stored).mp found with ⟨rfl, rfl⟩ | ⟨_, stored'⟩
        · rw [fresh] at stored
          cases stored
        · rw [fresh] at stored'
          cases stored'
    | _ =>
        have absent : db.attempts.find? id = some attempt := found
        rw [fresh] at absent
        cases absent

theorem Write.sound_quotas (write : Write L d db d' db') (sound : Sound d db) :
    ∀ id run, db'.runs.find? id = some run →
      .quota id ∈ d' ∨ db'.Accounted .run id .runs .reserve := by
  intro id run found
  rcases write.run_origin found with ⟨old, stored, _⟩ | ⟨fresh, new⟩
  · have accounted : ∀ paid : Paid db (.quota id), db'.Accounted .run id .runs .reserve :=
      fun paid => Db.Accounted.grows paid sound write.grows (sound.ownerOfRun stored)
    rcases sound.quotas id old stored with owed | done
    · by_cases paid : Paid db (.quota id)
      · exact .inr (accounted paid)
      · exact .inl (write.still_owed owed paid)
    · exact .inr (accounted done)
  · cases write with
    | insertRun row table inserted =>
        rcases (Table.find?_insert? inserted).mp found with ⟨rfl, rfl⟩ | ⟨_, stored⟩
        · exact .inl (by simp)
        · rw [fresh] at stored
          cases stored
    | moveRun old row stored =>
        rcases (Table.find?_replace stored).mp found with ⟨rfl, rfl⟩ | ⟨_, stored'⟩
        · rw [fresh] at stored
          cases stored
        · rw [fresh] at stored'
          cases stored'
    | _ =>
        have absent : db.runs.find? id = some run := found
        rw [fresh] at absent
        cases absent

/-- Every write keeps the record sound. -/
theorem Write.sound (write : Write L d db d' db') (sound : Sound d db) : Sound d' db' where
  nodes := write.sound_nodes sound
  runs := write.sound_runs sound
  attempts := write.sound_attempts sound
  evaluationRuns := write.sound_evaluationRuns sound
  evaluationAttempts := write.sound_evaluationAttempts sound
  operations := write.sound_operations sound
  cancellations := write.sound_cancellations sound
  children id action found := (write.sound_actions sound id action found).1
  targets id action found := (write.sound_actions sound id action found).2.1
  sagas id action found := (write.sound_actions sound id action found).2.2
  oomBindings := write.sound_oomBindings sound
  numericalBindings := write.sound_numericalBindings sound
  numericalReceipts := write.sound_numericalReceipts sound
  interventions := write.sound_interventions sound
  amounts := write.sound_amounts sound
  slots := write.sound_slots sound
  quotas := write.sound_quotas sound

end Kept

end Xaytune.Storage
