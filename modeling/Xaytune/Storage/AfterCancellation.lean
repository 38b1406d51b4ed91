import Xaytune.Storage.Legality.Repository

/-!
# After an experiment's cancellation

The saga's last commit leaves its experiment at rest, and an experiment stays at rest
through every later call that does not itself give it a node, a run or an attempt.
`create_node`, `create_run` and `create_attempt_with_submit_intent` are the calls that
look at no status before they do.
-/

namespace Xaytune.Storage

open Xaytune.Core Xaytune.Library

section Rest

variable {checks : Checks} {db db' : Db} {experimentId : String}

/-- A call that gives the experiment nothing leaves it at rest. -/
theorem Op.rested (op : Op) (sound : Sound [] db) (rested : Rested db experimentId)
    (quiet : ¬ op.orphans db experimentId) : Rested (op.exec checks db) experimentId := by
  have kept : Sound [] (op.exec checks db) ∧ Rested (op.exec checks db) experimentId := by
    refine Steps.invariant (I := fun d db => Sound d db ∧ Rested db experimentId)
      (Op.writes sound op) ⟨sound, rested⟩ ?_
    rintro d db d' db' write ⟨sound', rested'⟩
    exact ⟨write.sound sound', write.rested sound' rested' quiet⟩
  exact kept.2

theorem Rested.reaches (rested : Rested db experimentId) (sound : Sound [] db)
    (later : Reaches (Op.exec checks) (fun db op => ¬ op.orphans db experimentId) db db') :
    Rested db' experimentId := by
  have kept : Sound [] db' ∧ Rested db' experimentId := by
    refine Reaches.invariant (I := fun db => Sound [] db ∧ Rested db experimentId) later
      ⟨sound, rested⟩ ?_
    rintro db op ⟨sound', rested'⟩ quiet
    exact ⟨(Op.writes sound' op).sound sound', op.rested sound' rested' quiet⟩
  exact kept.2

/-- The call that settles a saga as applied leaves its experiment at rest. -/
theorem rested_of_saga_applied {actionId : String} {actor : Actor} {destinations : List String}
    {parent moved : Action} (sound : Sound [] db) (found : db.actions.find? actionId = some parent)
    (live : parent.isTerminal = false)
    (after : ((Op.reconcileExperimentCancellation actionId actor destinations).exec checks
      db).actions.find? actionId = some moved)
    (applied : moved.status = .succeeded ∧ moved.outcome = some .applied) :
    Rested ((Op.reconcileExperimentCancellation actionId actor destinations).exec checks db)
      parent.target.id := by
  have settled : SagaSettled actionId db
      (Session.settle (reconcileExperimentCancellation actionId actor destinations) db) :=
    (reconcileExperimentCancellation_settles (L := { settles := True }) trivial
      sound actionId).2
  have same : (Op.reconcileExperimentCancellation actionId actor destinations).exec checks db =
      Session.settle (reconcileExperimentCancellation actionId actor destinations) db := by
    unfold Op.exec
    rcases Session.bind_settle (reconcileExperimentCancellation actionId actor destinations)
      (fun _ => pure ()) db with raised | ⟨_, continued⟩
    · exact raised
    · exact continued
  rw [same] at after ⊢
  exact settled parent moved found live after applied.1 applied.2

end Rest

/-- Once a saga is settled as applied, nothing its experiment owns is live, there and after any
further calls none of which gives the experiment a node, a run or a new attempt by itself. -/
theorem nothing_runs_under_cancelled (checks : Checks) (db : Db) (reached : Reachable checks db)
    (actionId : String) (actor : Actor) (destinations : List String) (parent moved : Action)
    (found : db.actions.find? actionId = some parent) (live : parent.isTerminal = false)
    (after : ((Op.reconcileExperimentCancellation actionId actor destinations).exec checks
      db).actions.find? actionId = some moved)
    (applied : moved.status = .succeeded ∧ moved.outcome = some .applied) (db' : Db)
    (later : Reaches (Op.exec checks) (fun db op => ¬ op.orphans db parent.target.id)
      ((Op.reconcileExperimentCancellation actionId actor destinations).exec checks db) db') :
    Rested db' parent.target.id :=
  (rested_of_saga_applied reached.sound found live after applied).reaches
    (ReachableBy.sound (Reaches.next reached trivial)) later

/-- The saga's action as it is asked for. -/
def requestedSaga : Action :=
  { id := "cancel", experimentId := "e", type := "cancel-experiment", status := .executing
    target := ⟨.experiment, "e"⟩, proposedBy := ⟨"human", "operator", ""⟩, reason := "enough"
    revision := 3 }

/-- A running attempt's experiment is asked to be cancelled, and the runtime stops the attempt. -/
def attemptStopped : List Op :=
  let controller : Actor := ⟨"system", "controller", ""⟩
  [.createExperiment { id := "e", budget := some { maxRuns := some 2 } } controller [],
    .transitionExperiment "e" 0 .active controller none [],
    .createNode { id := "n", experimentId := "e", candidateFingerprint := "" } controller [],
    .createRun { id := "r", nodeId := "n", experimentId := "e", candidateFingerprint := "" }
      controller [],
    .createAttemptWithSubmitIntent { id := "a", runId := "r", attemptNumber := 1 } "submit" ""
      controller [],
    .markOperationSent "submit" 0 controller [],
    .confirmOperation "submit" 1 controller (some "job") [],
    .transitionNode "n" 0 .planned controller none [],
    .transitionNode "n" 1 .ready controller none [],
    .transitionNode "n" 2 .active controller none [],
    .transitionRun "r" 0 .active controller none [],
    .transitionAttempt "a" 0 .queued controller none [] none,
    .transitionAttempt "a" 1 .starting controller none [] none,
    .transitionAttempt "a" 2 .running controller none [] none,
    .requestExperimentCancellation "e" "enough" ⟨"human", "operator", ""⟩ "cancel" true
      (fun _ => ⟨"child", "stop", ""⟩) [],
    .markOperationSent "stop" 0 controller [],
    .confirmOperation "stop" 1 controller none [],
    .transitionAttempt "a" 3 .cancelled controller none [] none]

/-- Calls that come late for the cancelled experiment, and the start of another one. -/
def afterwards : List Op :=
  let controller : Actor := ⟨"system", "controller", ""⟩
  [.confirmOperation "submit" 2 controller (some "job") [],
    .recordMetricPoints "a" 0 1 "",
    .transitionAttempt "a" 4 .running controller none [] none,
    .transitionRun "r" 2 .active controller none [],
    .transitionNode "n" 4 .ready controller none [],
    .createExperiment { id := "f" } controller [],
    .createNode { id := "m", experimentId := "f", candidateFingerprint := "" } controller []]

theorem nothing_runs_under_cancelled_request :
    ∃ db db', Reachable .permissive db ∧ Reachable .permissive db' ∧
      (db.nodes.find? "n").map ExperimentNode.status = some .active ∧
      (db.runs.find? "r").map Run.status = some .active ∧
      (db'.experiments.find? "e").map Experiment.status = some .cancelled ∧
      (db'.nodes.find? "n").map ExperimentNode.status = some .cancelled ∧
      (db'.runs.find? "r").map Run.status = some .cancelled ∧
      (db'.attempts.find? "a").map RunAttempt.status = some .cancelled ∧
      (db'.nodes.find? "m").map ExperimentNode.status = some .created ∧ Rested db' "e" := by
  have reached : Reachable .permissive (execAll .permissive attemptStopped Db.empty) :=
    reachable_execAll _ attemptStopped .start
  let settle : Op := .reconcileExperimentCancellation "cancel" ⟨"system", "controller", ""⟩ []
  have settled : Reachable .permissive
      (settle.exec .permissive (execAll .permissive attemptStopped Db.empty)) :=
    Reaches.next reached trivial
  have rested := nothing_runs_under_cancelled .permissive _ reached "cancel"
    ⟨"system", "controller", ""⟩ [] requestedSaga
    { requestedSaga with status := .succeeded, outcome := some .applied, revision := 4 }
    (by decide +kernel) (by decide +kernel) (by decide +kernel) ⟨rfl, rfl⟩ _
    (reaches_execAll afterwards .start (by
      intro op member db
      simp only [afterwards, List.mem_cons, List.not_mem_nil, or_false] at member
      rcases member with rfl | rfl | rfl | rfl | rfl | rfl | rfl <;>
        simp [Op.orphans, requestedSaga]))
  exact ⟨_, _, reached, reachable_execAll _ afterwards settled, by decide +kernel,
    by decide +kernel, by decide +kernel, by decide +kernel, by decide +kernel,
    by decide +kernel, by decide +kernel, rested⟩

/-- An experiment is created, started and asked to be cancelled. -/
def cancelRequested : List Op :=
  [.createExperiment { id := "e" } ⟨"system", "controller", ""⟩ [],
    .transitionExperiment "e" 0 .active ⟨"system", "controller", ""⟩ none [],
    .requestExperimentCancellation "e" "enough" ⟨"human", "operator", ""⟩ "cancel" true
      (fun _ => ⟨"child", "cancel-op", ""⟩) []]

/-- A node is given to an experiment that has been cancelled. -/
theorem node_created_under_cancelled :
    ∃ db, Reachable .permissive db ∧
      (db.actions.find? "cancel").map Action.outcome = some (some .applied) ∧
      (db.experiments.find? "e").map Experiment.status = some .cancelled ∧
      (db.nodes.find? "n").map (fun node => (node.experimentId, node.isTerminal)) =
        some ("e", false) := by
  let ops : List Op := cancelRequested ++
    [.reconcileExperimentCancellation "cancel" ⟨"system", "controller", ""⟩ [],
      .createNode { id := "n", experimentId := "e", candidateFingerprint := "" }
        ⟨"system", "controller", ""⟩ []]
  exact ⟨execAll .permissive ops Db.empty, reachable_execAll _ ops .start, by decide +kernel,
    by decide +kernel, by decide +kernel⟩

end Xaytune.Storage
