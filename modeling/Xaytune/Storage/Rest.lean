import Xaytune.Storage.Soundness

/-!
# Experiments at rest

An experiment is at rest when it has ended and everything it owns has. No write ends
that, unless it may give an ended experiment something new.
-/

namespace Xaytune.Storage

open Xaytune.Core Xaytune.Library

/-- The experiment has ended, and so has everything it owns. -/
structure Rested (db : Db) (experimentId : String) : Prop where
  experiment : ∃ experiment, db.experiments.find? experimentId = some experiment ∧
    experiment.isTerminal = true
  nodes : ∀ id node, db.nodes.find? id = some node → node.experimentId = experimentId →
    node.isTerminal = true
  runs : ∀ id run, db.runs.find? id = some run → run.experimentId = experimentId →
    run.isTerminal = true
  attempts : ∀ id attempt run, db.attempts.find? id = some attempt →
    db.runs.find? attempt.runId = some run → run.experimentId = experimentId →
    attempt.isTerminal = true
  evaluationRuns : ∀ id run, db.evaluationRuns.find? id = some run →
    run.experimentId = experimentId → run.isTerminal = true
  evaluationAttempts : ∀ id attempt run, db.evaluationAttempts.find? id = some attempt →
    db.evaluationRuns.find? attempt.evaluationRunId = some run →
    run.experimentId = experimentId → attempt.isTerminal = true

section Kept

variable {L : Licence} {d d' : Debt} {db db' : Db} {experimentId : String}

/-- What a row had ended as, it still is. -/
theorem RunLater.isTerminal {old new : Run} (later : RunLater old new)
    (ended : old.isTerminal = true) : new.isTerminal = true := by
  obtain ⟨_, _, rfl, same⟩ := later
  rw [Run.isTerminal, same ended]
  exact ended

theorem NodeLater.isTerminal {old new : ExperimentNode} (later : NodeLater old new)
    (ended : old.isTerminal = true) : new.isTerminal = true := by
  obtain ⟨_, _, _, _, rfl, same⟩ := later
  rw [ExperimentNode.isTerminal, same ended]
  exact ended

theorem AttemptLater.isTerminal {old new : RunAttempt} (later : AttemptLater old new)
    (ended : old.isTerminal = true) : new.isTerminal = true := by
  obtain ⟨_, _, _, rfl, same⟩ := later
  rw [RunAttempt.isTerminal, same ended]
  exact ended

theorem EvaluationRunLater.isTerminal {old new : EvaluationRun} (later : EvaluationRunLater old new)
    (ended : old.isTerminal = true) : new.isTerminal = true := by
  obtain ⟨_, _, rfl, same⟩ := later
  rw [EvaluationRun.isTerminal, same ended]
  exact ended

theorem EvaluationAttemptLater.isTerminal {old new : EvaluationAttempt}
    (later : EvaluationAttemptLater old new) (ended : old.isTerminal = true) :
    new.isTerminal = true := by
  obtain ⟨_, _, rfl, same⟩ := later
  rw [EvaluationAttempt.isTerminal, same ended]
  exact ended

theorem ExperimentLater.isTerminal {old new : Experiment} (later : ExperimentLater old new)
    (ended : old.isTerminal = true) : new.isTerminal = true := by
  obtain ⟨_, _, _, rfl, same⟩ := later
  rw [Experiment.isTerminal, same ended]
  exact ended

/-- A run the record refers to keeps its experiment. -/
theorem Grows.runOwner (grows : Grows db db') {id : String} {old new : Run}
    (stored : db.runs.find? id = some old) (found : db'.runs.find? id = some new) :
    new.experimentId = old.experimentId := by
  obtain ⟨_, found', _, _, rfl, _⟩ := grows.runs id old stored
  rw [found', Option.some.injEq] at found
  exact found ▸ rfl

theorem Grows.evaluationRunOwner (grows : Grows db db') {id : String} {old new : EvaluationRun}
    (stored : db.evaluationRuns.find? id = some old)
    (found : db'.evaluationRuns.find? id = some new) : new.experimentId = old.experimentId := by
  obtain ⟨_, found', _, _, rfl, _⟩ := grows.evaluationRuns id old stored
  rw [found', Option.some.injEq] at found
  exact found ▸ rfl

/-- Nothing new is under an experiment that has ended. -/
theorem Rested.shut (rested : Rested db experimentId) (quiet : ¬ L.orphans experimentId)
    {owner : Experiment} (found : db.experiments.find? experimentId = some owner)
    (open_ : L.orphans experimentId ∨ owner.isTerminal = false) : False := by
  obtain ⟨experiment, experimentFound, ended⟩ := rested.experiment
  have isOwner : experiment = owner := Option.some.inj (experimentFound.symm.trans found)
  subst isOwner
  rcases open_ with orphan | live
  · exact quiet orphan
  · rw [live] at ended
    cases ended

theorem Write.rested_nodes (write : Write L d db d' db') (rested : Rested db experimentId)
    (quiet : ¬ L.orphans experimentId) :
    ∀ id node, db'.nodes.find? id = some node → node.experimentId = experimentId →
      node.isTerminal = true := by
  intro id node found owned
  rcases write.node_origin found with ⟨old, stored, later⟩ | ⟨_, new⟩
  · refine later.isTerminal (rested.nodes id old stored ?_)
    obtain ⟨_, _, _, _, rfl, _⟩ := later
    exact owned
  · obtain ⟨owner, ownerFound, open_⟩ := new.owner
    exact (rested.shut quiet (owned ▸ ownerFound) (owned ▸ open_)).elim

theorem Write.rested_runs (write : Write L d db d' db') (rested : Rested db experimentId)
    (quiet : ¬ L.orphans experimentId) :
    ∀ id run, db'.runs.find? id = some run → run.experimentId = experimentId →
      run.isTerminal = true := by
  intro id run found owned
  rcases write.run_origin found with ⟨old, stored, later⟩ | ⟨_, new⟩
  · refine later.isTerminal (rested.runs id old stored ?_)
    obtain ⟨_, _, rfl, _⟩ := later
    exact owned
  · obtain ⟨owner, ownerFound, open_, _⟩ := new.owner
    exact (rested.shut quiet (owned ▸ ownerFound) (owned ▸ open_)).elim

theorem Write.rested_attempts (write : Write L d db d' db') (sound : Sound d db)
    (rested : Rested db experimentId) (quiet : ¬ L.orphans experimentId) :
    ∀ id attempt run, db'.attempts.find? id = some attempt →
      db'.runs.find? attempt.runId = some run → run.experimentId = experimentId →
        attempt.isTerminal = true := by
  intro id attempt run found runFound owned
  rcases write.attempt_origin found with ⟨old, stored, later⟩ | ⟨_, new⟩
  · obtain ⟨oldRun, oldRunFound⟩ := sound.attempts id old stored
    have sameRun : attempt.runId = old.runId := by
      obtain ⟨_, _, _, rfl, _⟩ := later
      rfl
    have owner := write.grows.runOwner oldRunFound (sameRun ▸ runFound)
    exact later.isTerminal (rested.attempts id old oldRun stored oldRunFound (owner ▸ owned))
  · obtain ⟨owner, experiment, ownerFound, _, open_, _⟩ := new.owner
    have sameOwner := write.grows.runOwner ownerFound runFound
    rw [sameOwner] at owned
    rcases open_ with orphan | live
    · exact absurd (owned ▸ orphan) quiet
    · rw [rested.runs _ owner ownerFound owned] at live
      cases live

theorem Write.rested_evaluationRuns (write : Write L d db d' db')
    (rested : Rested db experimentId) :
    ∀ id run, db'.evaluationRuns.find? id = some run → run.experimentId = experimentId →
      run.isTerminal = true := by
  intro id run found owned
  rcases write.evaluationRun_origin found with ⟨old, stored, later⟩ | ⟨_, new⟩
  · refine later.isTerminal (rested.evaluationRuns id old stored ?_)
    obtain ⟨_, _, rfl, _⟩ := later
    exact owned
  · obtain ⟨node, nodeFound, same, live⟩ := new.node
    rw [rested.nodes _ node nodeFound (same.trans owned)] at live
    cases live

theorem Write.rested_evaluationAttempts (write : Write L d db d' db') (sound : Sound d db)
    (rested : Rested db experimentId) :
    ∀ id attempt run, db'.evaluationAttempts.find? id = some attempt →
      db'.evaluationRuns.find? attempt.evaluationRunId = some run →
      run.experimentId = experimentId → attempt.isTerminal = true := by
  intro id attempt run found runFound owned
  rcases write.evaluationAttempt_origin found with ⟨old, stored, later⟩ | ⟨_, new⟩
  · obtain ⟨oldRun, oldRunFound⟩ := sound.evaluationAttempts id old stored
    have sameRun : attempt.evaluationRunId = old.evaluationRunId := by
      obtain ⟨_, _, rfl, _⟩ := later
      rfl
    have owner := write.grows.evaluationRunOwner oldRunFound (sameRun ▸ runFound)
    exact later.isTerminal
      (rested.evaluationAttempts id old oldRun stored oldRunFound (owner ▸ owned))
  · obtain ⟨owner, ownerFound, live⟩ := new.run
    have sameOwner := write.grows.evaluationRunOwner ownerFound runFound
    rw [rested.evaluationRuns _ owner ownerFound (sameOwner ▸ owned)] at live
    cases live

/-- An experiment at rest stays so. -/
theorem Write.rested (write : Write L d db d' db') (sound : Sound d db)
    (rested : Rested db experimentId) (quiet : ¬ L.orphans experimentId) :
    Rested db' experimentId where
  experiment := by
    obtain ⟨experiment, found, ended⟩ := rested.experiment
    obtain ⟨later, found', isLater⟩ := write.grows.experiments _ experiment found
    exact ⟨later, found', isLater.isTerminal ended⟩
  nodes := write.rested_nodes rested quiet
  runs := write.rested_runs rested quiet
  attempts := write.rested_attempts sound rested quiet
  evaluationRuns := write.rested_evaluationRuns rested
  evaluationAttempts := write.rested_evaluationAttempts sound rested

end Kept

end Xaytune.Storage
