import Xaytune.Storage.Rest
import Xaytune.Storage.Legality.Cancellation

/-!
# Reconciliation as writes

Settling a cancellation recorded earlier, from evidence that may have been read before
the transaction: the write goes through only while the action is what was read. The
last commit of a saga leaves its experiment at rest.
-/

namespace Xaytune.Storage

open Xaytune.Core Xaytune.Library

/-! ## Settling what was read -/

section Settling

variable {L : Licence} {db : Db} {actor : Actor} {destinations : List String}

/-- The write of an action goes through only at the revision it was read at. -/
theorem settleAction_ok {action moved : Action} {newStatus : ActionStatus}
    {outcome : Option ActionOutcome} {eventType : String} {extra : EventExtra} {db' : Db}
    (ran : settleAction action newStatus outcome eventType actor destinations extra db =
      .ok (moved, db')) :
    action.withStatus newStatus outcome = some moved ∧
      (∃ stored, db.actions.find? action.id = some stored ∧
        stored.revision = action.revision) ∧
      db' = (db.setActions (db.actions.replace moved)).record
        (eventOf moved eventType moved.experimentId actor extra) destinations := by
  unfold settleAction at ran
  cases copied : action.withStatus newStatus outcome with
  | none =>
      rw [copied] at ran
      cases ran
  | some new =>
      rw [copied] at ran
      obtain ⟨_, isNew⟩ := action_withStatus_moves copied
      have sameId : new.id = action.id := isNew ▸ rfl
      have next : new.revision = action.revision + 1 := isNew ▸ rfl
      simp only [Transaction.bind_apply, Transaction.expect_some, updateRow] at ran
      cases found : (tableOf Action db).find? (Stored.id new) with
      | none =>
          rw [found] at ran
          cases ran
      | some stored =>
          rw [found] at ran
          by_cases follows : Stored.revision stored + 1 = Stored.revision new
          · simp only [if_pos follows] at ran
            cases ran
            have revision : stored.revision + 1 = moved.revision := follows
            exact ⟨rfl, ⟨stored, sameId ▸ found, by omega⟩, rfl⟩
          · simp only [if_neg follows] at ran
            cases ran

/-- What is stored under an action's id at the revision it was read at is what was read. -/
def Db.readAs (db : Db) (action : Action) : Prop :=
  ∀ stored, db.actions.find? action.id = some stored → stored.revision = action.revision →
    stored = action

theorem Db.readAs_of_stored {action : Action} (found : db.actions.find? action.id = some action) :
    db.readAs action := by
  intro stored storedFound _
  exact Option.some.inj (storedFound.symm.trans found)

/-- What is observed of a cancellation ends it. -/
theorem resolutionOf_ends {state : TargetState} {caused : List RuntimeOperation}
    {resolution : Resolution} (observed : resolutionOf state caused = some resolution) :
    resolution.status ≠ .approved ∧ resolution.status ≠ .executing := by
  unfold resolutionOf at observed
  split at observed
  · cases observed
    decide
  · split at observed
    · cases observed
      decide
    · cases observed
  · split at observed
    · cases observed
      decide
    · cases observed

theorem Legal.commitResolution {action : Action} {resolution : Resolution} (settles : L.settles)
    (ends : resolution.status ≠ .approved ∧ resolution.status ≠ .executing)
    (wasRead : db.readAs action) :
    Legal L (commitResolution action resolution actor destinations) [] db
      fun moved d db' => d = [] ∧ db.actions.find? action.id = some action ∧
        action.withStatus resolution.status resolution.outcome = some moved ∧
        ∃ events outbox,
          db' = (db.setActions (db.actions.replace moved)).setBooks db.ledger events outbox := by
  intro sound moved db' ran
  obtain ⟨_, ⟨stored, found, same⟩, _⟩ := settleAction_ok ran
  have isRead : stored = action := wasRead stored found same
  subst isRead
  have legal : Legal L (Storage.commitResolution stored resolution actor destinations) [] db
      fun moved d db' => d = [] ∧ db.actions.find? stored.id = some stored ∧
        stored.withStatus resolution.status resolution.outcome = some moved ∧
        ∃ events outbox,
          db' = (db.setActions (db.actions.replace moved)).setBooks db.ledger events outbox := by
    unfold Storage.commitResolution
    refine Legal.settleAction found List.not_mem_nil (fun _ _ _ => .inr settles)
      (fun begins => absurd begins ends.2) (cancellationEvent_tells _ _ _ _ ends) rfl ?_
    intro moved events outbox copied
    exact ⟨rfl, found, copied, events, outbox, rfl⟩
  exact legal sound moved db' ran

theorem Legal.reconcileCancellation {post : Action → Debt → Db → Prop} {actionId : String}
    (settles : L.settles) (stays : ∀ action, post action [] db)
    (holds : ∀ (action moved : Action) events outbox, action.id = actionId →
      moved.id = action.id →
        post moved [] ((db.setActions (db.actions.replace moved)).setBooks db.ledger events
        outbox)) :
    Legal L (reconcileCancellation actionId actor destinations) [] db post := by
  unfold Storage.reconcileCancellation
  refine Legal.load fun (action : Action) (found : db.actions.find? actionId = some action) => ?_
  refine .ite (fun _ => .pure (stays action)) fun _ => .read ?_
  split
  · exact .refuse
  · exact .pure (stays action)
  · rename_i resolution observed
    have stored := Table.find?_of_mem (Table.mem_of_find? found)
    have ends : resolution.status ≠ .approved ∧ resolution.status ≠ .executing := by
      unfold Db.observedOutcome at observed
      split at observed
      · cases observed
      · exact resolutionOf_ends (Except.ok.inj observed)
    refine (Legal.commitResolution settles ends (Db.readAs_of_stored stored)).mono ?_
    rintro moved _ _ ⟨rfl, _, copied, events, outbox, rfl⟩
    exact holds action moved events outbox (Table.key_of_find? found)
      (MovedTo.of_withStatus copied).id

theorem reconcileCancellation_closed (actionId : String) (settles : L.settles) :
    Closed L (reconcileCancellation actionId actor destinations) db :=
  Legal.reconcileCancellation settles (fun _ => rfl) fun _ _ _ _ _ _ => rfl

end Settling

/-! ## The saga's last commit -/

section Ending

variable {L : Licence} {db : Db} {actor : Actor} {destinations : List String}
  {experimentId : String} {post : Unit → Debt → Db → Prop}

/-- A cancelled run: only its row and the books change, and it has ended. -/
theorem Legal.cancelRun {run : Run} (found : db.runs.find? run.id = some run)
    (holds : ∀ runs ledger events outbox,
      (∀ id, id ≠ run.id → runs.find? id = db.runs.find? id) →
      (∀ row, runs.find? run.id = some row → RunLater run row ∧ row.isTerminal = true) →
        post () [] ((db.setRuns runs).setBooks ledger events outbox)) :
    Legal L (cancelRun experimentId actor destinations run) [] db post := by
  unfold Storage.cancelRun
  refine .ite (fun ended => .pure ?_) fun _ => .expect fun cancelled copied => ?_
  · refine holds db.runs db.ledger db.events db.outbox (fun _ _ => rfl) ?_
    intro row stored
    have isRun : run = row := Option.some.inj (found.symm.trans stored)
    exact ⟨isRun ▸ .refl run, isRun ▸ ended⟩
  · obtain ⟨moves, status⟩ := run_withStatus_moves copied
    have stored : (db.runs.replace cancelled).find? cancelled.id = some cancelled :=
      Table.find?_replace_self (moves.id ▸ found)
    refine .bind (Legal.moveRun found moves List.not_mem_nil List.not_mem_nil ?_)
    refine .bind (Legal.payRun stored (by simp) fun ledger events outbox => ?_)
    refine Legal.emit [] stored (typed_of_type (by decide)) rfl paid_head sub_head ?_
    refine holds (db.runs.replace cancelled) ledger _ _
      (fun id other => Table.find?_replace_of_ne (moves.id ▸ other)) ?_
    intro row rowFound
    rw [← moves.id, stored, Option.some.injEq] at rowFound
    subst rowFound
    exact ⟨moves.later, by rw [Run.isTerminal, status]; rfl⟩

theorem Legal.cancelEvaluationRun {run : EvaluationRun}
    (found : db.evaluationRuns.find? run.id = some run)
    (holds : ∀ runs events outbox,
      (∀ id, id ≠ run.id → runs.find? id = db.evaluationRuns.find? id) →
      (∀ row, runs.find? run.id = some row → EvaluationRunLater run row ∧
        row.isTerminal = true) →
        post () [] ((db.setEvaluationRuns runs).setBooks db.ledger events outbox)) :
    Legal L (cancelEvaluationRun experimentId actor destinations run) [] db post := by
  unfold Storage.cancelEvaluationRun
  refine .ite (fun ended => .pure ?_) fun _ => .expect fun cancelled copied => ?_
  · refine holds db.evaluationRuns db.events db.outbox (fun _ _ => rfl) ?_
    intro row stored
    have isRun : run = row := Option.some.inj (found.symm.trans stored)
    exact ⟨isRun ▸ .refl run, isRun ▸ ended⟩
  · obtain ⟨moves, status⟩ := evaluationRun_withStatus_moves copied
    have stored : (db.evaluationRuns.replace cancelled).find? cancelled.id = some cancelled :=
      Table.find?_replace_self (moves.id ▸ found)
    refine .bind (Legal.moveEvaluationRun found moves List.not_mem_nil (by simp [status]) ?_)
    refine Legal.emit [] stored (typed_of_kind (by decide)) rfl paid_head sub_head ?_
    refine holds (db.evaluationRuns.replace cancelled) _ _
      (fun id other => Table.find?_replace_of_ne (moves.id ▸ other)) ?_
    intro row rowFound
    rw [← moves.id, stored, Option.some.injEq] at rowFound
    subst rowFound
    exact ⟨moves.later, by rw [EvaluationRun.isTerminal, status]; rfl⟩

/-- The rows of a kind are later rows of what was there, and those in scope have ended. -/
def Wound {α : Type} {key : α → String} (later : α → α → Prop) (scope done : α → Prop)
    (table table' : Table key) : Prop :=
  Table.Sweeps later scope done table table' []

theorem Legal.cancelRuns {nodeId : String}
    (holds : ∀ runs ledger events outbox,
      Wound RunLater (fun run => run.nodeId = nodeId) (fun run => run.isTerminal = true) db.runs
        runs → post () [] ((db.setRuns runs).setBooks ledger events outbox)) :
    Legal L (Transaction.forEach (db.runsForNode nodeId)
      (Storage.cancelRun experimentId actor destinations)) [] db post := by
  refine .forEach (fun rest d db' => d = [] ∧ ∃ runs ledger events outbox,
    db' = (db.setRuns runs).setBooks ledger events outbox ∧
    Table.Sweeps RunLater (fun run => run.nodeId = nodeId) (fun run => run.isTerminal = true)
      db.runs runs rest) ⟨rfl, db.runs, db.ledger, db.events, db.outbox, rfl, ?_⟩ ?_ ?_
  · exact Table.Sweeps.start RunLater.refl
  · rintro run rest _ _ ⟨rfl, runs, _, _, _, rfl, sweeps⟩
    refine Legal.cancelRun (sweeps.pending run List.mem_cons_self) ?_
    intro runs' ledger events outbox others finished
    exact ⟨rfl, runs', ledger, events, outbox, rfl, sweeps.next RunLater.trans others finished⟩
  · rintro _ _ ⟨rfl, runs, ledger, events, outbox, rfl, sweeps⟩
    exact holds runs ledger events outbox sweeps

theorem Legal.cancelEvaluationRuns {nodeId : String}
    (holds : ∀ runs events outbox,
      Wound EvaluationRunLater (fun run => run.nodeId = nodeId) (fun run => run.isTerminal = true)
        db.evaluationRuns runs →
          post () [] ((db.setEvaluationRuns runs).setBooks db.ledger events outbox)) :
    Legal L (Transaction.forEach (db.evaluationRunsForNode nodeId)
      (Storage.cancelEvaluationRun experimentId actor destinations)) [] db post := by
  refine .forEach (fun rest d db' => d = [] ∧ ∃ runs events outbox,
    db' = (db.setEvaluationRuns runs).setBooks db.ledger events outbox ∧
    Table.Sweeps EvaluationRunLater (fun run => run.nodeId = nodeId)
      (fun run => run.isTerminal = true) db.evaluationRuns runs rest)
    ⟨rfl, db.evaluationRuns, db.events, db.outbox, rfl, ?_⟩ ?_ ?_
  · exact Table.Sweeps.start EvaluationRunLater.refl
  · rintro run rest _ _ ⟨rfl, runs, _, _, rfl, sweeps⟩
    refine Legal.cancelEvaluationRun (sweeps.pending run List.mem_cons_self) ?_
    intro runs' events outbox others finished
    exact ⟨rfl, runs', events, outbox, rfl,
      sweeps.next EvaluationRunLater.trans others finished⟩
  · rintro _ _ ⟨rfl, runs, events, outbox, rfl, sweeps⟩
    exact holds runs events outbox sweeps

/-- The rows a saga's last commit may change. -/
abbrev Db.setWound (db : Db) (nodes : Table ExperimentNode.id) (runs : Table Run.id)
    (evaluationRuns : Table EvaluationRun.id) (ledger : Table BudgetLedgerEntry.key)
    (events : List DomainEvent) (outbox : List OutboxRecord) : Db :=
  (((db.setNodes nodes).setRuns runs).setEvaluationRuns evaluationRuns).setBooks ledger events
    outbox

theorem Db.setWound_setWound {nodes nodes' : Table ExperimentNode.id} {runs runs' : Table Run.id}
    {evaluationRuns evaluationRuns' : Table EvaluationRun.id}
    {ledger ledger' : Table BudgetLedgerEntry.key} {events events' : List DomainEvent}
    {outbox outbox' : List OutboxRecord} :
    (db.setWound nodes runs evaluationRuns ledger events outbox).setWound nodes' runs'
      evaluationRuns' ledger' events' outbox' =
      db.setWound nodes' runs' evaluationRuns' ledger' events' outbox' := rfl

theorem Legal.cancelNode {node : ExperimentNode} (found : db.nodes.find? node.id = some node)
    (holds : ∀ nodes runs evaluationRuns ledger events outbox,
      (∀ id, id ≠ node.id → nodes.find? id = db.nodes.find? id) →
      (∀ row, nodes.find? node.id = some row → NodeLater node row ∧ row.isTerminal = true) →
      Wound RunLater (fun run => run.nodeId = node.id) (fun run => run.isTerminal = true) db.runs
        runs →
      Wound EvaluationRunLater (fun run => run.nodeId = node.id) (fun run => run.isTerminal = true)
        db.evaluationRuns evaluationRuns →
      post () [] (db.setWound nodes runs evaluationRuns ledger events outbox)) :
    Legal L (cancelNode experimentId actor destinations node) [] db post := by
  unfold Storage.cancelNode
  refine .read (.bind (Legal.cancelRuns fun runs ledger _ _ woundRuns => ?_))
  refine .read (.bind (Legal.cancelEvaluationRuns fun evaluationRuns events outbox wound => ?_))
  refine .ite (fun ended => .pure ?_) fun _ => .expect fun cancelled copied => ?_
  · refine holds db.nodes runs evaluationRuns ledger events outbox (fun _ _ => rfl) ?_ woundRuns
      wound
    intro row stored
    have isNode : node = row := Option.some.inj (found.symm.trans stored)
    exact ⟨isNode ▸ .refl node, isNode ▸ ended⟩
  · obtain ⟨moves, status⟩ := node_withStatus_moves copied
    have stored : (db.nodes.replace cancelled).find? cancelled.id = some cancelled :=
      Table.find?_replace_self (moves.id ▸ found)
    refine .bind (Legal.stepNode found copied List.not_mem_nil (by rintro ⟨⟩) ?_)
    refine Legal.emit [] stored (typed_of_kind (by decide)) rfl paid_head sub_head ?_
    refine holds (db.nodes.replace cancelled) runs evaluationRuns ledger _ _
      (fun id other => Table.find?_replace_of_ne (moves.id ▸ other)) ?_ woundRuns wound
    intro row rowFound
    rw [← moves.id, stored, Option.some.injEq] at rowFound
    subst rowFound
    exact ⟨moves.later, by rw [ExperimentNode.isTerminal, status]; rfl⟩

/-- The rows an experiment owns under nodes: those under a node that is not to come have ended. -/
structure Winding {α : Type} {key : α → String} (later : α → α → Prop) (nodeOf : α → String)
    (owned done : α → Prop) (table table' : Table key) (rest : List String) : Prop where
  origin : ∀ k row, table'.find? k = some row → ∃ old, table.find? k = some old ∧ later old row
  wound : ∀ k row, table'.find? k = some row → owned row → nodeOf row ∈ rest ∨ done row

theorem Winding.next {α : Type} {key : α → String} {later : α → α → Prop} {nodeOf : α → String}
    {owned done : α → Prop} {table table' table'' : Table key} {nodeId : String}
    {rest : List String}
    (winding : Winding later nodeOf owned done table table' (nodeId :: rest))
    (node : Wound later (fun row => nodeOf row = nodeId) done table' table'')
    (compose : ∀ first second third, later first second → later second third → later first third)
    (keeps : ∀ old new, later old new →
      nodeOf new = nodeOf old ∧ (owned new → owned old) ∧ (done old → done new)) :
    Winding later nodeOf owned done table table'' rest where
  origin := by
    intro k row found
    obtain ⟨middle, found', later'⟩ := node.origin k row found
    obtain ⟨old, stored, earlier⟩ := winding.origin k middle found'
    exact ⟨old, stored, compose _ _ _ earlier later'⟩
  wound := by
    intro k row found isOwned
    by_cases here : nodeOf row = nodeId
    · exact .inr ((node.swept k row found here).resolve_left List.not_mem_nil)
    · obtain ⟨middle, found', later'⟩ := node.origin k row found
      obtain ⟨sameNode, ownedBefore, stillDone⟩ := keeps middle row later'
      rcases winding.wound k middle found' (ownedBefore isOwned) with pending | isDone
      · rcases List.mem_cons.mp pending with isNode | pending
        · exact absurd (sameNode.trans isNode) here
        · exact .inl (sameNode ▸ pending)
      · exact .inr (stillDone isDone)

/-- What a saga's last commit has left of the record, with some nodes still to come. -/
def Db.winding (db : Db) (experimentId : String) (rest : List ExperimentNode) (db' : Db) : Prop :=
  ∃ nodes runs evaluationRuns ledger events outbox,
    db' = db.setWound nodes runs evaluationRuns ledger events outbox ∧
    Table.Sweeps NodeLater (fun node => node.experimentId = experimentId)
      (fun node => node.isTerminal = true) db.nodes nodes rest ∧
    Winding RunLater Run.nodeId (fun run => run.experimentId = experimentId)
      (fun run => run.isTerminal = true) db.runs runs (rest.map ExperimentNode.id) ∧
    Winding EvaluationRunLater EvaluationRun.nodeId (fun run => run.experimentId = experimentId)
      (fun run => run.isTerminal = true) db.evaluationRuns evaluationRuns
      (rest.map ExperimentNode.id)

theorem Db.setWound_self :
    db = db.setWound db.nodes db.runs db.evaluationRuns db.ledger db.events db.outbox := by
  cases db
  rfl

theorem Sound.winding (sound : Sound [] db) (experimentId : String) :
    db.winding experimentId (db.nodesForExperiment experimentId) db := by
  have listed : ∀ nodeId : String, (∃ node, db.nodes.find? nodeId = some node ∧
      node.experimentId = experimentId) →
      nodeId ∈ (db.nodesForExperiment experimentId).map ExperimentNode.id := by
    rintro nodeId ⟨node, found, owned⟩
    refine List.mem_map.mpr ⟨node, Db.mem_nodesForExperiment.mpr ⟨?_, owned⟩, ?_⟩
    · exact Table.find?_of_mem (Table.mem_of_find? found)
    · exact Table.key_of_find? found
  have sweeps : Table.Sweeps NodeLater (fun node => node.experimentId = experimentId)
      (fun node => node.isTerminal = true) db.nodes db.nodes (db.nodesForExperiment experimentId) :=
    .start NodeLater.refl
  refine ⟨db.nodes, db.runs, db.evaluationRuns, db.ledger, db.events, db.outbox,
    Db.setWound_self, sweeps, ⟨?_, ?_⟩, ⟨?_, ?_⟩⟩
  · exact fun _ row found => ⟨row, found, .refl row⟩
  · rintro id run found rfl
    exact .inl (listed _ (sound.runs id run found))
  · exact fun _ row found => ⟨row, found, .refl row⟩
  · rintro id run found rfl
    exact .inl (listed _ (sound.evaluationRuns id run found))

theorem Legal.cancelNodes
    (holds : ∀ db', db.winding experimentId [] db' → post () [] db') :
    Legal L (Transaction.forEach (db.nodesForExperiment experimentId)
      (Storage.cancelNode experimentId actor destinations)) [] db post := by
  refine .assume fun sound => .forEach
    (fun rest d db' => d = [] ∧ db.winding experimentId rest db')
    ⟨rfl, sound.winding experimentId⟩ ?_ ?_
  · rintro node rest _ _ ⟨rfl, nodes, runs, evaluationRuns, _, _, _, rfl, sweeps, ofRuns, ofEvals⟩
    refine Legal.cancelNode (sweeps.pending node List.mem_cons_self) ?_
    intro nodes' runs' evaluationRuns' ledger events outbox others finished woundRuns wound
    refine ⟨rfl, nodes', runs', evaluationRuns', ledger, events, outbox, Db.setWound_setWound,
      sweeps.next NodeLater.trans others finished, ofRuns.next woundRuns RunLater.trans ?_,
      ofEvals.next wound EvaluationRunLater.trans ?_⟩
    · intro old new later
      refine ⟨?_, ?_, later.isTerminal⟩
      · obtain ⟨_, _, rfl, _⟩ := later
        rfl
      · obtain ⟨_, _, rfl, _⟩ := later
        exact id
    · intro old new later
      refine ⟨?_, ?_, later.isTerminal⟩
      · obtain ⟨_, _, rfl, _⟩ := later
        rfl
      · obtain ⟨_, _, rfl, _⟩ := later
        exact id
  · rintro _ db' ⟨rfl, winding⟩
    exact holds db' winding

/-- Attempts that an experiment owns are the ones found through its nodes and runs. -/
theorem Sound.attempt_terminal (sound : Sound [] db)
    (idle : db.hasLiveAttempts experimentId = false)
    {id : String} {attempt : RunAttempt} {run : Run} (found : db.attempts.find? id = some attempt)
    (runFound : db.runs.find? attempt.runId = some run) (owned : run.experimentId = experimentId) :
    attempt.isTerminal = true := by
  obtain ⟨node, nodeFound, sameOwner⟩ := sound.runs _ run runFound
  have listed : attempt ∈ db.attemptsOf experimentId := by
    unfold Db.attemptsOf
    refine List.mem_flatMap.mpr ⟨node,
      Db.mem_nodesForExperiment.mpr ⟨?_, sameOwner.trans owned⟩, ?_⟩
    · exact Table.find?_of_mem (Table.mem_of_find? nodeFound)
    · refine List.mem_flatMap.mpr ⟨run, Db.mem_runsForNode.mpr ⟨?_, ?_⟩, ?_⟩
      · exact Table.find?_of_mem (Table.mem_of_find? runFound)
      · exact (Table.key_of_find? nodeFound).symm
      · exact Db.mem_attemptsForRun.mpr ⟨Table.find?_of_mem (Table.mem_of_find? found),
          (Table.key_of_find? runFound).symm⟩
  unfold Db.hasLiveAttempts at idle
  rw [Bool.or_eq_false_iff, List.any_eq_false] at idle
  simpa using idle.1 attempt listed

theorem Sound.evaluationAttempt_terminal (sound : Sound [] db)
    (idle : db.hasLiveAttempts experimentId = false) {id : String} {attempt : EvaluationAttempt}
    {run : EvaluationRun} (found : db.evaluationAttempts.find? id = some attempt)
    (runFound : db.evaluationRuns.find? attempt.evaluationRunId = some run)
    (owned : run.experimentId = experimentId) : attempt.isTerminal = true := by
  obtain ⟨node, nodeFound, sameOwner⟩ := sound.evaluationRuns _ run runFound
  have listed : attempt ∈ db.evaluationAttemptsOf experimentId := by
    unfold Db.evaluationAttemptsOf
    refine List.mem_flatMap.mpr ⟨node,
      Db.mem_nodesForExperiment.mpr ⟨?_, sameOwner.trans owned⟩, ?_⟩
    · exact Table.find?_of_mem (Table.mem_of_find? nodeFound)
    · refine List.mem_flatMap.mpr ⟨run, Db.mem_evaluationRunsForNode.mpr ⟨?_, ?_⟩, ?_⟩
      · exact Table.find?_of_mem (Table.mem_of_find? runFound)
      · exact (Table.key_of_find? nodeFound).symm
      · exact Db.mem_evaluationAttemptsForRun.mpr ⟨Table.find?_of_mem (Table.mem_of_find? found),
          (Table.key_of_find? runFound).symm⟩
  unfold Db.hasLiveAttempts at idle
  rw [Bool.or_eq_false_iff, List.any_eq_false, List.any_eq_false] at idle
  simpa using idle.2 attempt listed

/-- Everything wound up under an experiment without live attempts, and the experiment ended. -/
theorem Sound.rested (sound : Sound [] db) (idle : db.hasLiveAttempts experimentId = false)
    {db' : Db} (winding : db.winding experimentId [] db')
    (experiments : Table Experiment.id) (experiment : Experiment)
    (found : experiments.find? experimentId = some experiment)
    (ended : experiment.isTerminal = true) :
    Rested (db'.setExperiments experiments) experimentId := by
  obtain ⟨nodes, runs, evaluationRuns, ledger, events, outbox, rfl, sweeps, ofRuns, ofEvals⟩ :=
    winding
  constructor
  · exact ⟨experiment, found, ended⟩
  · intro id node stored owned
    exact (sweeps.swept id node stored owned).resolve_left List.not_mem_nil
  · intro id run stored owned
    exact (ofRuns.wound id run stored owned).resolve_left List.not_mem_nil
  · intro id attempt run stored runStored owned
    obtain ⟨old, oldFound, _, _, rfl, _⟩ := ofRuns.origin _ run runStored
    exact sound.attempt_terminal idle stored oldFound owned
  · intro id run stored owned
    exact (ofEvals.wound id run stored owned).resolve_left List.not_mem_nil
  · intro id attempt run stored runStored owned
    obtain ⟨old, oldFound, _, _, rfl, _⟩ := ofEvals.origin _ run runStored
    exact sound.evaluationAttempt_terminal idle stored oldFound owned

end Ending

/-! ## The saga -/

section Saga

variable {L : Licence} {db : Db} {actor : Actor} {destinations : List String}

/-- Only the rows of actions and the books differ. -/
theorem Rested.setActed {experimentId : String} {actions : Table Action.id}
    {ledger : Table BudgetLedgerEntry.key} {events : List DomainEvent} {outbox : List OutboxRecord}
    (rested : Rested db experimentId) :
    Rested ((db.setActions actions).setBooks ledger events outbox) experimentId :=
  ⟨rested.experiment, rested.nodes, rested.runs, rested.attempts, rested.evaluationRuns,
    rested.evaluationAttempts⟩

/-- The saga's last commit: either something is still live, or the experiment is at rest. -/
theorem Legal.applyExperimentCancellation {post : Action → Debt → Db → Prop} {parent : Action}
    (settles : L.settles) (wasRead : db.readAs parent)
    (live : db.hasLiveAttempts parent.target.id = true → post parent [] db)
    (holds : ∀ moved db', parent.withStatus .succeeded (some .applied) = some moved →
      db'.actions.find? parent.id = some moved → Rested db' parent.target.id → post moved [] db') :
    Legal L (applyExperimentCancellation parent actor destinations) [] db post := by
  unfold Storage.applyExperimentCancellation
  refine .assume fun sound => .read (.ite (fun isLive => .pure (live isLive)) fun idle => .read ?_)
  have idle' : db.hasLiveAttempts parent.target.id = false := by simpa using idle
  refine .bind (Legal.cancelNodes fun db' winding => ?_)
  have rested := sound.rested idle' winding
  have sameRecord : db'.experiments = db.experiments ∧ db'.actions = db.actions := by
    obtain ⟨_, _, _, _, _, _, rfl, _⟩ := winding
    exact ⟨rfl, rfl⟩
  have commits : ∀ db'' : Db, db''.actions = db.actions → Rested db'' parent.target.id →
      Legal L (Storage.commitResolution parent ⟨.succeeded, some .applied⟩ actor destinations) []
        db'' post := by
    intro db'' sameActions rested
    have wasRead'' : db''.readAs parent := by
      unfold Db.readAs
      rw [sameActions]
      exact wasRead
    refine (Legal.commitResolution settles (by decide) wasRead'').mono ?_
    rintro moved _ _ ⟨rfl, found, copied, events, outbox, rfl⟩
    have sameId := (MovedTo.of_withStatus copied).id
    refine holds moved _ copied ?_ rested.setActed
    exact sameId ▸ Table.find?_replace_self (sameId ▸ found)
  refine Legal.load fun (experiment : Experiment)
    (found : db'.experiments.find? parent.target.id = some experiment) => ?_
  refine .ite (fun ended => ?_) fun _ => .expect fun cancelled copied => ?_
  · exact commits db' sameRecord.2 (rested db'.experiments experiment found ended)
  · obtain ⟨moves, status⟩ := experiment_withStatus_moves copied
    have stored : db'.experiments.find? experiment.id = some experiment :=
      Table.find?_of_mem (Table.mem_of_find? found)
    have stored' : (db'.experiments.replace cancelled).find? cancelled.id = some cancelled :=
      Table.find?_replace_self (moves.id ▸ stored)
    have key : experiment.id = parent.target.id := Table.key_of_find? found
    refine .bind (Legal.moveExperiment stored moves List.not_mem_nil ?_)
    refine .bind (Legal.emit [] stored' (typed_of_kind (by decide)) rfl paid_head sub_head ?_)
    refine commits _ sameRecord.2 ?_
    have ended : cancelled.isTerminal = true := by
      rw [Experiment.isTerminal, status]
      rfl
    have atRest := rested (db'.experiments.replace cancelled) cancelled
      (key ▸ moves.id ▸ stored') ended
    exact ⟨atRest.experiment, atRest.nodes, atRest.runs, atRest.attempts, atRest.evaluationRuns,
      atRest.evaluationAttempts⟩

/-- What a commit may have done to the record, leaving one action as it was. -/
def Leaves (L : Licence) (actionId : String) (db db' : Db) : Prop :=
  Sound [] db → Writes L [] db [] db' ∧ db'.actions.find? actionId = db.actions.find? actionId

theorem Leaves.refl (actionId : String) (db : Db) : Leaves L actionId db db := fun _ => ⟨.refl, rfl⟩

theorem Writes.sound {d d' : Debt} {db' : Db} (writes : Writes L d db d' db') (sound : Sound d db) :
    Sound d' db' :=
  Steps.invariant writes sound fun _ _ _ _ write => write.sound

theorem Leaves.trans (actionId : String) (db₁ db₂ db₃ : Db) (first : Leaves L actionId db₁ db₂)
    (second : Leaves L actionId db₂ db₃) : Leaves L actionId db₁ db₃ := by
  intro sound
  obtain ⟨writes, same⟩ := first sound
  obtain ⟨writes', same'⟩ := second (writes.sound sound)
  exact ⟨Steps.trans writes writes', same'.trans same⟩

/-- A legal transaction, as the call it is run in sees it. -/
theorem Legal.settle {α : Type} {m : Repo α} {P : Db → Prop} (legal : Legal L m [] db fun _ d db' =>
      d = [] ∧ P db') (unchanged : P db) (sound : Sound [] db) :
    Writes L [] db [] (Transaction.settle m db) ∧ P (Transaction.settle m db) := by
  unfold Transaction.settle
  cases ran : m db with
  | error _ => exact ⟨.refl, unchanged⟩
  | ok result =>
      obtain ⟨_, writes, _, rfl, holds⟩ := legal sound result.1 result.2 ran
      exact ⟨writes, holds⟩

theorem Closed.settle {α : Type} {m : Repo α} (closed : Closed L m db) (sound : Sound [] db) :
    Writes L [] db [] (Transaction.settle m db) :=
  (Legal.settle (P := fun _ => True) (closed.mono fun _ _ _ settled => ⟨settled, trivial⟩) trivial
    sound).1

/-- Reconciling the children of a saga leaves the saga's own action as it was. -/
theorem reconcileChild_leaves (settles : L.settles) {parentId : String} {child : Action}
    (other : child.id ≠ parentId) :
    Leaves L parentId db (Session.settle (do
      if child.isTerminal then pure ()
      else do
        let _ ← Session.commit (reconcileCancellation child.id actor destinations)
        pure ()) db) := by
  by_cases ended : child.isTerminal = true
  · rw [if_pos ended]
    exact .refl parentId db
  · rw [if_neg ended]
    refine Session.bind_related (Leaves.trans parentId) ?_ fun _ => .refl parentId _
    rw [Session.commit_settle]
    intro sound
    refine Legal.settle (P := fun db' => db'.actions.find? parentId = db.actions.find? parentId)
      ?_ rfl sound
    refine Legal.reconcileCancellation settles (fun _ => ⟨rfl, rfl⟩) ?_
    intro action moved events outbox isChild sameId
    refine ⟨rfl, Table.find?_replace_of_ne ?_⟩
    rw [show Action.id moved = child.id from sameId.trans isChild]
    exact other.symm

/-- What reconciling a saga leaves: if it is the one to settle it as applied, an experiment at
rest. -/
def SagaSettled (actionId : String) (db db' : Db) : Prop :=
  ∀ parent moved, db.actions.find? actionId = some parent → parent.isTerminal = false →
    db'.actions.find? actionId = some moved → moved.status = .succeeded →
      moved.outcome = some .applied → Rested db' parent.target.id

/-- A saga that is left where it was has not been settled. -/
theorem SagaSettled.of_same {actionId : String} {db' : Db}
    (same : db'.actions.find? actionId = db.actions.find? actionId) :
    SagaSettled actionId db db' := by
  intro parent moved found live movedFound succeeded _
  rw [same, found, Option.some.injEq] at movedFound
  rw [Action.isTerminal, movedFound, succeeded] at live
  cases live

/-- The last commit of a saga whose children have all been settled. -/
theorem concludeSaga_settles (settles : L.settles) (sound : Sound [] db) {parent : Action}
    (stored : db.actions.find? parent.id = some parent) (children : List Action) :
    Writes L [] db [] (Session.settle (concludeSaga parent children actor destinations) db) ∧
      SagaSettled parent.id db
        (Session.settle (concludeSaga parent children actor destinations) db) := by
  have wasRead : db.readAs parent := Db.readAs_of_stored stored
  have unchanged : SagaSettled parent.id db db := .of_same rfl
  rw [concludeSaga, Session.read_bind_settle]
  by_cases live : db.hasLiveAttempts parent.target.id = true
  · rw [if_pos live]
    by_cases failed : (children.any fun child => child.status = .failed) = true
    · rw [if_pos failed, Session.commit_settle]
      refine Legal.settle ((Legal.commitResolution settles (by decide) wasRead).mono ?_) unchanged
        sound
      rintro moved _ _ ⟨rfl, _, copied, events, outbox, rfl⟩
      refine ⟨rfl, ?_⟩
      intro parent' moved' _ _ movedFound succeeded _
      have moves := MovedTo.of_withStatus copied
      have movedStored : (db.actions.replace moved).find? parent.id = some moved :=
        moves.id ▸ Table.find?_replace_self (moves.id ▸ stored)
      have isMoved : moved = moved' := Option.some.inj (movedStored.symm.trans movedFound)
      subst isMoved
      rw [moves.status] at succeeded
      cases succeeded
    · rw [if_neg failed]
      exact ⟨.refl, unchanged⟩
  · rw [if_neg live, Session.commit_settle]
    refine Legal.settle (Legal.applyExperimentCancellation settles wasRead ?_ ?_) unchanged sound
    · exact fun isLive => absurd isLive live
    · intro moved db' _ _ rested
      refine ⟨rfl, ?_⟩
      intro parent' moved' found _ _ _ _
      have isParent : parent = parent' := Option.some.inj (stored.symm.trans found)
      exact isParent ▸ rested

theorem reconcileExperimentCancellation_settles (settles : L.settles) (sound : Sound [] db)
    (actionId : String) :
    Writes L [] db []
        (Session.settle (reconcileExperimentCancellation actionId actor destinations) db) ∧
      SagaSettled actionId db
        (Session.settle (reconcileExperimentCancellation actionId actor destinations) db) := by
  have unchanged : Writes L [] db [] db ∧ SagaSettled actionId db db := ⟨.refl, .of_same rfl⟩
  unfold reconcileExperimentCancellation
  rw [Session.read_bind_settle]
  cases found : db.actions.find? actionId with
  | none => exact unchanged
  | some parent =>
      have isParent : parent.id = actionId := Table.key_of_find? found
      subst isParent
      by_cases saga : parent.type ≠ "cancel-experiment"
      · simp only [if_pos saga]
        exact unchanged
      by_cases ended : parent.isTerminal = true
      · simp only [if_neg saga, if_pos ended]
        exact unchanged
      simp only [if_neg saga, if_neg ended]
      rw [Session.read_bind_settle]
      -- a saga is nobody's child
      have others : ∀ child ∈ db.childrenOf parent.id, child.id ≠ parent.id := by
        intro child member same
        obtain ⟨stored, isChild⟩ := List.mem_filter.mp member
        have childFound : db.actions.find? child.id = some child := Table.find?_of_mem stored
        have isParent : parent = child := Option.some.inj (found.symm.trans (same ▸ childFound))
        have type := sound.children _ child childFound
          (by rw [of_decide_eq_true isChild]; rfl)
        rw [← isParent] at type
        exact saga fun isSaga => absurd (isSaga.symm.trans type) (by decide)
      have reconciled : ∀ child ∈ db.childrenOf parent.id, ∀ db₁,
          Leaves L parent.id db₁ (Session.settle (do
            if child.isTerminal then pure ()
            else do
              let _ ← Session.commit (reconcileCancellation child.id actor destinations)
              pure ()) db₁) :=
        fun child member _ => reconcileChild_leaves settles (others child member)
      obtain ⟨writes, same⟩ := Session.forEach_related (Leaves.refl (L := L) parent.id)
        (Leaves.trans parent.id) reconciled db sound
      have stored := same.trans found
      rcases Session.bind_settle (Session.forEach (db.childrenOf parent.id) _) _ db with
        raised | ⟨_, continued⟩
      · rw [raised]
        exact ⟨writes, .of_same same⟩
      · rw [continued, Session.read_bind_settle]
        split
        · exact ⟨writes, .of_same same⟩
        · obtain ⟨writes', settled⟩ := concludeSaga_settles settles (writes.sound sound) stored _
          refine ⟨Steps.trans writes writes', ?_⟩
          intro parent' moved found'
          exact settled parent' moved (same.trans found')

end Saga

end Xaytune.Storage
