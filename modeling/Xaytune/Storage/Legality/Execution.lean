import Xaytune.Storage.Legality.Rows

/-!
# Experiments, runs and attempts as writes

Creation and transition of the training aggregates, and the settlement of
operations, each as a chain of writes that leaves nothing owed.
-/

namespace Xaytune.Storage

open Xaytune.Core Xaytune.Library

/-- The operation is a chain of writes that leaves nothing owed. -/
def Closed (L : Licence) {α : Type} (m : Repo α) (db : Db) : Prop :=
  Legal L m [] db fun _ d _ => d = []

/-! ## What a row owes -/

section Debts

variable {d : Debt} {owed : Owed}

theorem paid_head : ∀ other ∈ owed :: d, other ∈ d ∨ other = owed := by
  intro other due
  exact (List.mem_cons.mp due).symm

theorem sub_head : ∀ other ∈ d, other ∈ owed :: d := fun _ => List.mem_cons_of_mem _

theorem typed_of_kind {L : Licence} {kind : AggregateKind} {eventType : String}
    (other : kind ≠ .run ∧ kind ≠ .action) : TypedAs L kind eventType :=
  ⟨.inr (.inr other.1), fun isAction => absurd isAction other.2⟩

theorem typed_of_type {L : Licence} {eventType : String}
    (other : eventType ≠ "TrainingInterventionRecorded") : TypedAs L .run eventType :=
  ⟨.inr (.inl other), nofun⟩

theorem typed_of_action {L : Licence} {eventType : String} (quiet : eventType ∉ governingEvents) :
    TypedAs L .action eventType :=
  ⟨.inr (.inr (by decide)), fun _ => quiet⟩

/-- A move to a status that no answer and no execution leads to, under another event than theirs. -/
theorem MoveTells.quiet {old : Action} {status : ActionStatus} {eventType : String} {actor : Actor}
    (other : eventType ∉ governingEvents) (moves : status ≠ .approved ∧ status ≠ .executing) :
    MoveTells old status eventType actor := by
  simp only [governingEvents, List.mem_cons, List.not_mem_nil, or_false, not_or] at other
  obtain ⟨notApproved, notDenied, notRejected, notExecuting⟩ := other
  constructor
  · exact ⟨fun same => absurd same notApproved, fun same => absurd same moves.1⟩
  · exact fun same => absurd same notDenied
  · exact fun same => absurd same notRejected
  · exact ⟨fun same => absurd same notExecuting, fun same => absurd same moves.2⟩
  · exact fun same => absurd same notApproved

theorem MoveTells.reject {old : Action} {actor : Actor} :
    MoveTells old .rejected "ActionRejected" actor := by
  constructor <;> simp

theorem MoveTells.execute {old : Action} {actor : Actor} :
    MoveTells old .executing "ActionExecuting" actor := by
  constructor <;> simp

end Debts

/-! ## Auxiliary tables -/

section Aux

variable {L : Licence} {d : Debt} {db : Db} {post : Unit → Debt → Db → Prop}

/-- A statement over a table beside the aggregates. -/
theorem Legal.aux {g : Db → Db} (aside : Aside L d db (g db))
    (holds : ∀ other, post () d (db.withAux other)) :
    Legal L (Transaction.write g) d db post := by
  have write : Write L d db d (g db) := by
    rw [← aside.withAux_eq]
    exact .aux (g db) aside
  exact .write write write.sound (aside.withAux_eq ▸ holds (g db))

theorem Legal.insertAux {α κ : Type} {key : α → κ} [DecidableEq κ] {table : Db → Table key}
    {setTable : Table key → Db → Db} {row : α}
    (aside : ∀ table', (table db).insert? row = some table' → Aside L d db (setTable table' db))
    (holds : ∀ other, post () d (db.withAux other)) :
    Legal L (Storage.insertInto table setTable row) d db post := by
  refine Legal.insertInto ?_
  intro table' inserted
  rw [← (aside table' inserted).withAux_eq]
  exact ⟨.aux _ (aside table' inserted), holds _⟩

theorem Legal.advanceTelemetry {target : RuntimeOperationTarget} {position : Nat × Nat}
    (streams : L.streams target (position.1, position.2))
    (holds : ∀ other, post () d (db.withAux other)) :
    Legal L (advanceTelemetry target position) d db post := by
  unfold Storage.advanceTelemetry
  by_cases later : (db.telemetryPosition target).1 < position.1 ∨
      ((db.telemetryPosition target).1 = position.1 ∧
        (db.telemetryPosition target).2 < position.2)
  · refine Legal.aux ?_ holds
    simp only [if_pos later]
    exact .telemetry ⟨target, position.1, position.2⟩ later streams
  · intro sound _ _ ran
    simp only [Transaction.write_apply, if_neg later] at ran
    cases ran
    exact ⟨d, .refl, sound, holds db⟩

theorem Legal.advanceTelemetryGiven {target : RuntimeOperationTarget}
    {position : Option (Nat × Nat)}
    (streams : ∀ given, position = some given → L.streams target (given.1, given.2))
    (holds : ∀ other, post () d (db.withAux other)) :
    Legal L (advanceTelemetryGiven target position) d db post := by
  cases position with
  | none => exact .pure (holds db)
  | some position => exact Legal.advanceTelemetry (streams position rfl) holds

end Aux

/-! ## Actions -/

section Actions

variable {L : Licence} {d : Debt} {db : Db}

/-- An action moved and journalled. -/
theorem Legal.settleAction {post : Action → Debt → Db → Prop} {action : Action}
    {newStatus : ActionStatus} {outcome : Option ActionOutcome} {eventType : String} {actor : Actor}
    {destinations : List String} {extra : EventExtra}
    (found : db.actions.find? action.id = some action)
    (journalled : .event ⟨.action, action.id⟩ ∉ d)
    (cancellation : ∀ moved, action.withStatus newStatus outcome = some moved →
      action.isCancellation = true → (.opening action.id ∈ d ∧ OpensTrue db moved) ∨ L.settles)
    (authorized : newStatus = .executing → action.isCancellation = false →
      ∃ decision ∈ db.policyDecisions.rows, decision.actionId = action.id ∧
        ((action.status = .validated ∧ decision.verdict = .allow) ∨
          (action.status = .approved ∧ decision.verdict = .requireApproval)))
    (tells : MoveTells action newStatus eventType actor) (plain : isPlain extra = true)
    (holds : ∀ moved events outbox, action.withStatus newStatus outcome = some moved →
      post moved d ((db.setActions (db.actions.replace moved)).setBooks db.ledger events outbox)) :
    Legal L (settleAction action newStatus outcome eventType actor destinations extra) d db
      post := by
  unfold Storage.settleAction
  refine .expect fun moved copied => ?_
  obtain ⟨moves, rfl⟩ := action_withStatus_moves copied
  refine Legal.moveAction found moves journalled (cancellation _ copied) authorized ?_ (.pure ?_)
  · exact ⟨rfl, rfl, rfl, plain, tells⟩
  · exact holds _ _ _ copied

/-- The actions and the journal changed, and nothing else. -/
abbrev Db.setActed (db : Db) (actions : Table Action.id) (events : List DomainEvent)
    (outbox : List OutboxRecord) : Db :=
  (db.setActions actions).setBooks db.ledger events outbox

/-- A decided action that ends with the effect it was executing. -/
theorem Legal.settleExecuting {post : Unit → Debt → Db → Prop} {action : Action}
    {newStatus : ActionStatus} {outcome : Option ActionOutcome} {eventType : String} {actor : Actor}
    {destinations : List String} {extra : EventExtra}
    (found : db.actions.find? action.id = some action)
    (journalled : .event ⟨.action, action.id⟩ ∉ d) (governed : action.isCancellation = false)
    (ends : newStatus ≠ .executing) (tells : MoveTells action newStatus eventType actor)
    (plain : isPlain extra = true)
    (holds : ∀ actions events outbox, post () d (db.setActed actions events outbox)) :
    Legal L (do
      let _ ← Storage.settleAction action newStatus outcome eventType actor destinations extra
      pure ()) d db post := by
  refine .bind
    (Legal.settleAction found journalled ?_ (fun begins => absurd begins ends) tells plain
    ?_)
  · intro _ _ cancels
    rw [governed] at cancels
    cases cancels
  · intro moved events outbox _
    exact .pure (holds _ events outbox)

theorem not_cancellation_of_type {action : Action} {type : String} (typed : action.type = type)
    (other : cancellationTypes.contains type = false) : action.isCancellation = false := by
  rw [Action.isCancellation, typed]
  exact other

theorem Legal.failUnconfirmedNumericalAction {post : Unit → Debt → Db → Prop} {attempt : RunAttempt}
    {actor : Actor} {destinations : List String}
    (journalled : ∀ id, .event ⟨.action, id⟩ ∉ d)
    (holds : ∀ actions events outbox, post () d (db.setActed actions events outbox)) :
    Legal L (failUnconfirmedNumericalAction attempt actor destinations) d db post := by
  have unchanged : post () d db := holds db.actions db.events db.outbox
  unfold Storage.failUnconfirmedNumericalAction
  refine .assume fun sound => .ite (fun _ => .read ?_) fun _ => .pure unchanged
  split
  · exact .pure unchanged
  · rename_i receipt foundReceipt
    refine Legal.get ?_
    split
    · exact .pure unchanged
    · rename_i action found
      have stored : db.numericalReceipts.find? receipt.actionId = some receipt :=
        Table.find?_of_mem (List.mem_of_find?_eq_some foundReceipt)
      obtain ⟨bound, boundFound, type⟩ := sound.numericalReceipts _ receipt stored
      have isBound : action = bound := Option.some.inj (found.symm.trans boundFound)
      subst isBound
      refine .read (.ite (fun _ => ?_) fun _ => .pure unchanged)
      exact Legal.settleExecuting (Table.find?_of_mem (Table.mem_of_find? boundFound))
        (journalled _) (not_cancellation_of_type type (by decide)) (by decide)
        (.quiet (by decide) (by decide)) rfl holds

end Actions

/-! ## Creation -/

section Creation

variable {L : Licence} {d : Debt} {db : Db} {post : Unit → Debt → Db → Prop}

theorem createExperiment_closed (experiment : Experiment) (actor : Actor)
    (destinations : List String) :
    Closed L (createExperiment experiment actor destinations) db := by
  unfold Closed createExperiment insertExperiment
  refine .bind (Legal.requirePristine fun created pristine => ?_)
  refine .bind (Legal.insertRow fun table inserted => ?_)
  refine ⟨_, .insertExperiment experiment table inserted ⟨pristine, created⟩, ?_⟩
  exact Legal.emit [] (Table.find?_insert?_self inserted) (typed_of_kind (by decide)) rfl paid_head
    sub_head rfl

/-- A node and its edges are one write. -/
theorem Legal.insertNode {node : ExperimentNode} (pristine : node.revision = 0)
    (created : node.status = .created) (undecided : L.skips ∨ node.decisionIds = [])
    (planted : L.plants node) (lineage : Lineage db node)
    (open_ : ∀ experiment, db.experiments.find? node.experimentId = some experiment →
      L.orphans node.experimentId ∨ experiment.isTerminal = false)
    (holds : ∀ table, db.nodes.insert? node = some table →
      post () (.event ⟨.experimentNode, node.id⟩ :: d) ((db.setNodes table).addEdges node)) :
    Legal L (insertNode node) d db post := by
  unfold Storage.insertNode
  refine .bind (Legal.requireReference fun ⟨experiment, found⟩ => ?_)
  cases inserted : (tableOf ExperimentNode db).insert? node with
  | none =>
      intro _ _ _ ran
      simp only [Transaction.bind_apply, Storage.insertRow, inserted] at ran
      cases ran
  | some table =>
      have new : NewNode L db node :=
        ⟨pristine, ⟨experiment, found, open_ _ found⟩, lineage, created, undecided, planted⟩
      refine Legal.step ?_ (.insertNode node table inserted new) (holds table inserted)
      simp only [Transaction.bind_apply, Storage.insertRow, inserted]
      rfl

/-- Parents without a problem are the lineage of a new node. -/
theorem lineage_of_no_problems {node : ExperimentNode} (distinct : node.parentIds.Nodup)
    (none_ : (node.parentIds.filterMap (parentProblem db node)).isEmpty = true) :
    Lineage db node := by
  refine ⟨distinct, ?_⟩
  intro parentId member
  have sound : parentProblem db node parentId = none := by
    cases problem : parentProblem db node parentId with
    | none => rfl
    | some text =>
        have named : text ∈ node.parentIds.filterMap (parentProblem db node) :=
          List.mem_filterMap.mpr ⟨parentId, member, problem⟩
        rw [List.isEmpty_iff.mp none_] at named
        cases named
  unfold parentProblem at sound
  split at sound
  · cases sound
  · rename_i other
    refine ⟨other, ?_⟩
    split at sound
    · cases sound
    · rename_i parent found
      refine ⟨parent, found, ?_⟩
      by_contra foreign
      rw [if_pos foreign] at sound
      cases sound

theorem Legal.validateParents {node : ExperimentNode} (holds : Lineage db node → post () d db) :
    Legal L (validateParents node) d db post := by
  unfold Storage.validateParents
  refine .require fun distinct => .read (.check fun none_ => ?_)
  exact holds (lineage_of_no_problems (of_decide_eq_true distinct) none_)

/-- A node inserted and journalled. -/
theorem Legal.recordNode {node : ExperimentNode} {experimentId : String} {actor : Actor}
    {destinations : List String} {extra : EventExtra} (pristine : node.revision = 0)
    (created : node.status = .created) (undecided : L.skips ∨ node.decisionIds = [])
    (planted : L.plants node) (lineage : Lineage db node)
    (open_ : ∀ experiment, db.experiments.find? node.experimentId = some experiment →
      L.orphans node.experimentId ∨ experiment.isTerminal = false)
    (plain : isPlain extra = true)
    (holds : ∀ table events outbox, db.nodes.insert? node = some table →
      post () d (((db.setNodes table).addEdges node).setBooks db.ledger events outbox)) :
    Legal L (do
      Storage.insertNode node
      Storage.emit node "NodeCreated" experimentId actor destinations extra) d db post := by
  refine .bind (Legal.insertNode pristine created undecided planted lineage open_ ?_)
  intro table inserted
  refine Legal.emit d (Table.find?_insert?_self inserted) (typed_of_kind (by decide)) plain
    paid_head sub_head ?_
  exact holds table _ _ inserted

theorem createNode_closed (checks : Checks) (node : ExperimentNode) (actor : Actor)
    (destinations : List String) (orphan : L.orphans node.experimentId)
    (undecided : L.skips ∨ node.decisionIds = [])
    (planted : node.candidateFingerprint = checks.candidateFingerprint node.candidate →
      L.plants node) :
    Closed L (createNode checks node actor destinations) db := by
  unfold Closed createNode requireConsistentCandidate
  refine .bind (Legal.requirePristine fun created pristine => ?_)
  refine .require fun consistent => .require fun _ =>
    .bind (Legal.validateParents fun lineage => ?_)
  refine Legal.recordNode pristine created undecided (planted (of_decide_eq_true consistent))
    lineage (fun _ _ => .inl orphan) rfl ?_
  intro _ _ _ _
  rfl

theorem Legal.requireConsistentRun {run : Run}
    (holds : ∀ node, db.nodes.find? run.nodeId = some node →
      node.experimentId = run.experimentId → post () d db) :
    Legal L (requireConsistentRun run) d db post := by
  unfold Storage.requireConsistentRun
  refine Legal.load fun (node : ExperimentNode)
    (found : db.nodes.find? run.nodeId = some node) => ?_
  refine .require fun same => .require fun _ => ?_
  have holds := holds node found (by simpa using same)
  split
  · exact .pure holds
  · exact Legal.get (.expect fun _ _ => .require fun _ => .check fun _ => holds)

/-- Every limited dimension is one the budget's status is computed for. -/
theorem mem_limits {spec : Option BudgetSpec} {dimension : BudgetDimension} {limit : Int}
    (limited : limit? spec dimension = some limit) : (dimension, limit) ∈ limits spec := by
  unfold limits
  rw [List.mem_filterMap]
  refine ⟨dimension, ?_, by rw [limited, Option.map_some]⟩
  cases dimension <;> simp

/-- A quota that covers a new run has one left. -/
theorem remaining_of_no_reasons {experiment : Experiment} {limit : Int}
    (covered : (budgetReasons db experiment true).isEmpty = true)
    (limited : limit? experiment.budget .runs = some limit) :
    1 ≤ (dimensionStatus (db.entries experiment.id) .runs limit).remaining := by
  have none_ : budgetReason true (dimensionStatus (db.entries experiment.id) .runs limit) =
    none := by
    have empty : budgetReasons db experiment true = [] := List.isEmpty_iff.mp covered
    unfold budgetReasons at empty
    rw [List.filterMap_eq_nil_iff] at empty
    exact empty _ (List.mem_map.mpr ⟨(.runs, limit), mem_limits limited, rfl⟩)
  by_contra short
  have lacking : (dimensionStatus (db.entries experiment.id) .runs limit).remaining < 1 := by omega
  simp [budgetReason,
    show (dimensionStatus (db.entries experiment.id) .runs limit).dimension = .runs
    from rfl, lacking] at none_

theorem Legal.requireBudget {experimentId : String} {newRun : Bool}
    (holds : ∀ experiment, db.experiments.find? experimentId = some experiment →
      (budgetReasons db experiment newRun).isEmpty = true → post () d db) :
    Legal L (requireBudget experimentId newRun) d db post := by
  unfold Storage.requireBudget
  refine Legal.load fun (experiment : Experiment)
    (found : db.experiments.find? experimentId = some experiment) => ?_
  exact .read (.check fun covered => holds experiment found covered)

theorem Legal.requireCapacity {experimentId : String}
    (holds : ∀ experiment, db.experiments.find? experimentId = some experiment →
      (∀ limit, limit? experiment.budget .parallelRuns = some limit →
        (dimensionStatus (db.entries experiment.id) .parallelRuns limit).outstanding < limit) →
      post () d db) :
    Legal L (requireCapacity experimentId) d db post := by
  unfold Storage.requireCapacity
  refine Legal.load fun (experiment : Experiment)
    (found : db.experiments.find? experimentId = some experiment) => ?_
  refine .read ?_
  rw [Db.budgetStatus, statusOf_budgetStatus]
  cases limited : limit? experiment.budget .parallelRuns with
  | none =>
      refine .pure (holds experiment found ?_)
      intro limit limited'
      rw [limited] at limited'
      cases limited'
  | some limit =>
      refine .check fun free => holds experiment found ?_
      intro limit' limited'
      rw [limited, Option.some.injEq] at limited'
      subst limited'
      exact of_decide_eq_true free

/-- A run, its event and its reservation. -/
theorem Legal.insertRunWithReservation {run : Run} {actor : Actor} {destinations : List String}
    (pristine : run.revision = 0) (created : run.status = .created)
    (open_ : ∀ experiment, db.experiments.find? run.experimentId = some experiment →
      L.orphans run.experimentId ∨ experiment.isTerminal = false)
    (holds : ∀ table ledger events outbox, db.runs.insert? run = some table →
      post () [] ((db.setRuns table).setBooks ledger events outbox)) :
    Legal L (insertRunWithReservation run actor destinations) [] db post := by
  unfold Storage.insertRunWithReservation insertRun
  refine .bind (Legal.requireConsistentRun fun node nodeFound sameOwner => ?_)
  refine .bind (Legal.requireBudget fun experiment found covered => ?_)
  refine .bind (.bind (Legal.requireReference fun _ => .bind (Legal.requireReference fun _ => ?_)))
  refine Legal.insertRow fun table inserted => ⟨_, .insertRun run table inserted
    ⟨pristine, created, ⟨node, nodeFound, sameOwner⟩, experiment, found, open_ _ found,
      fun limit => remaining_of_no_reasons covered⟩, ?_⟩
  have stored : table.find? run.id = some run := Table.find?_insert?_self inserted
  refine .bind (Legal.emit [.quota run.id] stored (typed_of_type (by decide)) rfl paid_head sub_head
    ?_)
  refine Legal.thenPay (Legal.ledger (by decide) rfl ?_ ?_ ?_)
  · exact Option.map_eq_some_iff.mpr ⟨run, stored, rfl⟩
  · intro _ _ _
    exact List.mem_singleton.mpr rfl
  · intro ledger _ accounted
    refine ⟨[], ?_, fun _ due => absurd due (List.not_mem_nil), holds table ledger _ _ inserted⟩
    intro owed due
    rw [List.mem_singleton.mp due]
    exact .inr accounted

theorem createRun_closed (run : Run) (actor : Actor) (destinations : List String)
    (orphan : L.orphans run.experimentId) : Closed L (createRun run actor destinations) db := by
  unfold Closed createRun
  refine .bind (Legal.requirePristine fun created pristine => ?_)
  refine Legal.insertRunWithReservation pristine created (fun _ _ => .inl orphan) ?_
  intro _ _ _ _ _
  rfl

theorem Legal.insertAttempt {attempt : RunAttempt} (new : NewAttempt L db attempt)
    (holds : ∀ table, db.attempts.insert? attempt = some table →
      post () [.event ⟨.runAttempt, attempt.id⟩, .slot attempt.id] (db.setAttempts table)) :
    Legal L (insertAttempt attempt) [] db post := by
  unfold Storage.insertAttempt
  refine .bind (Legal.requireReference fun _ => .read (.require fun _ => ?_))
  exact Legal.insertRow fun table inserted =>
    ⟨_, .insertAttempt attempt table inserted new, holds table inserted⟩

/-- The event a fresh operation owes; one found again owes nothing. -/
def OperationDue (stored : RuntimeOperation) (due : Debt) : Prop :=
  due = [] ∨ due = [.event ⟨.runtimeOperation, stored.id⟩]

theorem Legal.insertOperation {post : RuntimeOperation → Debt → Db → Prop}
    {operation : RuntimeOperation} (intended : operation.state = .intended)
    (pristine : operation.revision = 0)
    (target : db.hasAttempt operation.target.kind.toActionTargetKind operation.target.id)
    (caused : ∀ actionId action, operation.causedByActionId = some actionId →
      db.actions.find? actionId = some action → action.isCancellation = true →
        .opening actionId ∈ d)
    (holds : ∀ stored operations due, OperationDue stored due →
      operations.find? stored.id = some stored →
        post stored (due ++ d) (db.setOperations operations)) :
    Legal L (insertOperation operation) d db post := by
  unfold Storage.insertOperation
  refine Legal.get ?_
  cases existing : (tableOf RuntimeOperation db).find? operation.id with
  | some stored =>
      unfold assertSameOperation
      refine .require fun _ => .pure ?_
      exact holds stored db.operations [] (.inl rfl)
        (Table.find?_of_mem (Table.mem_of_find? existing))
  | none =>
      have inserts : ∀ found : ∀ actionId, operation.causedByActionId = some actionId →
          ∃ action, db.actions.find? actionId = some action,
          Legal L (do Storage.insertRow operation; pure operation) d db post := by
        intro found
        refine .bind (Legal.insertRow fun table inserted => ⟨_,
          .insertOperation operation table inserted ⟨pristine, intended, target, ?_⟩, .pure ?_⟩)
        · intro actionId isCaused
          obtain ⟨action, stored⟩ := found actionId isCaused
          exact ⟨action, stored, caused actionId action isCaused stored⟩
        · exact holds operation table _ (.inr rfl) (Table.find?_insert?_self inserted)
      cases isCaused : operation.causedByActionId with
      | none =>
          refine .next (inserts ?_)
          intro actionId other
          rw [isCaused] at other
          cases other
      | some actionId =>
          refine .bind (Legal.requireReference fun found => inserts ?_)
          intro other same
          rw [isCaused, Option.some.injEq] at same
          exact same ▸ found

/-- Journalling an operation, whether it was just inserted or found again. -/
theorem Legal.emitOperation {stored : RuntimeOperation} {due : Debt}
    {eventType experimentId : String}
    {actor : Actor} {destinations : List String} (isDue : OperationDue stored due)
    (found : db.operations.find? stored.id = some stored)
    (holds : post () d
      (db.record (eventOf stored eventType experimentId actor .none) destinations)) :
    Legal L (Storage.emit stored eventType experimentId actor destinations) (due ++ d) db post := by
  refine Legal.emit d found (typed_of_kind (by decide)) rfl ?_ (fun _ => List.mem_append_right _)
    holds
  rcases isDue with rfl | rfl
  · exact fun _ due => .inl due
  · exact paid_head

/-- A new attempt's intent: its operation, its event and its slot. -/
theorem Legal.recordAttemptIntent {post : RuntimeOperation → Debt → Db → Prop}
    {attempt : RunAttempt} {run : Run} {operation : RuntimeOperation} {experimentId : String}
    {actor : Actor} {destinations : List String} (intended : operation.state = .intended)
    (pristine : operation.revision = 0) (target : operation.target = ⟨.trainingAttempt, attempt.id⟩)
    (found : db.attempts.find? attempt.id = some attempt)
    (runFound : db.runs.find? attempt.runId = some run) (owner : run.experimentId = experimentId)
    (caused : ∀ actionId action, operation.causedByActionId = some actionId →
      db.actions.find? actionId = some action → action.isCancellation = false)
    (holds : ∀ stored operations ledger events outbox,
      post stored [] ((db.setOperations operations).setBooks ledger events outbox)) :
    Legal L (recordAttemptIntent attempt operation experimentId actor destinations)
      [.event ⟨.runAttempt, attempt.id⟩, .slot attempt.id] db post := by
  unfold Storage.recordAttemptIntent
  refine .bind (Legal.insertOperation intended pristine ?_ ?_ ?_)
  · rw [target]
    exact ⟨attempt, found⟩
  · intro actionId action isCaused stored cancels
    rw [caused actionId action isCaused stored] at cancels
    cases cancels
  · intro stored operations due isDue opFound
    refine .bind (Legal.emit (due ++ [.slot attempt.id]) found (typed_of_kind (by decide)) rfl ?_ ?_
      ?_)
    · intro owed member
      simp only [List.mem_append, List.mem_cons, List.not_mem_nil, or_false] at member ⊢
      rcases member with fresh | isEvent | isSlot
      · exact .inl (.inl fresh)
      · exact .inr isEvent
      · exact .inl (.inr isSlot)
    · intro owed member
      simp only [List.mem_append, List.mem_cons, List.not_mem_nil, or_false] at member ⊢
      rcases member with fresh | isSlot
      · exact .inl fresh
      · exact .inr (.inr isSlot)
    refine .bind (Legal.thenPay (Legal.ledger (by decide) rfl ?_ ?_ ?_))
    · exact Option.bind_eq_some_iff.mpr
        ⟨attempt, found, Option.map_eq_some_iff.mpr ⟨run, runFound, owner⟩⟩
    · intro _ _ _
      exact List.mem_append_right _ (List.mem_singleton.mpr rfl)
    · intro ledger _ accounted
      refine ⟨due, ?_, fun _ => List.mem_append_left _, ?_⟩
      · intro owed member
        rcases List.mem_append.mp member with fresh | isSlot
        · exact .inl fresh
        · rw [List.mem_singleton.mp isSlot]
          exact .inr accounted
      · rw [← List.append_nil due]
        exact .bind (Legal.emitOperation isDue opFound (.pure (holds stored operations ledger _ _)))

/-- A new training attempt with everything it needs. -/
theorem Legal.insertTrainingAttemptWithIntent {post : RuntimeOperation → Debt → Db → Prop}
    {attempt : RunAttempt} {operation : RuntimeOperation} {actor : Actor}
    {destinations : List String} (attemptPristine : attempt.revision = 0)
    (created : attempt.status = .created) (intended : operation.state = .intended)
    (pristine : operation.revision = 0) (target : operation.target = ⟨.trainingAttempt, attempt.id⟩)
    (uncaused : operation.causedByActionId = none)
    (open_ : ∀ run, db.runs.find? attempt.runId = some run →
      L.orphans run.experimentId ∨ run.isTerminal = false)
    (holds : ∀ stored attempts operations ledger events outbox,
      post stored [] (((db.setAttempts attempts).setOperations operations).setBooks ledger events
        outbox)) :
    Legal L (insertTrainingAttemptWithIntent attempt operation actor destinations) [] db post := by
  unfold Storage.insertTrainingAttemptWithIntent experimentOfRun
  refine .bind (Legal.load fun (run : Run)
    (runFound : db.runs.find? attempt.runId = some run) => .pure ?_)
  refine .bind (Legal.requireBudget fun _ _ _ => ?_)
  refine .bind (Legal.requireCapacity fun experiment found free => ?_)
  refine .bind (Legal.insertAttempt ⟨attemptPristine, created, run, experiment, runFound, found,
    open_ run runFound, free⟩ fun table inserted => ?_)
  refine Legal.recordAttemptIntent intended pristine target (Table.find?_insert?_self inserted)
    runFound rfl ?_ ?_
  · intro actionId _ isCaused
    rw [uncaused] at isCaused
    cases isCaused
  · intro stored operations ledger events outbox
    exact holds stored table operations ledger events outbox

theorem createAttemptWithSubmitIntent_closed (attempt : RunAttempt)
    (operationId requestDigest : String) (actor : Actor) (destinations : List String)
    (orphan : db.operations.find? operationId = none →
      ∀ run, db.runs.find? attempt.runId = some run → L.orphans run.experimentId) :
    Closed L (createAttemptWithSubmitIntent attempt operationId requestDigest actor destinations)
      db := by
  unfold Closed createAttemptWithSubmitIntent
  refine .bind (Legal.requirePristine fun created pristine => Legal.get ?_)
  split
  · unfold assertSameOperation
    exact .require fun _ => Legal.get (.expect fun _ _ => .require fun _ => .pure rfl)
  · rename_i fresh
    refine .bind (Legal.insertTrainingAttemptWithIntent pristine created rfl rfl rfl rfl
      (fun run found => .inl (orphan fresh run found)) ?_)
    intro _ _ _ _ _ _
    exact .pure rfl

end Creation

/-! ## Transitions -/

theorem Legal.experimentOfRun {L : Licence} {d : Debt} {db : Db} {post : String → Debt → Db → Prop}
    {runId : String}
    (holds : ∀ run, db.runs.find? runId = some run → post run.experimentId d db) :
    Legal L (experimentOfRun runId) d db post := by
  unfold Storage.experimentOfRun
  exact Legal.load fun run found => .pure (holds run found)

theorem Legal.experimentOfEvaluationRun {L : Licence} {d : Debt} {db : Db}
    {post : String → Debt → Db → Prop} {runId : String}
    (holds : ∀ run, db.evaluationRuns.find? runId = some run → post run.experimentId d db) :
    Legal L (experimentOfEvaluationRun runId) d db post := by
  unfold Storage.experimentOfEvaluationRun
  exact Legal.load fun run found => .pure (holds run found)

section Transitions

variable {L : Licence} {db : Db} {id : String} {expectedRevision : Nat} {actor : Actor}
  {eventType : Option String} {destinations : List String}

theorem Legal.transitionExperiment {post : Experiment → Debt → Db → Prop}
    {newStatus : ExperimentStatus}
    (holds : ∀ old moved events outbox, db.experiments.find? id = some old →
      old.withStatus newStatus = some moved →
        post moved [] ((db.setExperiments (db.experiments.replace moved)).setBooks db.ledger events
          outbox)) :
    Legal L (transitionExperiment id expectedRevision newStatus actor eventType destinations) [] db
      post := by
  unfold Storage.transitionExperiment applyTransition
  refine Legal.loadAt fun (old : Experiment)
    (found : db.experiments.find? id = some old) => ?_
  refine .expect fun (moved : Experiment) (copied : old.withStatus newStatus = some moved) => ?_
  obtain ⟨moves, _⟩ := experiment_withStatus_moves copied
  have stored : db.experiments.find? old.id = some old :=
    Table.find?_of_mem (Table.mem_of_find? found)
  refine .bind (Legal.moveExperiment stored moves List.not_mem_nil ?_)
  refine .next (.next (.next (.bind (Legal.emit [] ?_ (typed_of_kind (by decide)) rfl paid_head
    sub_head (.pure ?_)))))
  · exact Table.find?_replace_self (moves.id ▸ stored)
  · exact holds old moved _ _ found copied

theorem Legal.transitionNode {post : ExperimentNode → Debt → Db → Prop}
    {newStatus : ExperimentNodeStatus}
    (deciding : newStatus = .deciding → ∀ node, db.nodes.find? id = some node →
      L.skips ∨ CycleEnded db node)
    (holds : ∀ old moved events outbox, db.nodes.find? id = some old →
      old.withStatus newStatus = some moved →
        post moved [] ((db.setNodes (db.nodes.replace moved)).setBooks db.ledger events outbox)) :
    Legal L (transitionNode id expectedRevision newStatus actor eventType destinations) [] db
      post := by
  unfold Storage.transitionNode applyTransition
  refine Legal.loadAt fun (old : ExperimentNode) (found : db.nodes.find? id = some old) => ?_
  refine .expect fun (moved : ExperimentNode) (copied : old.withStatus newStatus = some moved) => ?_
  obtain ⟨moves, _⟩ := node_withStatus_moves copied
  have stored : db.nodes.find? old.id = some old := Table.find?_of_mem (Table.mem_of_find? found)
  refine .bind (Legal.stepNode stored copied List.not_mem_nil ?_ ?_)
  · exact fun isDeciding => Or.imp_right (⟨rfl, ·⟩) (deciding isDeciding old found)
  refine .next (.next (.next (.bind (Legal.emit [] ?_ (typed_of_kind (by decide)) rfl paid_head
    sub_head (.pure ?_)))))
  · exact Table.find?_replace_self (moves.id ▸ stored)
  · exact holds old moved _ _ found copied

/-- Settling what an ended run owes leaves only its event. -/
theorem Legal.payRun {post : Unit → Debt → Db → Prop} {moved : Run} {owed : Owed} {d : Debt}
    (found : db.runs.find? moved.id = some moved) (reserved : .quota moved.id ∉ owed :: d)
    (holds : ∀ ledger events outbox, post () (owed :: d) (db.setBooks ledger events outbox)) :
    Legal L (Storage.settleRun moved actor destinations)
      (owed :: (runDebt moved ++ d)) db post := by
  refine Legal.thenPay (Legal.settleRun found ?_ ?_)
  · intro due
    refine reserved ?_
    rcases List.mem_cons.mp due with here | due
    · exact here ▸ List.mem_cons_self
    · rcases List.mem_append.mp due with isSettlement | due
      · unfold runDebt at isSettlement
        split at isSettlement <;> simp at isSettlement
      · exact List.mem_cons_of_mem _ due
  · intro ledger events outbox _ settled
    refine ⟨owed :: d, ?_, ?_, holds ledger events outbox⟩
    · intro other due
      rcases List.mem_cons.mp due with rfl | due
      · exact .inl List.mem_cons_self
      · rcases List.mem_append.mp due with isSettlement | due
        · unfold runDebt at isSettlement
          split at isSettlement
          · rw [List.mem_singleton.mp isSettlement]
            exact .inr (settled ‹_›)
          · cases isSettlement
        · exact .inl (List.mem_cons_of_mem _ due)
    · intro other due
      rcases List.mem_cons.mp due with rfl | due
      · exact List.mem_cons_self
      · exact List.mem_cons_of_mem _ (List.mem_append_right _ due)

/-- A run moved, settled and journalled. -/
theorem Legal.moveRunSettled {β : Type} {post : β → Debt → Db → Prop} {old moved : Run}
    {newStatus : RunStatus} {eventType experimentId : String} {rest : Repo β}
    (found : db.runs.find? old.id = some old) (copied : old.withStatus newStatus = some moved)
    (typed : TypedAs L .run eventType)
    (holds : ∀ ledger events outbox, Legal L rest []
      ((db.setRuns (db.runs.replace moved)).setBooks ledger events outbox) post) :
    Legal L (do
      Storage.updateRow moved
      Storage.settleRun moved actor destinations
      Storage.emit moved eventType experimentId actor destinations
      rest) [] db post := by
  obtain ⟨moves, _⟩ := run_withStatus_moves copied
  have stored : (db.runs.replace moved).find? moved.id = some moved :=
    Table.find?_replace_self (moves.id ▸ found)
  refine .bind (Legal.moveRun found moves List.not_mem_nil List.not_mem_nil ?_)
  refine .bind (Legal.payRun stored (by simp) ?_)
  intro ledger events outbox
  refine .bind (Legal.emit [] stored typed rfl paid_head sub_head ?_)
  exact holds ledger _ _

theorem Legal.applyTransitionRun {post : Run → Debt → Db → Prop} {newStatus : RunStatus}
    (typed : TypedAs L .run (eventType.getD "RunStatusChanged"))
    (holds : ∀ old moved ledger events outbox, db.runs.find? id = some old →
      old.withStatus newStatus = some moved →
        post moved [] ((db.setRuns (db.runs.replace moved)).setBooks ledger events outbox)) :
    Legal L (applyTransition Run id expectedRevision newStatus actor eventType destinations) [] db
      post := by
  unfold applyTransition
  refine Legal.loadAt fun (old : Run) (found : db.runs.find? id = some old) => ?_
  refine .expect fun (moved : Run) (copied : old.withStatus newStatus = some moved) => ?_
  have stored : db.runs.find? old.id = some old := Table.find?_of_mem (Table.mem_of_find? found)
  obtain ⟨moves, _⟩ := run_withStatus_moves copied
  have movedStored : (db.runs.replace moved).find? moved.id = some moved :=
    Table.find?_replace_self (moves.id ▸ stored)
  refine .bind (Legal.moveRun stored moves List.not_mem_nil List.not_mem_nil ?_)
  refine .next (.bind (Legal.payRun movedStored (by simp) ?_))
  intro ledger events outbox
  refine .next (.bind (Legal.emit [] movedStored typed rfl paid_head sub_head (.pure ?_)))
  exact holds old moved ledger _ _ found copied

theorem transitionRun_closed (newStatus : RunStatus)
    (typed : L.retyped ∨ eventType ≠ some "TrainingInterventionRecorded") :
    Closed L (transitionRun id expectedRevision newStatus actor eventType destinations) db := by
  unfold Closed transitionRun
  refine .read (.require fun _ => Legal.applyTransitionRun ?_ fun _ _ _ _ _ _ _ => rfl)
  rcases typed with retyped | other
  · exact ⟨.inl retyped, nofun⟩
  · refine typed_of_type ?_
    cases eventType with
    | none => decide
    | some eventType =>
        intro same
        exact other (congrArg some same)

theorem mem_attemptDebt {old new : RunAttempt} {owed : Owed} (due : owed ∈ attemptDebt old new) :
    (owed = .release new.id ∧ new.isTerminal = true) ∨
      (owed = .failure .trainingAttempt new.id ∧ new.status = .failed) := by
  unfold attemptDebt at due
  split at due
  · rename_i ended
    rcases List.mem_cons.mp due with rfl | due
    · exact .inl ⟨rfl, ended.1⟩
    · split at due
      · exact .inr ⟨List.mem_singleton.mp due, ‹_›⟩
      · cases due
  · cases due

/-- Settling what an ended attempt owes leaves only its event. -/
theorem Legal.payAttempt {post : Unit → Debt → Db → Prop} {old moved : RunAttempt}
    (found : db.attempts.find? moved.id = some moved)
    (holds : ∀ ledger events outbox,
      post () [.event ⟨.runAttempt, moved.id⟩] (db.setBooks ledger events outbox)) :
    Legal L (Storage.settleRunAttempt moved actor destinations)
      (.event ⟨.runAttempt, moved.id⟩ :: (attemptDebt old moved ++ [])) db post := by
  refine Legal.thenPay (Legal.settleRunAttempt found ?_ ?_)
  · intro due
    rw [List.append_nil] at due
    rcases List.mem_cons.mp due with here | due
    · cases here
    · rcases mem_attemptDebt due with ⟨here, _⟩ | ⟨here, _⟩ <;> cases here
  · intro ledger events outbox _ released counted
    refine ⟨_, ?_, ?_, holds ledger events outbox⟩
    · intro owed due
      rw [List.append_nil] at due
      rcases List.mem_cons.mp due with rfl | due
      · exact .inl (List.mem_singleton.mpr rfl)
      · rcases mem_attemptDebt due with ⟨rfl, ended⟩ | ⟨rfl, failed⟩
        · exact .inr (released ended)
        · exact .inr (counted failed)
    · intro owed due
      exact List.mem_singleton.mp due ▸ List.mem_cons_self

theorem transitionAttempt_closed (newStatus : RunAttemptStatus)
    (telemetryPosition : Option (Nat × Nat))
    (streams : ∀ position, telemetryPosition = some position →
      L.streams ⟨.trainingAttempt, id⟩ (position.1, position.2)) :
    Closed L (transitionAttempt id expectedRevision newStatus actor eventType destinations
      telemetryPosition) db := by
  unfold Closed transitionAttempt applyTransition
  refine Legal.loadAt fun (old : RunAttempt) (found : db.attempts.find? id = some old) => ?_
  refine .expect fun (moved : RunAttempt) (copied : old.withStatus newStatus = some moved) => ?_
  obtain ⟨moves, _⟩ := attempt_withStatus_moves copied
  have stored : db.attempts.find? old.id = some old :=
    Table.find?_of_mem (Table.mem_of_find? found)
  have movedStored : (db.attempts.replace moved).find? moved.id = some moved :=
    Table.find?_replace_self (moves.id ▸ stored)
  refine .bind (Legal.moveAttempt stored moves List.not_mem_nil List.not_mem_nil ?_)
  have isId : moved.id = id := moves.id.trans (Table.key_of_find? found)
  refine .bind (.bind (Legal.advanceTelemetryGiven (isId ▸ streams) fun other => ?_))
  refine Legal.failUnconfirmedNumericalAction ?_ fun actions events outbox => ?_
  · intro actionId due
    rw [List.append_nil] at due
    rcases List.mem_cons.mp due with here | due
    · cases here
    · rcases mem_attemptDebt due with ⟨here, _⟩ | ⟨here, _⟩ <;> cases here
  · refine .bind (Legal.payAttempt movedStored fun ledger events outbox => ?_)
    refine .bind (Legal.experimentOfRun fun _ _ => ?_)
    exact .bind (Legal.emit [] movedStored (typed_of_kind (by decide)) rfl paid_head sub_head
      (.pure rfl))

theorem recordArtifact_closed (attemptId : String) (artifact : ArtifactRef)
    (telemetryPosition : Option (Nat × Nat))
    (streams : ∀ position, telemetryPosition = some position →
      L.streams ⟨.trainingAttempt, attemptId⟩ (position.1, position.2)) :
    Closed L (recordArtifact attemptId artifact expectedRevision actor destinations
      telemetryPosition) db := by
  unfold Closed recordArtifact
  refine .require fun _ => Legal.loadAt fun (old : RunAttempt)
    (found : db.attempts.find? attemptId = some old) => ?_
  refine .expect fun recorded copied => ?_
  obtain ⟨moves, sameStatus⟩ := attempt_withArtifact_moves copied
  have stored : db.attempts.find? old.id = some old :=
    Table.find?_of_mem (Table.mem_of_find? found)
  have recordedStored : (db.attempts.replace recorded).find? recorded.id = some recorded :=
    Table.find?_replace_self (moves.id ▸ stored)
  have nothing : attemptDebt old recorded = [] := by
    simp [attemptDebt, RunAttempt.isTerminal, sameStatus]
  refine .bind (Legal.moveAttempt stored moves List.not_mem_nil List.not_mem_nil ?_)
  rw [nothing]
  refine .bind (Legal.experimentOfRun fun _ _ => ?_)
  refine .bind (Legal.emit [] recordedStored (typed_of_kind (by decide)) rfl paid_head sub_head ?_)
  exact .bind (Legal.advanceTelemetryGiven streams fun _ => .pure rfl)

end Transitions

/-! ## Operations -/

section Operations

variable {L : Licence} {db : Db} {actor : Actor} {destinations : List String}

theorem Legal.settleNumericalSubmission {post : Unit → Debt → Db → Prop}
    {operation : RuntimeOperation} {state : OperationState}
    (holds : ∀ actions events outbox, post () [] (db.setActed actions events outbox)) :
    Legal L (settleNumericalSubmission operation state actor destinations) [] db post := by
  have unchanged : post () [] db := holds db.actions db.events db.outbox
  unfold Storage.settleNumericalSubmission
  refine .assume fun sound => ?_
  cases operation.causedByActionId with
  | none => exact .pure unchanged
  | some actionId =>
    refine .ite (fun _ => .read (Legal.get ?_)) fun _ => .pure unchanged
    split
    · rename_i receipt action foundReceipt found
      obtain ⟨bound, boundFound, type⟩ := sound.numericalReceipts actionId receipt foundReceipt
      have isBound : action = bound := Option.some.inj (found.symm.trans boundFound)
      subst isBound
      refine .ite (fun _ => ?_) fun _ => .pure unchanged
      exact Legal.settleExecuting (Table.find?_of_mem (Table.mem_of_find? boundFound))
        List.not_mem_nil (not_cancellation_of_type type (by decide)) (by decide)
        (.quiet (by decide) (by decide)) rfl holds
    · exact .pure unchanged

theorem Legal.settleOOMSubmission {post : Unit → Debt → Db → Prop}
    {operation : RuntimeOperation} {state : OperationState}
    (holds : ∀ actions events outbox, post () [] (db.setActed actions events outbox)) :
    Legal L (settleOOMSubmission operation state actor destinations) [] db post := by
  have unchanged : post () [] db := holds db.actions db.events db.outbox
  unfold Storage.settleOOMSubmission
  refine .assume fun sound => ?_
  split
  · exact .pure unchanged
  · rename_i actionId _
    refine .ite (fun _ => .read ?_) fun _ => .pure unchanged
    split
    · exact .pure unchanged
    · rename_i binding foundBinding
      refine Legal.get (.expect fun (action : Action)
        (found : db.actions.find? actionId = some action) => ?_)
      obtain ⟨bound, boundFound, type⟩ := sound.oomBindings actionId binding foundBinding
      have isBound : action = bound := Option.some.inj (found.symm.trans boundFound)
      subst isBound
      have governed := not_cancellation_of_type type (by decide)
      have stored := Table.find?_of_mem (Table.mem_of_find? found)
      refine .ite (fun _ => .ite (fun _ => ?_) fun _ => ?_) fun _ => .pure unchanged
      · exact Legal.settleExecuting stored List.not_mem_nil governed (by decide)
          (.quiet (by decide) (by decide)) rfl holds
      · exact Legal.settleExecuting stored List.not_mem_nil governed (by decide)
          (.quiet (by decide) (by decide)) rfl holds

/-- The operation is a training submission, of a run that ended before its quota was committed. -/
def ConfirmsLate (db : Db) (operationId : String) : Prop :=
  ∃ operation attempt run, db.operations.find? operationId = some operation ∧
    operation.type = .submit ∧ operation.target.kind = .trainingAttempt ∧
    db.attempts.find? operation.target.id = some attempt ∧
    db.runs.find? attempt.runId = some run ∧ run.isTerminal = true ∧
    (db.limitOn run.experimentId .runs).isSome ∧ db.entryOf .run attempt.runId .runs .commit = none

theorem Legal.experimentOfAttempt {post : String → Debt → Db → Prop} {d : Debt}
    {target : RuntimeOperationTarget}
    (training : ∀ attempt run, target.kind = .trainingAttempt →
      db.attempts.find? target.id = some attempt → db.runs.find? attempt.runId = some run →
        post run.experimentId d db)
    (evaluation : ∀ attempt run, target.kind = .evaluationAttempt →
      db.evaluationAttempts.find? target.id = some attempt →
        db.evaluationRuns.find? attempt.evaluationRunId = some run → post run.experimentId d db) :
    Legal L (experimentOfAttempt target) d db post := by
  unfold Storage.experimentOfAttempt
  split
  · rename_i kind
    refine Legal.get (.expect fun (attempt : RunAttempt) found => ?_)
    exact Legal.experimentOfRun fun run runFound => training attempt run kind found runFound
  · rename_i kind
    refine Legal.get (.expect fun (attempt : EvaluationAttempt) found => ?_)
    exact Legal.experimentOfEvaluationRun fun run runFound =>
      evaluation attempt run kind found runFound

theorem settleOperation_closed (operationId : String) (state : OperationState)
    (expectedRevision : Nat) (runtimeRef : Option Document)
    (inTime : state = .confirmed → ConfirmsLate db operationId → L.late) :
    Closed L (settleOperation operationId state expectedRevision actor runtimeRef destinations)
      db := by
  unfold Closed settleOperation
  refine Legal.loadAt fun (old : RuntimeOperation)
    (found : db.operations.find? operationId = some old) => ?_
  refine .require fun _ => .expect fun moved copied => ?_
  obtain ⟨moves, isState⟩ := operation_withState_moves copied
  have stored : db.operations.find? old.id = some old :=
    Table.find?_of_mem (Table.mem_of_find? found)
  obtain ⟨sameId, sameTarget, sameType⟩ : moved.id = old.id ∧ moved.target = old.target ∧
      moved.type = old.type := by
    obtain ⟨_, _, _, rfl⟩ := moves
    exact ⟨rfl, rfl, rfl⟩
  have movedStored : (db.operations.replace moved).find? moved.id = some moved :=
    Table.find?_replace_self (sameId ▸ stored)
  -- after the budget the operation is journalled and its action settled
  have rest : ∀ experimentId ledger, Legal L (do
      emit moved (operationEvent state) experimentId actor destinations
      settleNumericalSubmission moved state actor destinations
      settleOOMSubmission moved state actor destinations
      pure moved) [.event ⟨.runtimeOperation, moved.id⟩]
      ((db.setOperations (db.operations.replace moved)).setLedger ledger) fun _ d _ => d = [] := by
    intro experimentId ledger
    refine .bind (Legal.emit [] movedStored (typed_of_kind (by decide)) rfl paid_head sub_head ?_)
    refine .bind (Legal.settleNumericalSubmission fun _ _ _ => ?_)
    exact .bind (Legal.settleOOMSubmission fun _ _ _ => .pure rfl)
  have uncommitted : ∀ experimentId,
      ¬ (state = .confirmed ∧ moved.type = .submit ∧ moved.target.kind = .trainingAttempt) →
      Legal L (do
        pure ()
        emit moved (operationEvent state) experimentId actor destinations
        settleNumericalSubmission moved state actor destinations
        settleOOMSubmission moved state actor destinations
        pure moved) (.event ⟨.runtimeOperation, moved.id⟩ :: (operationDebt moved ++ []))
        (db.setOperations (db.operations.replace moved)) fun _ d _ => d = [] := by
    intro experimentId other
    have nothing : operationDebt moved = [] := by
      rw [operationDebt, if_neg]
      intro confirmed
      refine other ?_
      simpa [submitConfirmed, isState, and_assoc] using confirmed
    rw [nothing]
    exact .next (rest experimentId db.ledger)
  refine .bind (Legal.experimentOfAttempt ?_ ?_)
  · intro attempt run kind attemptFound runFound
    refine .bind (Legal.moveOperation stored moves List.not_mem_nil ?_)
    refine .ite (fun confirms => ?_) (uncommitted run.experimentId)
    refine .bind (Legal.thenPay (Legal.commitBudget attemptFound runFound rfl ?_ ?_ ?_))
    · constructor <;> simp [operationDebt]
    · by_cases late : ConfirmsLate db operationId
      · exact .inl (inTime confirms.1 late)
      · by_cases ended : run.isTerminal = true
        · by_cases limited : (db.limitOn run.experimentId .runs).isSome
          · refine .inr (.inr (.inl ?_))
            by_contra absent
            refine late ⟨old, attempt, run, found, sameType ▸ confirms.2.1, sameTarget ▸ kind,
              sameTarget ▸ attemptFound, runFound, ended, limited,
              Option.not_isSome_iff_eq_none.mp absent⟩
          · exact .inr (.inr (.inr (Option.not_isSome_iff_eq_none.mp limited)))
        · exact .inr (.inl (by simpa using ended))
    · intro ledger _ slotCommitted runCommitted
      refine ⟨[.event ⟨.runtimeOperation, moved.id⟩], ?_, ?_, rest run.experimentId ledger⟩
      · intro owed due
        rw [List.append_nil] at due
        rcases List.mem_cons.mp due with rfl | due
        · exact .inl (List.mem_singleton.mpr rfl)
        · refine .inr ?_
          unfold operationDebt at due
          split at due
          · rw [List.mem_singleton.mp due]
            intro operation opFound
            have isMoved : moved = operation := Option.some.inj (movedStored.symm.trans opFound)
            subst isMoved
            refine ⟨slotCommitted, ?_⟩
            intro other otherFound
            have isAttempt : attempt = other := Option.some.inj (attemptFound.symm.trans otherFound)
            subst isAttempt
            exact runCommitted
          · cases due
      · intro owed due
        exact List.mem_singleton.mp due ▸ List.mem_cons_self
  · intro attempt run kind _ _
    refine .bind (Legal.moveOperation stored moves List.not_mem_nil ?_)
    refine .ite (fun confirms => ?_) (uncommitted run.experimentId)
    rw [kind] at confirms
    exact absurd confirms.2.2 (by decide)

end Operations

end Xaytune.Storage
