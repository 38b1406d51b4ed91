import Xaytune.Storage.Admission
import Xaytune.Storage.Legality.Execution

/-!
# Admission and the daemon's records as writes
-/

namespace Xaytune.Storage

open Xaytune.Core Xaytune.Library

/-! ## The daemon's own records -/

section Daemon

variable {L : Licence} {d : Debt} {db : Db} {post : Unit → Debt → Db → Prop}

/-- A request's copy is written over what it was taken from, which nobody has moved since. -/
theorem Legal.updateRequest {old new : ControllerRequest} {state : ControllerRequestState}
    {error : Option Document}
    (earlier : ∃ stored, db.requests.find? old.id = some stored ∧ RequestLater old stored)
    (moved : old.withState state error = some new)
    (accepted : state = .accepted → L.accepts old.id)
    (holds : ∀ other, post () d (db.withAux other)) :
    Legal L (updateRequest new) d db post := by
  unfold Storage.updateRequest
  refine .read (.expect fun stored found => .require fun next => .require fun _ => ?_)
  obtain ⟨rfl, _⟩ := request_withState_eq moved
  obtain ⟨current, currentFound, later⟩ := earlier
  have isCurrent : current = stored := Option.some.inj (currentFound.symm.trans found)
  subst isCurrent
  obtain ⟨_, _, revision, rfl, _, same, _⟩ := later
  have next' : revision + 1 = old.revision + 1 := of_decide_eq_true next
  have unmoved := same (Nat.succ.inj next')
  rw [unmoved] at found
  exact .read (.require fun _ => Legal.aux (.moveRequest old _ state error found moved accepted)
    holds)

theorem recordControllerRequest_closed (request : ControllerRequest) :
    Closed L (recordControllerRequest request) db := by
  unfold Closed recordControllerRequest
  refine .require fun fresh => .read ?_
  simp only [Bool.and_eq_true, decide_eq_true_eq] at fresh
  split
  · exact .require fun _ => .pure rfl
  · refine .require fun _ => .bind (Legal.insertAux ?_ fun _ => .pure rfl)
    exact fun table inserted => .request request table inserted fresh.1

theorem moveRequest_closed (requestId : String) (expectedRevision : Nat)
    (newState : ControllerRequestState) (error : Option Document) (other : newState ≠ .accepted) :
    Closed L (moveRequest requestId expectedRevision newState error) db := by
  unfold Closed moveRequest
  refine .read (.expect fun request found => .require fun _ => .expect fun moved copied => ?_)
  have stored : db.requests.find? request.id = some request :=
    Table.find?_of_mem (Table.mem_of_find? found)
  refine .bind (Legal.updateRequest ⟨request, stored, .refl request⟩ copied ?_ fun _ => .pure rfl)
  exact fun accepted => absurd accepted other

theorem recordControllerRest_closed (experimentId controllerId : String)
    (escalation : Option Document) :
    Closed L (recordControllerRest experimentId controllerId escalation) db := by
  unfold Closed recordControllerRest
  refine .read (.read (.ite (fun _ => .pure rfl) fun _ => ?_))
  exact .bind (Legal.requireReference fun _ => .bind (Legal.aux (.rest _) fun _ => .pure rfl))

theorem Legal.insertInvocation {invocation : AgentInvocation}
    (intended : invocation.status = .intended)
    (request : db.latestForRound invocation.intent.roundKey = none ∨
      ∃ other ∈ db.invocations, other.intent.roundKey = invocation.intent.roundKey ∧
        other.intent.requestFingerprint = invocation.intent.requestFingerprint)
    (holds : ∀ other, post () d (db.withAux other)) :
    Legal L (insertInvocation invocation) d db post := by
  unfold Storage.insertInvocation
  refine .bind (Legal.requireReference fun _ => .read (.require fun numbered => ?_))
  refine .read (.require fun closed => Legal.insertAux (fun table inserted => ?_) holds)
  refine .invocation invocation table inserted ⟨intended, of_decide_eq_true numbered, ?_, request⟩
  intro other member sameRound
  simp only [Bool.not_eq_true', List.any_eq_false, Bool.and_eq_true, decide_eq_true_eq,
    not_and, not_not, ne_eq] at closed
  by_cases failed : other.status = .failed
  · exact .inl failed
  · exact .inr (closed other member ⟨sameRound, failed⟩)

theorem Legal.updateInvocation {invocation : AgentInvocation}
    (holds : ∀ old new, db.invocations.find? invocation.id = some old → InvocationMoves old new →
      post () d (db.withAux { db with invocations := db.invocations.replace new })) :
    Legal L (updateInvocation invocation) d db post := by
  unfold Storage.updateInvocation
  refine .read (.expect fun old found => .require fun next => .require fun _ => ?_)
  refine .require fun permitted => .require fun _ => ?_
  have moved : InvocationMoves old { old with
      status := invocation.status, response := invocation.response, failure := invocation.failure,
      proposal := invocation.proposal, revision := invocation.revision } := by
    refine ⟨invocation.status, invocation.response, invocation.failure, invocation.proposal,
      permitted, ?_⟩
    rw [of_decide_eq_true next]
  have stored : db.invocations.find? old.id = some old :=
    Table.find?_of_mem (Table.mem_of_find? found)
  have write : Write L d db d { db with invocations := db.invocations.replace { old with
      status := invocation.status, response := invocation.response, failure := invocation.failure,
      proposal := invocation.proposal, revision := invocation.revision } } :=
    .aux _ (.moveInvocation old _ stored moved)
  exact .write write write.sound (holds old _ found moved)

/-- The row a planning round goes on from, of the round it is the latest of. -/
theorem mem_of_latestForRound {round : String × String × String} {latest : AgentInvocation}
    (found : db.latestForRound round = some latest) :
    latest ∈ db.invocations ∧ latest.intent.roundKey = round := by
  have member := List.mem_of_getLast? found
  rw [mem_sortedBy, List.mem_filter, decide_eq_true_eq] at member
  exact member

theorem beginAgentInvocation_closed (intent : AgentInvocationIntent) (freshId : String) :
    Closed L (beginAgentInvocation intent freshId) db := by
  unfold Closed beginAgentInvocation
  refine .read ?_
  split
  · rename_i first
    exact .bind (Legal.insertInvocation rfl (.inl first) fun _ => .pure rfl)
  · rename_i latest found
    obtain ⟨member, ofRound⟩ := mem_of_latestForRound found
    refine .require fun same => .ite (fun _ => .pure rfl) fun _ => .ite (fun _ => ?_) fun _ => ?_
    · refine .bind (Legal.updateInvocation fun old new stored moved => ?_)
      refine .bind (Legal.insertInvocation rfl (.inr ?_) fun _ => .pure rfl)
      have isOld : latest = old :=
        Option.some.inj ((Table.find?_of_mem member).symm.trans stored)
      subst isOld
      obtain ⟨_, _, _, _, _, rfl⟩ := moved
      refine ⟨_, Table.mem_replace.mpr (.inr ⟨rfl, latest, member, rfl⟩), ofRound, ?_⟩
      exact of_decide_eq_true same
    · refine .bind (Legal.insertInvocation rfl (.inr ?_) fun _ => .pure rfl)
      exact ⟨latest, member, ofRound, of_decide_eq_true same⟩

theorem settleAgentInvocation_closed (invocation : AgentInvocation) :
    Closed L (settleAgentInvocation invocation) db := by
  unfold Closed settleAgentInvocation
  exact .bind (Legal.updateInvocation fun _ _ _ _ => .pure rfl)

end Daemon

/-! ## Exhaustion -/

section Exhaustion

variable {L : Licence} {db : Db} {actor : Actor} {destinations : List String}

theorem Legal.exhaust {post : Experiment → Debt → Db → Prop} {experiment : Experiment}
    {reasons : List String} (found : db.experiments.find? experiment.id = some experiment)
    (holds : ∀ moved db', post moved [] db') :
    Legal L (exhaust experiment reasons actor destinations) [] db post := by
  unfold Storage.exhaust
  refine .expect fun moved copied => ?_
  obtain ⟨moves, _⟩ := experiment_withStatus_moves copied
  have stored : (db.experiments.replace moved).find? moved.id = some moved :=
    Table.find?_replace_self (moves.id ▸ found)
  refine .bind (Legal.moveExperiment found moves List.not_mem_nil ?_)
  refine .bind (Legal.emit [] stored (typed_of_kind (by decide)) rfl paid_head sub_head ?_)
  exact .bind (Legal.note stored (typed_of_kind (by decide)) rfl (.pure (holds moved _)))

theorem exhaustBudget_closed (experimentId : String) (reasons : List String) :
    Closed L (exhaustBudget experimentId reasons actor destinations) db := by
  unfold Closed exhaustBudget
  refine Legal.load fun (experiment : Experiment) found => ?_
  refine .ite (fun _ => .pure rfl) fun _ => .read (.ite (fun _ => .pure rfl) fun _ => ?_)
  exact .bind (Legal.exhaust (Table.find?_of_mem (Table.mem_of_find? found)) fun _ _ => .pure rfl)

end Exhaustion

/-! ## Admission -/

section Admission

variable {L : Licence} {db : Db} {actor : Actor} {destinations : List String}

theorem Legal.admitRecord {post : Experiment → Debt → Db → Prop} {experiment : Experiment}
    (pristine : experiment.revision = 0) (created : experiment.status = .created)
    (holds : ∀ active db', active.id = experiment.id → active.isTerminal = false →
      db'.experiments.find? experiment.id = some active → post active [] db') :
    Legal L (admitRecord experiment actor destinations) [] db post := by
  unfold Storage.admitRecord Storage.insertExperiment
  refine .bind (Legal.insertRow fun table inserted => ?_)
  have stored : table.find? experiment.id = some experiment := Table.find?_insert?_self inserted
  refine ⟨_, .insertExperiment experiment table inserted ⟨pristine, created⟩, ?_⟩
  refine .bind (Legal.emit [] stored (typed_of_kind (by decide)) rfl paid_head sub_head ?_)
  refine Legal.transitionExperiment fun old moved events outbox found copied => ?_
  have isOld : experiment = old := Option.some.inj (stored.symm.trans found)
  subst isOld
  obtain ⟨moves, isActive⟩ := experiment_withStatus_moves copied
  refine holds moved _ moves.id (by rw [Experiment.isTerminal, isActive]; rfl) ?_
  exact moves.id ▸ Table.find?_replace_self (moves.id ▸ stored)

theorem Legal.admitRoot {post : ExperimentNode → Debt → Db → Prop} {node : ExperimentNode}
    (pristine : node.revision = 0) (created : node.status = .created)
    (undecided : L.skips ∨ node.decisionIds = []) (planted : L.plants node)
    (open_ : ∀ experiment, db.experiments.find? node.experimentId = some experiment →
      experiment.isTerminal = false)
    (holds : ∀ active db', db'.experiments = db.experiments → post active [] db') :
    Legal L (admitRoot node actor destinations) [] db post := by
  unfold Storage.admitRoot
  refine .bind (Legal.validateParents fun lineage => ?_)
  refine .bind (Legal.insertNode pristine created undecided planted lineage
    (fun _ found => .inr (open_ _ found)) ?_)
  intro table inserted
  refine .bind (Legal.emit [] (Table.find?_insert?_self inserted) (typed_of_kind (by decide)) rfl
    paid_head sub_head ?_)
  refine .bind (Legal.transitionNode (by rintro ⟨⟩) fun _ _ _ _ _ _ => ?_)
  refine .bind (Legal.transitionNode (by rintro ⟨⟩) fun _ _ _ _ _ _ => ?_)
  exact Legal.transitionNode (by rintro ⟨⟩) fun _ _ _ _ _ _ => holds _ _ rfl

/-- A run under an open experiment, with its first attempt. -/
theorem Legal.startRun {post : Run × RuntimeOperation → Debt → Db → Prop} {run : Run}
    {attempt : RunAttempt} {operation : RuntimeOperation} (pristine : run.revision = 0)
    (created : run.status = .created) (attemptPristine : attempt.revision = 0)
    (attemptCreated : attempt.status = .created) (intended : operation.state = .intended)
    (operationPristine : operation.revision = 0)
    (target : operation.target = ⟨.trainingAttempt, attempt.id⟩)
    (uncaused : operation.causedByActionId = none) (first : attempt.runId = run.id)
    (open_ : ∀ experiment, db.experiments.find? run.experimentId = some experiment →
      experiment.isTerminal = false)
    (holds : ∀ started db', post started [] db') :
    Legal L (startRun run attempt operation actor destinations) [] db post := by
  unfold Storage.startRun
  refine .bind (Legal.insertRunWithReservation pristine created
    (fun _ found => .inr (open_ _ found)) ?_)
  intro table ledger events outbox inserted
  refine .bind (Legal.applyTransitionRun (typed_of_type (by decide)) ?_)
  intro old moved ledger events outbox found copied
  refine .bind (Legal.insertTrainingAttemptWithIntent attemptPristine attemptCreated intended
    operationPristine target uncaused ?_ ?_)
  · intro current currentFound
    obtain ⟨moves, isActive⟩ := run_withStatus_moves copied
    have oldId : old.id = run.id := Table.key_of_find? found
    have sameId : moved.id = run.id := by
      obtain ⟨_, _, rfl⟩ := moves
      exact oldId
    have stored : (table.replace moved).find? run.id = some moved :=
      sameId ▸ Table.find?_replace_self (sameId.symm ▸ found)
    rw [first] at currentFound
    have isMoved : moved = current := Option.some.inj (stored.symm.trans currentFound)
    subst isMoved
    exact .inr (by rw [Run.isTerminal, isActive]; rfl)
  · intro stored _ _ _ _ _
    exact .pure (holds _ _)

/-- What makes rows one fresh submission. -/
theorem submission_of_no_problems {experiment : Experiment} {node : ExperimentNode} {run : Run}
    {attempt : RunAttempt}
    (fresh : (submissionProblems experiment node run attempt).isEmpty = true) :
    node.experimentId = experiment.id ∧ run.experimentId = experiment.id ∧
      attempt.runId = run.id := by
  unfold submissionProblems at fresh
  simp only [List.isEmpty_iff, List.append_eq_nil_iff] at fresh
  obtain ⟨⟨⟨⟨⟨node_, _⟩, _⟩, run_⟩, _⟩, attempt_⟩ := fresh
  refine ⟨?_, ?_, ?_⟩
  · by_contra other
    simp [other] at node_
  · by_contra other
    simp [other] at run_
  · by_contra other
    simp [other] at attempt_

/-- The request a submission answers is stored under the id the submission names. -/
theorem Legal.admissibleRequest {post : Option (Option ControllerRequest) → Debt → Db → Prop}
    {d : Debt} {experiment : Experiment} {submission : Option SubmissionRequest}
    (holds : ∀ answer, (∀ request, answer = some (some request) →
      db.requests.find? request.id = some request ∧
        ∃ named, submission = some named ∧ named.id = request.id) → post answer d db) :
    Legal L (admissibleRequest experiment submission) d db post := by
  cases submission with
  | none => exact .pure (holds _ (by rintro _ ⟨⟩))
  | some submission =>
      unfold Storage.admissibleRequest
      refine .read (.expect fun request found => .require fun _ => .require fun _ => ?_)
      refine .ite (fun _ => .pure (holds _ (by rintro _ ⟨⟩))) fun _ => .pure (holds _ ?_)
      rintro _ ⟨rfl⟩
      exact ⟨Table.find?_of_mem (Table.mem_of_find? found), submission, rfl,
        (Table.key_of_find? found).symm⟩

/-- A submission's request is accepted in the commit that admits it. -/
def acceptSubmission (request : Option ControllerRequest) (admission : ExperimentAdmission) :
    Repo (Option ExperimentAdmission) := do
  match request with
  | none => pure ()
  | some request => do
      let accepted ← Transaction.expect (request.withState .accepted none)
        (.invalidTransition "ControllerRequest" "" "accepted")
      updateRequest accepted
  pure (some admission)

theorem admitExperiment_closed (checks : Checks) (experiment : Experiment) (node : ExperimentNode)
    (run : Run) (attempt : RunAttempt) (operationId requestDigest : String)
    (submission : Option SubmissionRequest)
    (accepts : ∀ named, submission = some named → L.accepts named.id)
    (undecided : L.skips ∨ node.decisionIds = [])
    (planted : node.candidateFingerprint = checks.candidateFingerprint node.candidate →
      node.experimentId = experiment.id → db.experiments.find? experiment.id = none →
        L.plants node) :
    Closed L (admitExperiment checks experiment node run attempt operationId requestDigest
      submission actor destinations) db := by
  unfold Closed admitExperiment requireConsistentCandidate
  refine .bind (Legal.requirePristine fun created pristine => ?_)
  refine .bind (Legal.requirePristine fun nodeCreated nodePristine => ?_)
  refine .bind (Legal.requirePristine fun runCreated runPristine => ?_)
  refine .bind (Legal.requirePristine fun attemptCreated attemptPristine => ?_)
  refine .require fun consistent => .require fun fresh => ?_
  obtain ⟨nodeOwner, runOwner, first⟩ := submission_of_no_problems fresh
  refine .bind (Legal.admissibleRequest fun request named => ?_)
  cases request with
  | none => exact .pure rfl
  | some request =>
      -- what follows the admission is the daemon's own record, which nobody has moved
      have rest : ∀ (admission : ExperimentAdmission) (db' : Db), Grows db db' →
          Legal L (acceptSubmission request admission) [] db' fun _ d _ => d = [] := by
        intro admission db' grows
        cases request with
        | none => exact .pure rfl
        | some request =>
            obtain ⟨stored, submitted, isNamed, sameId⟩ := named request rfl
            refine .expect fun _ copied => .bind (Legal.updateRequest
              (grows.requests _ request stored) copied (fun _ => ?_) fun _ => .pure rfl)
            exact sameId ▸ accepts submitted isNamed
      refine Legal.get (.require fun unrecorded => ?_)
      have plants : L.plants node :=
        planted (of_decide_eq_true consistent) nodeOwner (Option.isNone_iff_eq_none.mp unrecorded)
      refine .bind (Legal.grows (Legal.admitRecord pristine created
        fun active db₁ sameId open_ stored grows₁ => ?_))
      refine .bind (Legal.grows (Legal.admitRoot nodePristine nodeCreated undecided plants ?_
        fun activeNode db₂ sameExperiments grows₂ => ?_))
      · intro owner found
        rw [nodeOwner, stored, Option.some.injEq] at found
        exact found ▸ open_
      · rw [← sameExperiments] at stored
        have grown := grows₁.trans grows₂
        refine .read (.ite (fun _ => ?_) fun _ => ?_)
        · refine .bind (Legal.grows (Legal.startRun runPristine runCreated attemptPristine
            attemptCreated rfl rfl rfl rfl first ?_
            fun started db₃ grows₃ => rest _ db₃ (grown.trans grows₃)))
          intro owner found
          rw [runOwner, stored, Option.some.injEq] at found
          exact found ▸ open_
        · exact .bind (Legal.grows (Legal.exhaust (sameId ▸ stored)
            fun _ db₃ grows₃ => rest _ db₃ (grown.trans grows₃)))

end Admission

end Xaytune.Storage
