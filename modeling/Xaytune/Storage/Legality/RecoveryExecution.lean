import Xaytune.Storage.RecoveryExecution
import Xaytune.Storage.Legality.Interventions

/-!
# Recovery execution as writes

An executed decision continues a run that is active, so its successor is an attempt
of a run that has not ended; a refused one moves no cancellation.
-/

namespace Xaytune.Storage

open Xaytune.Core Xaytune.Library

/-! ## OOM decisions -/

section Decisions

variable {L : Licence} {d : Debt} {db : Db} {post : Unit → Debt → Db → Prop}

theorem Legal.insertOOMBinding {binding : RecoveryActionBinding} {action : Action}
    (bound : db.actions.find? binding.actionId = some action)
    (holds : ∀ db', db'.actions = db.actions → post () d db') :
    Legal L (insertOOMBinding binding) d db post := by
  unfold Storage.insertOOMBinding
  refine .read (.require fun authorized => .read (.require fun _ => ?_))
  obtain ⟨_, _, _, type⟩ := episode_of_authority bound authorized
  exact Legal.insertInto fun table inserted =>
    ⟨.oomBinding binding table action inserted bound type, holds _ rfl⟩

theorem Legal.requireCurrentOOMAction {checks : Checks} {proposal : OOMResizeProposal}
    {inputsPlan : RecoveryPlan} {inputs : Document} (holds : post () d db) :
    Legal L (requireCurrentOOMAction checks proposal inputsPlan inputs) d db post := by
  unfold Storage.requireCurrentOOMAction
  refine .require fun _ => .read (.require fun _ => .read (.require fun _ => ?_))
  exact Legal.load fun _ _ => Legal.load fun _ _ => .check fun _ => holds

theorem proposeOOMRecoveryAction_closed (checks : Checks) (inputsPlan : RecoveryPlan)
    (inputs : Document) (proposal : OOMResizeProposal) (request : ActionRequest)
    (judgement : Judgement) (decisionId : String) (destinations : List String) :
    Closed L (proposeOOMRecoveryAction checks inputsPlan inputs proposal request judgement
      decisionId destinations) db := by
  unfold proposeOOMRecoveryAction
  refine proposeAction_closed _ _ _ _ _ ?_
  rintro _ ⟨rfl⟩
  constructor
  · intro db post holds
    refine .read ?_
    split
    · exact .pure (holds none)
    · exact .require fun _ => .bind (Legal.governedAction fun _ => .pure (holds _))
  · intro db post holds
    exact Legal.requireCurrentOOMAction holds
  · intro d db action post bound _ _ holds
    exact Legal.insertOOMBinding bound holds

end Decisions

/-! ## Execution -/

/-- The decision found for an action is stored and is about it. -/
theorem mem_of_decisionForAction {db : Db} {actionId : String} {decision : PolicyDecision}
    (found : db.decisionForAction actionId = some decision) :
    decision ∈ db.policyDecisions.rows ∧ decision.actionId = actionId := by
  refine ⟨List.mem_of_find?_eq_some found, ?_⟩
  have holds := List.find?_some found
  exact of_decide_eq_true holds

section Execution

variable {L : Licence} {db : Db} {actor : Actor} {destinations : List String}

theorem Legal.restoredApplications {d : Debt} {post : Option (List String) → Debt → Db → Prop}
    {run : Run} {restore : Option CheckpointRef} (holds : ∀ embodied, post embodied d db) :
    Legal L (restoredApplications run restore) d db post := by
  cases restore with
  | none => exact .pure (holds _)
  | some restore => exact .read (.expect fun _ _ => .require fun _ => .pure (holds _))

theorem Legal.planSuccessorInterventions {d : Debt} {post : ReplayPlan → Debt → Db → Prop}
    {runId : String} {restore : Option CheckpointRef} {initial : Option TrainingIntervention}
    (holds : ∀ plan, post plan d db) :
    Legal L (planSuccessorInterventions runId restore initial) d db post := by
  unfold Storage.planSuccessorInterventions
  refine Legal.load fun run _ => .bind (Legal.restoredApplications fun embodied => ?_)
  refine Legal.load fun _ _ => .read (.read (.require fun _ => ?_))
  split
  · exact .refuse
  · exact .pure (holds _)

theorem Legal.requireAndInsertDirectives {d : Debt} {post : Unit → Debt → Db → Prop}
    {successor : RunAttempt} {directives : List InterventionDirective}
    {initial : Option TrainingIntervention} (holds : ∀ other, post () d (db.withAux other)) :
    Legal L (requireAndInsertDirectives successor directives initial) d db post := by
  unfold Storage.requireAndInsertDirectives
  refine .bind (Legal.planSuccessorInterventions fun _ => .require fun _ => ?_)
  refine .forEach (fun _ d' db' => d' = d ∧ ∃ other, db' = db.withAux other) ⟨rfl, db, rfl⟩ ?_ ?_
  · rintro directive _ _ _ ⟨rfl, _, rfl⟩
    unfold insertDirective
    refine .read (.require fun _ => Legal.insertAux (.directive _) fun other => ?_)
    exact ⟨rfl, other, rfl⟩
  · rintro _ _ ⟨rfl, other, rfl⟩
    exact holds other

theorem Legal.requireApplicable {d : Debt} {post : Unit → Debt → Db → Prop} {checks : Checks}
    {action : Action} {decision : PolicyDecision} {episode : RecoveryEpisode}
    {capabilities : Document} (holds : post () d db) :
    Legal L (requireApplicable checks action decision episode capabilities) d db post := by
  unfold Storage.requireApplicable
  exact Legal.load fun _ _ => .read (.check fun _ => holds)

/-- The source of an executable episode is an attempt of the episode's run. -/
def SourceOf (db : Db) (episode : RecoveryEpisode) (source : RunAttempt) : Prop :=
  db.attempts.find? source.id = some source ∧ source.runId = episode.context.runId ∧
    ∃ run, db.runs.find? episode.context.runId = some run ∧
      run.experimentId = episode.context.experimentId

theorem Legal.requireExecutable {d : Debt} {post : RunAttempt → Debt → Db → Prop} {checks : Checks}
    {episode : RecoveryEpisode} {checkpoint : RecoveryCheckpointReport}
    (holds : ∀ source, SourceOf db episode source → post source d db) :
    Legal L (requireExecutable checks episode checkpoint) d db post := by
  unfold Storage.requireExecutable
  refine .require fun training => ?_
  have isTraining : episode.context.target.kind = .trainingAttempt := by simpa using training
  have rest : ∀ attempt run, db.attempts.find? episode.context.target.id = some attempt →
      db.runs.find? attempt.runId = some run →
      (⟨episode.context.target, run.id, run.nodeId, run.experimentId⟩ : AttemptContext) =
        episode.context →
      Legal L (do
        let late ← Transaction.read fun db => db.successorExists episode
        let source ← loadRow RunAttempt episode.context.target.id
        Transaction.require (!late && (source.status = .failed || source.status = .preempted))
          (.staleRecoveryContext "the source attempt changed before execution")
        let within ← Transaction.read fun db => checks.recoveryLimits db episode
        Transaction.require within
          (.staleRecoveryContext "recovery limits no longer admit a successor")
        let record ← Transaction.read fun db => db.checkpoints.find? checkpoint.checkpointRef.id
        let record ← Transaction.expect record
          (.staleRecoveryContext "validated checkpoint report changed")
        let producer ← loadRow RunAttempt record.context.target.id
        Transaction.require (checkpoint.checkpointRef = record.checkpointRef &&
            checkpoint.producerAttemptNumber = producer.attemptNumber &&
            checks.checkpointReport record checkpoint episode)
          (.staleRecoveryContext "validated checkpoint report changed")
        pure source) d db post := by
    intro attempt run attemptFound runFound same
    have runId : run.id = episode.context.runId := congrArg AttemptContext.runId same
    have owner : run.experimentId = episode.context.experimentId :=
      congrArg AttemptContext.experimentId same
    have runKey : run.id = attempt.runId := Table.key_of_find? runFound
    refine .read (Legal.load fun (source : RunAttempt)
      (found : db.attempts.find? episode.context.target.id = some source) => ?_)
    have isSource : attempt = source := Option.some.inj (attemptFound.symm.trans found)
    subst isSource
    refine .require fun _ => .read (.require fun _ => .read (.expect fun _ _ => ?_))
    refine Legal.load fun _ _ => .require fun _ => .pure (holds attempt ⟨?_, ?_, run, ?_, owner⟩)
    · exact Table.find?_of_mem (Table.mem_of_find? found)
    · rw [← runKey, runId]
    · rw [← runId, runKey]
      exact runFound
  unfold Storage.requireAuthoritativeEpisode Storage.incidentContext
  refine .bind ?_
  simp only [isTraining]
  refine .bind (Legal.load fun (attempt : RunAttempt) attemptFound => ?_)
  refine Legal.load fun (run : Run) runFound => .pure (.require fun same => ?_)
  simp only [isTraining]
  refine Legal.load fun _ _ => Legal.load fun _ _ => .check fun _ => ?_
  exact rest attempt run attemptFound runFound (of_decide_eq_true same)

/-- A successor attempt of an active run, with its intent, and the action that caused it. -/
theorem Legal.writeSuccessor {post : RuntimeOperation → Debt → Db → Prop} {action : Action}
    {source successor : RunAttempt} {operation : RuntimeOperation} {run : Run}
    {directives : List InterventionDirective} {initial : Option TrainingIntervention}
    {experimentId : String} (pristine : successor.revision = 0)
    (created : successor.status = .created) (intended : operation.state = .intended)
    (operationPristine : operation.revision = 0)
    (target : operation.target = ⟨.trainingAttempt, successor.id⟩)
    (caused : operation.causedByActionId = some action.id)
    (found : db.actions.find? action.id = some action) (governed : action.isCancellation = false)
    (authorized : ∃ decision ∈ db.policyDecisions.rows, decision.actionId = action.id ∧
      ((action.status = .validated ∧ decision.verdict = .allow) ∨
        (action.status = .approved ∧ decision.verdict = .requireApproval)))
    (runFound : db.runs.find? successor.runId = some run) (owner : run.experimentId = experimentId)
    (active : run.status = .active)
    (sourceFound : db.attempts.find? source.id = some source)
    (holds : ∀ stored db', db'.attempts.find? source.id = some source →
      db'.numericalBindings = db.numericalBindings → post stored [] db') :
    Legal L (writeSuccessor action successor operation directives initial experimentId actor
      destinations) [] db post := by
  unfold Storage.writeSuccessor
  refine .bind (Legal.requireBudget fun _ _ _ => ?_)
  refine .bind (Legal.requireCapacity fun experiment experimentFound free => ?_)
  have open_ : run.isTerminal = false := by
    rw [Run.isTerminal, active]
    rfl
  refine .bind (Legal.insertAttempt ⟨pristine, created, run, experiment, runFound,
    owner ▸ experimentFound, .inr open_, free⟩ fun table inserted => ?_)
  refine .bind (Legal.grows (Legal.requireAndInsertDirectives fun directives' grows => ?_))
  refine .bind (Legal.recordAttemptIntent intended operationPristine target
    (Table.find?_insert?_self inserted) runFound owner ?_ ?_)
  · intro actionId other isCaused otherFound
    rw [caused, Option.some.injEq] at isCaused
    subst isCaused
    have isAction : action = other := Option.some.inj (found.symm.trans otherFound)
    exact isAction ▸ governed
  · intro stored operations ledger events outbox
    refine .bind (Legal.settleAction found List.not_mem_nil ?_ (fun _ _ => ?_) .execute rfl ?_)
    · intro _ _ cancels
      rw [governed] at cancels
      cases cancels
    · obtain ⟨decision, member, ofAction, verdict⟩ := authorized
      obtain ⟨_, kept, rfl⟩ := grows.policyDecisions _ decision (Table.find?_of_mem member)
      exact ⟨decision, Table.mem_of_find? kept, ofAction, verdict⟩
    · intro _ _ _ _
      refine .pure (holds stored _ ?_ rfl)
      exact Table.find?_insert?_of_found inserted sourceFound

theorem Legal.replayExecution {d : Debt}
    {post : RunAttempt × RuntimeOperation × RecoveryExecutionReceipt → Debt → Db → Prop}
    {prior : RecoveryExecutionReceipt} {actionId : String} {successor : RunAttempt}
    {operation : RuntimeOperation} {checkpoint : RecoveryCheckpointReport}
    (holds : ∀ replayed, post replayed d db) :
    Legal L (replayExecution prior actionId successor operation checkpoint) d db post := by
  unfold Storage.replayExecution assertSameOperation
  refine .require fun _ => Legal.load fun _ _ => Legal.get (.expect fun _ _ => ?_)
  exact .require fun _ => .require fun _ => .pure (holds _)

theorem Legal.insertOOMReceipt {d : Debt} {post : Unit → Debt → Db → Prop}
    {receipt : RecoveryExecutionReceipt} (holds : ∀ other, post () d (db.withAux other)) :
    Legal L (insertOOMReceipt receipt) d db post := by
  unfold Storage.insertOOMReceipt
  exact .read (.require fun _ => Legal.insertAux (.oomReceipt receipt) holds)

theorem Legal.insertNumericalReceipt {d : Debt} {post : Unit → Debt → Db → Prop}
    {receipt : RecoveryExecutionReceipt}
    (holds : ∀ db', db'.attempts = db.attempts → db'.runs = db.runs → post () d db') :
    Legal L (insertNumericalReceipt receipt) d db post := by
  unfold Storage.insertNumericalReceipt
  refine .read (.require fun allowed => Legal.insertInto fun table inserted => ?_)
  cases bound : db.numericalBindings.find? receipt.actionId with
  | none =>
      rw [bound] at allowed
      unfold receiptAllowed at allowed
      split at allowed
      · simp at allowed
      · cases allowed
  | some binding =>
      exact ⟨.numericalReceipt receipt table binding inserted bound, holds _ rfl rfl⟩

theorem recordOOMRecoveryExecution_closed (checks : Checks) (actionId : String)
    (successor : RunAttempt) (checkpoint : RecoveryCheckpointReport)
    (directives : List InterventionDirective) (operationId requestDigest : String)
    (capabilities : Document) :
    Closed L (recordOOMRecoveryExecution checks actionId successor checkpoint directives operationId
      requestDigest actor capabilities destinations) db := by
  unfold Closed recordOOMRecoveryExecution
  refine .bind (Legal.requirePristine fun created pristine => ?_)
  refine .read (.expect fun binding _ => .read ?_)
  split
  · exact Legal.replayExecution fun _ => rfl
  · refine .read (.expect fun episode _ => .read (.expect fun plan _ => .read ?_))
    refine .require fun _ => Legal.load fun (action : Action)
      (found : db.actions.find? actionId = some action) => ?_
    refine .read (.expect fun decision judged => .require fun authorized => ?_)
    simp only [Bool.and_eq_true, Bool.or_eq_true, decide_eq_true_eq] at authorized
    have type : action.type = "resize-microbatch" := congrArg ActionSpec.type authorized.1.1.1
    have sameAction : action.id = actionId := Table.key_of_find? found
    have decided : ∃ decision ∈ db.policyDecisions.rows, decision.actionId = action.id ∧
        ((action.status = .validated ∧ decision.verdict = .allow) ∨
          (action.status = .approved ∧ decision.verdict = .requireApproval)) := by
      obtain ⟨member, ofAction⟩ := mem_of_decisionForAction judged
      exact ⟨decision, member, ofAction.trans sameAction.symm,
        authorized.2.imp And.symm And.symm⟩
    refine .bind (Legal.requireApplicable (.bind (Legal.requireExecutable fun source ofRun => ?_)))
    obtain ⟨sourceFound, sourceRun, owning, owningFound, owner⟩ := ofRun
    refine Legal.load fun (run : Run)
      (runFound : db.runs.find? episode.context.runId = some run) => ?_
    have isOwning : owning = run := Option.some.inj (owningFound.symm.trans runFound)
    subst isOwning
    refine .require fun current => .require fun lineage => ?_
    simp only [Bool.and_eq_true, decide_eq_true_eq] at current
    have successorRun : successor.runId = episode.context.runId := by
      simp only [oomSuccessorLineage, successorLineage, Bool.and_eq_true, decide_eq_true_eq]
        at lineage
      exact lineage.1.1.1.1.1.1.1.trans sourceRun
    refine .bind (Legal.writeSuccessor pristine created rfl rfl rfl (congrArg some sameAction.symm)
      (sameAction ▸ found) (not_cancellation_of_type type (by decide)) decided
      (successorRun ▸ runFound) owner current.1.1 sourceFound fun stored db' sourceFound' _ => ?_)
    refine .bind (Legal.insertOOMReceipt fun _ => ?_)
    exact .bind (Legal.note sourceFound' (typed_of_kind (by decide)) rfl (.pure rfl))

theorem recordNumericalRecoveryExecution_closed (checks : Checks) (actionId : String)
    (successor : RunAttempt) (checkpoint : RecoveryCheckpointReport)
    (directives : List InterventionDirective) (operationId requestDigest : String)
    (capabilities : Document) :
    Closed L (recordNumericalRecoveryExecution checks actionId successor checkpoint directives
      operationId requestDigest actor capabilities destinations) db := by
  unfold Closed recordNumericalRecoveryExecution
  refine .assume fun sound => .bind (Legal.requirePristine fun created pristine => ?_)
  refine .read (.expect fun binding bound => .read (.expect fun intervention _ => .read ?_))
  split
  · exact .read (.require fun _ => Legal.replayExecution fun _ => rfl)
  · refine .bind (Legal.requireFreshNumericalDecision fun run runFound active => ?_)
    refine .read (.expect fun episode opened => .read (.expect fun plan _ => ?_))
    refine Legal.get (.expect fun (action : Action)
      (found : db.actions.find? actionId = some action) => .read ?_)
    refine .require fun authorized => .expect fun decision judged => ?_
    simp only [Bool.and_eq_true, decide_eq_true_eq] at authorized
    have type : action.type = "change-learning-rate" := congrArg ActionSpec.type authorized.1
    have target : action.target = ⟨.run, binding.proposal.runId⟩ :=
      congrArg ActionSpec.target authorized.1
    have sameAction : action.id = actionId := Table.key_of_find? found
    have decided : ∃ decision ∈ db.policyDecisions.rows, decision.actionId = action.id ∧
        ((action.status = .validated ∧ decision.verdict = .allow) ∨
          (action.status = .approved ∧ decision.verdict = .requireApproval)) := by
      obtain ⟨member, ofAction⟩ := mem_of_decisionForAction judged
      have awaits := authorized.2
      rw [judged, awaitsExecution] at awaits
      simp only [Bool.and_eq_true, Bool.or_eq_true, decide_eq_true_eq] at awaits
      exact ⟨decision, member, ofAction.trans sameAction.symm, awaits.2⟩
    -- the decision's run is the run of the episode it was bound in
    have sameRun : binding.proposal.runId = episode.context.runId := by
      obtain ⟨other, opening, otherFound, _, openingFound, targets⟩ :=
        sound.numericalBindings actionId binding bound
      have isAction : action = other := Option.some.inj (found.symm.trans otherFound)
      have isEpisode : episode = opening := Option.some.inj (opened.symm.trans openingFound)
      subst isAction isEpisode
      rw [target] at targets
      exact congrArg ActionTarget.id targets
    refine .bind (Legal.requireApplicable (.bind (Legal.requireExecutable fun source ofRun => ?_)))
    obtain ⟨sourceFound, sourceRun, owning, owningFound, owner⟩ := ofRun
    have isOwning : owning = run :=
      Option.some.inj (owningFound.symm.trans (sameRun ▸ runFound))
    subst isOwning
    refine .require fun lineage => ?_
    have successorRun : successor.runId = episode.context.runId := by
      simp only [numericalSuccessorLineage, successorLineage, Bool.and_eq_true, decide_eq_true_eq]
        at lineage
      exact lineage.1.1.1.1.1.1.trans sourceRun
    refine .bind (Legal.writeSuccessor pristine created rfl rfl rfl (congrArg some sameAction.symm)
      (sameAction ▸ found) (not_cancellation_of_type type (by decide)) decided
      (successorRun ▸ owningFound) owner active sourceFound fun stored db' sourceFound' _ => ?_)
    refine .bind (Legal.insertNumericalReceipt fun db'' sameAttempts _ => ?_)
    have sourceFound'' : db''.attempts.find? source.id = some source := sameAttempts ▸ sourceFound'
    exact .bind (Legal.note sourceFound'' (typed_of_kind (by decide)) rfl (.pure rfl))

end Execution

/-! ## Refusal -/

section Refusal

variable {L : Licence} {db : Db} {actor : Actor} {destinations : List String}

/-- A cancellation is executing or ended, so an unexecuted action is none. -/
theorem governed_of_unexecuted {action : Action} (sound : Sound [] db)
    (found : db.actions.find? action.id = some action)
    (unexecuted : ActionStatus.unexecuted action.status = true) (live : action.status ≠ .rejected) :
    action.isCancellation = false := by
  by_contra cancels
  rcases sound.cancellations _ action found (by simpa using cancels) with owed | executing | ended
  · cases owed
  · rw [executing] at unexecuted
    cases unexecuted
  · cases status : action.status <;>
      simp_all [ActionStatus.unexecuted, Action.isTerminal, actionMachine, StateMachine.isTerminal]

theorem Legal.retireAction {post : Unit → Debt → Db → Prop} {action : Action} {eventType : String}
    (found : db.actions.find? action.id = some action)
    (unexecuted : ActionStatus.unexecuted action.status = true)
    (tells : MoveTells action .rejected eventType actor)
    (holds : ∀ actions events outbox, post () [] (db.setActed actions events outbox)) :
    Legal L (retireAction action eventType actor destinations) [] db post := by
  unfold Storage.retireAction
  refine .assume fun sound => .ite (fun _ => .pure (holds db.actions db.events db.outbox))
    fun live => ?_
  exact Legal.settleExecuting found List.not_mem_nil
    (governed_of_unexecuted sound found unexecuted live) (by decide) tells rfl holds

/-- Writing a receipt changes no attempt and no run. -/
def ReceiptLegal (L : Licence) (family : RecoveryFamily) : Prop :=
  ∀ (d : Debt) (db : Db) (receipt : RecoveryExecutionReceipt) (post : Unit → Debt → Db → Prop),
    (∀ db', db'.attempts = db.attempts → db'.runs = db.runs → post () d db') →
      Legal L (family.insertReceipt receipt) d db post

theorem abandonRecoveryAction_closed (family : RecoveryFamily) (actionId episodeId planId : String)
    (legal : ReceiptLegal L family) :
    Closed L (abandonRecoveryAction family actionId episodeId planId actor destinations) db := by
  unfold Closed abandonRecoveryAction
  refine .read ?_
  split
  · exact .require fun _ => .pure rfl
  · refine .require fun _ => .read (.expect fun episode _ => .read (.expect fun plan _ => .read ?_))
    refine Legal.get (.expect fun (action : Action) found => .require fun current => ?_)
    simp only [Bool.and_eq_true] at current
    refine Legal.load fun (run : Run)
      (runFound : db.runs.find? episode.context.runId = some run) => .require fun _ => ?_
    refine .bind (Legal.retireAction (Table.find?_of_mem (Table.mem_of_find? found)) current.2
      .reject fun _ _ _ => ?_)
    refine .bind (legal _ _ _ _ fun db' _ sameRuns => ?_)
    refine .expect fun failed copied => ?_
    have stored : db'.runs.find? run.id = some run := by
      rw [sameRuns]
      exact Table.find?_of_mem (Table.mem_of_find? runFound)
    refine Legal.moveRunSettled stored copied (typed_of_type (by decide)) fun _ _ _ => ?_
    refine Legal.load fun (attempt : RunAttempt) attemptFound => ?_
    exact .bind (Legal.note (Table.find?_of_mem (Table.mem_of_find? attemptFound))
      (typed_of_kind (by decide)) rfl (.pure rfl))

theorem oomFamily_legal : ReceiptLegal L oomFamily :=
  fun _ _ _ _ holds => Legal.insertOOMReceipt fun _ => holds _ rfl rfl

theorem numericalFamily_legal : ReceiptLegal L numericalFamily :=
  fun _ _ _ _ holds => Legal.insertNumericalReceipt holds

theorem abandonOOMRecoveryAction_closed (actionId : String) :
    Closed L (abandonOOMRecoveryAction actionId actor destinations) db := by
  unfold Closed abandonOOMRecoveryAction
  refine .read (.expect fun _ _ => .read (.read (.require fun _ => ?_)))
  exact abandonRecoveryAction_closed oomFamily _ _ _ oomFamily_legal

theorem abandonNumericalRecoveryAction_closed (actionId : String) :
    Closed L (abandonNumericalRecoveryAction actionId actor destinations) db := by
  unfold Closed abandonNumericalRecoveryAction
  exact .read (.expect fun _ _ =>
    abandonRecoveryAction_closed numericalFamily _ _ _ numericalFamily_legal)

theorem supersedeStaleOOMActions_closed (episodeId : String) :
    Closed L (supersedeStaleOOMActions episodeId actor destinations) db := by
  unfold Closed supersedeStaleOOMActions
  refine .read (.expect fun current _ => .read (.require fun _ => ?_))
  refine .read (.expect fun episode _ => .read ?_)
  refine .forEach (fun _ d _ => d = []) rfl ?_ fun _ _ settled => settled
  rintro binding _ _ db' rfl
  unfold supersedeAction
  refine .read (.ite (fun _ => .pure rfl) fun _ => ?_)
  refine Legal.get (.expect fun (action : Action) found => .require fun unexecuted => ?_)
  refine .bind (Legal.retireAction (Table.find?_of_mem (Table.mem_of_find? found)) unexecuted
    (.quiet (by decide) (by decide)) fun _ _ _ => .bind (Legal.insertOOMReceipt fun _ => ?_))
  refine Legal.load fun (attempt : RunAttempt) attemptFound => ?_
  exact Legal.note (Table.find?_of_mem (Table.mem_of_find? attemptFound))
    (typed_of_kind (by decide)) rfl rfl

end Refusal

end Xaytune.Storage
