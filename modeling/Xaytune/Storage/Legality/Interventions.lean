import Xaytune.Storage.Interventions
import Xaytune.Storage.Legality.Governance
import Xaytune.Storage.Legality.Recovery

/-!
# Interventions and their applications as writes
-/

namespace Xaytune.Storage

open Xaytune.Core Xaytune.Library

section Decisions

variable {L : Licence} {d : Debt} {db : Db} {post : Unit → Debt → Db → Prop}

/-- A fresh numerical decision is about an active run. -/
theorem Legal.requireFreshNumericalDecision {checks : Checks} {proposal : NumericalLRProposal}
    (holds : ∀ run, db.runs.find? proposal.runId = some run → run.status = .active →
      post () d db) :
    Legal L (requireFreshNumericalDecision checks proposal) d db post := by
  unfold Storage.requireFreshNumericalDecision
  refine .read (.expect fun _ _ => .require fun _ => .read (.require fun _ => ?_))
  refine Legal.load fun (run : Run) (found : db.runs.find? proposal.runId = some run) => ?_
  refine Legal.load fun _ _ => .require fun current => .read (.expect fun _ _ => .check fun _ => ?_)
  simp only [Bool.and_eq_true, decide_eq_true_eq] at current
  exact holds run found current.1.1.1

/-- What authorizes a binding: the episode's run is what the action targets. -/
theorem episode_of_authority {actionId episodeId planId type : String} {planSequence : Nat}
    {action : Action} (bound : db.actions.find? actionId = some action)
    (authorized : bindingAuthority db actionId episodeId planId planSequence type = true) :
    ∃ episode, db.episodes.find? episodeId = some episode ∧
      action.target = ⟨.run, episode.context.runId⟩ ∧ action.type = type := by
  unfold bindingAuthority at authorized
  split at authorized
  · rename_i episode plan stored episodeFound _ actionFound
    have isBound : action = stored := Option.some.inj (bound.symm.trans actionFound)
    subst isBound
    simp only [Bool.and_eq_true, decide_eq_true_eq] at authorized
    exact ⟨episode, episodeFound, authorized.1.2, authorized.2⟩
  · cases authorized

theorem Legal.insertNumericalBinding {binding : NumericalRecoveryActionBinding} {action : Action}
    (bound : db.actions.find? binding.actionId = some action)
    (holds : ∀ db', db'.actions = db.actions → post () d db') :
    Legal L (insertNumericalBinding binding) d db post := by
  unfold Storage.insertNumericalBinding
  refine .read (.require fun authorized => .read (.require fun _ => ?_))
  simp only [Bool.and_eq_true] at authorized
  obtain ⟨episode, opened, sameRun, type⟩ := episode_of_authority bound authorized.1
  refine Legal.insertInto fun table inserted => ⟨.numericalBinding binding table action episode
    inserted bound type opened sameRun, holds _ rfl⟩

theorem proposeNumericalRecoveryAction_closed (checks : Checks) (inputsPlan : RecoveryPlan)
    (inputs : Document) (proposal : NumericalLRProposal) (request : ActionRequest)
    (judgement : Judgement) (decisionId : String) (destinations : List String) :
    Closed L (proposeNumericalRecoveryAction checks inputsPlan inputs proposal request judgement
      decisionId destinations) db := by
  unfold proposeNumericalRecoveryAction
  refine proposeAction_closed _ _ _ _ _ ?_
  rintro _ ⟨rfl⟩
  constructor
  · intro db post holds
    refine .read ?_
    split
    · exact .pure (holds none)
    · exact .require fun _ => .bind (Legal.governedAction fun _ => .pure (holds _))
  · intro db post holds
    refine .require fun _ => .bind (Legal.requireFreshNumericalDecision fun _ _ _ => ?_)
    exact .read (.check fun _ => holds)
  · intro d db action post bound _ _ holds
    exact Legal.insertNumericalBinding bound holds

end Decisions

section Recording

variable {L : Licence} {db : Db} {actor : Actor} {destinations : List String}

theorem Legal.requireInterventionProvenance {d : Debt} {post : Unit → Debt → Db → Prop}
    {checks : Checks} {intervention : TrainingIntervention} {action : Action} {run : Run}
    (holds : post () d db) :
    Legal L (requireInterventionProvenance checks intervention action run) d db post := by
  unfold Storage.requireInterventionProvenance
  refine .read ?_
  split
  · exact .require fun _ => Legal.requireFreshNumericalDecision fun _ _ _ => holds
  · exact .expect fun _ _ => .require fun _ => .read (.check fun _ => holds)

/-- The event of an intervention and its row are one write. -/
theorem Legal.writeIntervention {d : Debt} {post : Unit → Debt → Db → Prop}
    {intervention : TrainingIntervention} {run : Run} {action : Action}
    (runFound : db.runs.find? intervention.runId = some run)
    (decided : db.actions.find? intervention.actionId = some action)
    (type : action.type = "change-learning-rate") (holds : ∀ db', post () d db') :
    Legal L (writeIntervention intervention run actor destinations) d db post := by
  let event := eventOf run "TrainingInterventionRecorded" run.experimentId actor
    (.trainingIntervention intervention)
  have length_eq : (db.events ++ [event]).length = db.events.length + 1 := by simp
  cases inserted : db.interventions.insert?
      ⟨intervention, run.experimentId, db.events.length + 1⟩ with
  | none =>
      intro _ _ _ ran
      simp [Storage.writeIntervention, Transaction.bind_apply, Storage.emit, Db.record,
        Storage.insertInto, inserted] at ran
  | some table =>
      refine Legal.step (a := ()) ?_ (.intervention intervention run action actor
        (db.record event destinations).outbox table runFound decided type inserted) (holds _)
      simp only [Storage.writeIntervention, Transaction.bind_apply, Storage.emit,
        Transaction.write_apply, Transaction.read_apply, Db.record, length_eq, Storage.insertInto,
        event, inserted]

theorem recordTrainingIntervention_closed (checks : Checks) (intervention : TrainingIntervention) :
    Closed L (recordTrainingIntervention checks intervention actor destinations) db := by
  unfold Closed recordTrainingIntervention
  refine .read ?_
  split
  · exact .require fun _ => .pure rfl
  · refine Legal.load fun (action : Action)
      (decided : db.actions.find? intervention.actionId = some action) => ?_
    refine .read (.require fun _ => .require fun mutation => ?_)
    refine Legal.load fun (run : Run) (found : db.runs.find? intervention.runId = some run) => ?_
    refine .require fun _ => .require fun _ => .bind (Legal.requireInterventionProvenance ?_)
    simp only [Bool.and_eq_true, decide_eq_true_eq] at mutation
    exact .bind (Legal.writeIntervention found decided mutation.1 fun _ => .pure rfl)

theorem recordNumericalIntervention_closed (checks : Checks) (actionId interventionId : String)
    (content : Document) :
    Closed L (recordNumericalIntervention checks actionId interventionId content actor
      destinations) db := by
  unfold Closed recordNumericalIntervention
  exact .read (.expect fun _ _ => recordTrainingIntervention_closed checks _)

theorem Legal.requireDirective {d : Debt}
    {post : Option InterventionDirective → Debt → Db → Prop}
    {intervention : TrainingIntervention} {attempt : RunAttempt} {report : ApplicationReport}
    (holds : ∀ directive, post directive d db) :
    Legal L (requireDirective intervention attempt report) d db post := by
  unfold Storage.requireDirective
  refine .read ?_
  split
  · exact .read (.require fun _ => .pure (holds _))
  · exact .require fun _ => .require fun _ => .read (.require fun _ => .pure (holds _))

theorem Legal.requireRecordedAncestor {d : Debt} {post : Unit → Debt → Db → Prop} {run : Run}
    {restore : Option CheckpointRef} (holds : post () d db) :
    Legal L (requireRecordedAncestor run restore) d db post := by
  cases restore with
  | none => exact .pure holds
  | some _ => exact .read (.check fun _ => holds)

/-- The event of an application and its row are one write. -/
theorem Legal.writeApplication {d : Debt} {post : InterventionApplication → Debt → Db → Prop}
    {application : InterventionApplication} {attempt : RunAttempt} {run : Run}
    {row : InterventionRow} (attemptFound : db.attempts.find? application.attemptId = some attempt)
    (runFound : db.runs.find? attempt.runId = some run)
    (decided : db.interventions.find? application.interventionId = some row)
    (sameRun : row.intervention.runId = attempt.runId)
    (applied : application.appliedValue = row.intervention.mutation.learningRate)
    (holds : ∀ recorded db', Write L d db d db' → post recorded d db') :
    Legal L (writeApplication application attempt run actor destinations) d db post := by
  let event := eventOf attempt "InterventionApplied" run.experimentId actor
    (.interventionApplication run.id application)
  have length_eq : (db.events ++ [event]).length = db.events.length + 1 := by simp
  cases inserted : db.applications.insert?
      ⟨{ application with eventSequence := db.events.length + 1 }, run.id⟩ with
  | none =>
      intro _ _ _ ran
      simp [Storage.writeApplication, Transaction.bind_apply, Storage.emit, Db.record,
        Storage.insertInto, inserted] at ran
  | some table =>
      have write := Write.application (L := L) (d := d) application attempt run row actor
        (db.record event destinations).outbox table attemptFound runFound decided sameRun applied
        inserted
      refine Legal.step (a := { application with eventSequence := db.events.length + 1 }) ?_ write
        (holds _ _ write)
      simp only [Storage.writeApplication, Transaction.bind_apply, Storage.emit,
        Transaction.write_apply, Transaction.read_apply, Db.record, length_eq, Storage.insertInto,
        event, inserted, Transaction.pure_apply]

theorem Legal.settleNumericalActionOnEffect {post : Unit → Debt → Db → Prop} {id : String}
    {row : InterventionRow} {directive : InterventionDirective}
    (decided : db.interventions.find? id = some row) (holds : ∀ db', post () [] db') :
    Legal L (settleNumericalActionOnEffect row.intervention directive actor destinations) [] db
      post := by
  unfold Storage.settleNumericalActionOnEffect
  refine .assume fun sound => .ite (fun _ => Legal.get ?_) fun _ => .pure (holds _)
  split
  · exact .pure (holds _)
  · rename_i action found
    obtain ⟨bound, boundFound, type⟩ := sound.interventions id row decided
    have isBound : action = bound := Option.some.inj (found.symm.trans boundFound)
    subst isBound
    refine .ite (fun _ => ?_) fun _ => .pure (holds _)
    exact Legal.settleExecuting (Table.find?_of_mem (Table.mem_of_find? boundFound))
      List.not_mem_nil (not_cancellation_of_type type (by decide)) (by decide)
      (.quiet (by decide) (by decide)) rfl fun _ _ _ => holds _

theorem recordInterventionApplication_closed (report : ApplicationReport)
    (telemetryPosition : Option (Nat × Nat))
    (streams : ∀ position, telemetryPosition = some position →
      L.streams ⟨.trainingAttempt, report.attemptId⟩ (position.1, position.2)) :
    Closed L (recordInterventionApplication report actor destinations telemetryPosition) db := by
  unfold Closed recordInterventionApplication
  refine .read (.expect fun (row : InterventionRow) decided => ?_)
  refine Legal.load fun (attempt : RunAttempt)
    (attemptFound : db.attempts.find? report.attemptId = some attempt) => ?_
  refine .require fun ofRun => .read ?_
  have sameRun : attempt.runId = row.intervention.runId := by simpa using ofRun
  have isId : attempt.id = report.attemptId := Table.key_of_find? attemptFound
  rw [← isId] at streams
  split
  · exact .require fun _ => .bind (Legal.advanceTelemetryGiven streams fun _ => .pure rfl)
  · refine .require fun applied => .bind (Legal.requireDirective fun directive => ?_)
    refine Legal.load fun (run : Run)
      (runFound : db.runs.find? row.intervention.runId = some run) => ?_
    refine .read (.expect fun previous _ => .require fun _ => ?_)
    refine .bind (Legal.requireRecordedAncestor ?_)
    have rowFound : db.interventions.find? row.intervention.id = some row :=
      Table.find?_of_mem (Table.mem_of_find? decided)
    refine .bind (Legal.writeApplication ?_ (sameRun ▸ runFound) rowFound sameRun.symm
      (by simpa using applied) fun recorded db' write => ?_)
    · exact Table.find?_of_mem (Table.mem_of_find? attemptFound)
    · have telemetry : ∀ db, Legal L (do
          advanceTelemetryGiven ⟨.trainingAttempt, attempt.id⟩ telemetryPosition
          pure recorded) [] db fun _ d _ => d = [] :=
        fun _ => .bind (Legal.advanceTelemetryGiven streams fun _ => .pure rfl)
      cases directive with
      | none => exact .next (telemetry _)
      | some directive =>
          obtain ⟨_, decided', rfl⟩ := write.grows.interventions _ row decided
          exact .bind (Legal.settleNumericalActionOnEffect decided' fun _ => telemetry _)

end Recording

end Xaytune.Storage
