import Xaytune.Storage.Recovery
import Xaytune.Storage.Legality.Execution

/-!
# Observations and recovery decisions as writes
-/

namespace Xaytune.Storage

open Xaytune.Core Xaytune.Library

section Evidence

variable {L : Licence} {d : Debt} {db : Db} {actor : Actor} {destinations : List String}

theorem Legal.incidentContext {post : AttemptContext → Debt → Db → Prop}
    {target : RuntimeOperationTarget} (holds : ∀ context, post context d db) :
    Legal L (incidentContext target) d db post := by
  unfold Storage.incidentContext
  split
  · exact Legal.load fun _ _ => Legal.load fun _ _ => .pure (holds _)
  · exact Legal.load fun _ _ => Legal.load fun _ _ => .pure (holds _)

theorem Legal.noteOnTarget {post : Unit → Debt → Db → Prop} {target : RuntimeOperationTarget}
    {eventType experimentId : String} {extra : EventExtra} (plain : isPlain extra = true)
    (holds : ∀ events outbox, post () d (db.setBooks db.ledger events outbox)) :
    Legal L (noteOnTarget target eventType experimentId actor destinations extra) d db post := by
  unfold Storage.noteOnTarget
  split
  · refine Legal.load fun (attempt : RunAttempt)
      (found : db.attempts.find? target.id = some attempt) => ?_
    exact Legal.note (Table.find?_of_mem (Table.mem_of_find? found)) (typed_of_kind (by decide))
      plain (holds _ _)
  · refine Legal.load fun (attempt : EvaluationAttempt)
      (found : db.evaluationAttempts.find? target.id = some attempt) => ?_
    exact Legal.note (Table.find?_of_mem (Table.mem_of_find? found)) (typed_of_kind (by decide))
      plain (holds _ _)

theorem Legal.attachIncident {post : Unit → Debt → Db → Prop} {episode : RecoveryEpisode}
    {incident : Incident} (holds : ∀ other, post () d (db.withAux other)) :
    Legal L (attachIncident episode incident) d db post := by
  unfold Storage.attachIncident
  refine .read ?_
  split
  · exact .check fun _ => holds db
  · exact .require fun _ => .read (.read (Legal.insertAux (.membership _) holds))

theorem Legal.attachEvidence {post : Unit → Debt → Db → Prop} {episode : RecoveryEpisode}
    {incident : Incident} (holds : ∀ db', post () d db') :
    Legal L (attachEvidence episode incident actor destinations) d db post := by
  unfold Storage.attachEvidence
  exact .bind (Legal.attachIncident fun _ => Legal.noteOnTarget rfl fun _ _ => holds _)

theorem attachRecoveryEvidence_closed (incidentId : String) :
    Closed L (attachRecoveryEvidence incidentId actor destinations) db := by
  unfold Closed attachRecoveryEvidence
  refine .read (.expect fun _ _ => .read (.read ?_))
  split
  · exact .pure rfl
  · exact .ite (fun _ => .pure rfl) fun _ => Legal.attachEvidence fun _ => rfl

theorem recordIncident_closed (checks : Checks) (incident : Incident)
    (streams : L.streams incident.context.target (incident.streamGeneration, incident.sequence)) :
    Closed L (recordIncident checks incident actor destinations) db := by
  unfold Closed recordIncident
  refine .bind (Legal.incidentContext fun _ => .require fun _ => .require fun _ => .read ?_)
  split
  · exact .require fun _ => .pure rfl
  · refine .bind (Legal.insertAux (.incident incident) fun _ => .read ?_)
    have rest : ∀ db experimentId, Legal L (do
        noteOnTarget incident.context.target "IncidentRecorded" experimentId actor destinations
          (.other incident.id)
        advanceTelemetry incident.context.target (incident.streamGeneration, incident.sequence)
        pure incident) [] db fun _ d _ => d = [] := by
      intro db experimentId
      refine .bind (Legal.noteOnTarget rfl fun _ _ => ?_)
      exact .bind (Legal.advanceTelemetry streams fun _ => .pure rfl)
    split
    · exact rest _ _
    · exact .bind (Legal.attachEvidence fun _ => rest _ _)

theorem recordCheckpoint_closed (checks : Checks) (attemptId : String) (commit : CheckpointCommit)
    (streams : L.streams ⟨.trainingAttempt, attemptId⟩ (commit.generation, commit.sequence)) :
    Closed L (recordCheckpoint checks attemptId commit actor destinations) db := by
  unfold Closed recordCheckpoint
  refine .bind (Legal.incidentContext fun context => Legal.load fun (attempt : RunAttempt)
    (found : db.attempts.find? attemptId = some attempt) => ?_)
  refine .require fun _ => .require fun _ => .read ?_
  split
  · exact .require fun _ => .read (.found fun _ _ => rfl)
  · have rest : ∀ (record : RecordedCheckpoint) db, Legal L (do
        insertInto Db.checkpointReceipts (fun table db => { db with checkpointReceipts := table })
          ⟨attemptId, commit.generation, commit.sequence, record.id, commit.evidenceDigest⟩
        advanceTelemetry ⟨.trainingAttempt, attemptId⟩ (commit.generation, commit.sequence)
        pure record) [] db fun _ d _ => d = [] := by
      intro record db
      refine .bind (Legal.insertAux (.checkpointReceipt _) fun _ => ?_)
      exact .bind (Legal.advanceTelemetry streams fun _ => .pure rfl)
    refine .read ?_
    split
    · exact .bind (.check fun _ => rest _ _)
    · refine .bind (Legal.insertInto fun table inserted => ⟨.checkpoint _ table inserted, ?_⟩)
      exact .bind (Legal.note (Table.find?_of_mem (Table.mem_of_find? found))
        (typed_of_kind (by decide)) rfl (rest _ _))

theorem recordMetricPoints_closed (attemptId : String) (generation sequence : Nat)
    (points : Document) :
    Closed L (recordMetricPoints attemptId generation sequence points) db := by
  unfold Closed recordMetricPoints
  refine .ite (fun _ => .pure rfl) fun _ => ?_
  refine Legal.load fun _ _ => Legal.load fun _ _ => .read ?_
  split
  · exact .require fun _ => .pure rfl
  · exact .bind (Legal.insertAux (.metricPoints _) fun _ => .pure rfl)

end Evidence

section Plans

variable {L : Licence} {d : Debt} {db : Db} {post : Unit → Debt → Db → Prop} {actor : Actor}
  {destinations : List String}

theorem Legal.requireAuthoritativeEpisode {episode : RecoveryEpisode} (holds : post () d db) :
    Legal L (requireAuthoritativeEpisode episode) d db post := by
  unfold Storage.requireAuthoritativeEpisode
  refine .bind (Legal.incidentContext fun _ => .require fun _ => ?_)
  split
  · exact Legal.load fun _ _ => Legal.load fun _ _ => .check fun _ => holds
  · exact Legal.load fun _ _ => Legal.load fun _ _ => .check fun _ => holds

theorem Legal.openEpisode {episode : RecoveryEpisode} (holds : ∀ db', post () d db') :
    Legal L (openEpisode episode) d db post := by
  unfold Storage.openEpisode insertEpisode
  refine .bind (.read (.read (.require fun _ => ?_)))
  refine Legal.insertInto fun table inserted => ⟨.episode episode table inserted, .read ?_⟩
  refine .forEach (fun _ d' _ => d' = d) rfl ?_ ?_
  · rintro _ _ _ _ rfl
    exact Legal.attachIncident fun _ => rfl
  · rintro _ db' rfl
    exact holds db'

theorem Legal.insertPlan {plan : RecoveryPlan} {episode : RecoveryEpisode}
    (holds : ∀ other, post () d (db.withAux other)) :
    Legal L (insertPlan plan episode) d db post := by
  unfold Storage.insertPlan
  refine .read (.require fun _ => .read (.require fun _ => .read (.read (.require fun _ => ?_))))
  exact Legal.insertAux (.plan plan) holds

theorem Legal.planEpisode {post : RecoveryEpisode × Bool → Debt → Db → Prop} {plan : RecoveryPlan}
    {episode : Option RecoveryEpisode} (holds : ∀ found, post found d db) :
    Legal L (planEpisode plan episode) d db post := by
  unfold Storage.planEpisode
  refine .read ?_
  split
  · exact .require fun _ => .pure (holds _)
  · refine .expect fun _ _ => .require fun _ => .read (.require fun _ => ?_)
    exact .pure (holds _)

theorem recordRecoveryPlan_closed (checks : Checks) (plan : RecoveryPlan)
    (episode : Option RecoveryEpisode) :
    Closed L (recordRecoveryPlan checks plan actor destinations episode) db := by
  unfold Closed recordRecoveryPlan
  refine .read (.read (.require fun _ => ?_))
  split
  · exact .require fun _ => .pure rfl
  · refine .bind (Legal.planEpisode fun stored => ?_)
    refine .bind (Legal.requireAuthoritativeEpisode (.read (.read ?_)))
    refine .require fun _ => .require fun _ => ?_
    have rest : ∀ db, Legal L (do
        insertPlan plan stored.1
        noteOnTarget stored.1.context.target "RecoveryPlanned" stored.1.context.experimentId actor
          destinations (.other plan.id)
        pure plan) [] db fun _ d _ => d = [] := by
      intro db
      refine .bind (Legal.insertPlan fun _ => .bind (Legal.noteOnTarget rfl fun _ _ => ?_))
      exact .pure rfl
    exact .ite (fun _ => .bind (Legal.openEpisode fun _ => rest _)) fun _ => .next (rest _)

end Plans

end Xaytune.Storage
