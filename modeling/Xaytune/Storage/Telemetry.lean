import Xaytune.Storage.Legality.Repository

/-!
# The telemetry cursor

A call moves the cursor of an attempt to the position of the event it records, if that is
further, and to the next generation when a stream died. So a cursor only moves forward, and a
dead stream that is found again is the degradation already on record.
-/

namespace Xaytune.Storage

open Xaytune.Core Xaytune.Library

section Cursor

variable {checks : Checks} {db db' : Db} {target : RuntimeOperationTarget}

/-- A statement moves a cursor only to a position its licence has. -/
theorem Write.telemetry_moves {L : Licence} {d d' : Debt} (write : Write L d db d' db') :
    db'.telemetryPosition target = db.telemetryPosition target ∨
      L.streams target (db'.telemetryPosition target) := by
  cases write with
  | aux other aside =>
      cases aside with
      | telemetry cursor advanced streams =>
          have position : (db.withAux (db.setTelemetry cursor)).telemetryPosition target =
              (db.setTelemetry cursor).telemetryPosition target := rfl
          rw [position, telemetryPosition_setTelemetry]
          by_cases here : target = cursor.target
          · rw [if_pos here, here]
            exact .inr streams
          · exact .inl (if_neg here)
      | _ => exact .inl rfl
  | _ => exact .inl rfl

/-- A call leaves a cursor where it was, or at a position it streams. -/
theorem Op.telemetry_moves (sound : Sound [] db) (op : Op) :
    (op.exec checks db).telemetryPosition target = db.telemetryPosition target ∨
      op.streams db target ((op.exec checks db).telemetryPosition target) := by
  refine Steps.invariant (I := fun _ later => later.telemetryPosition target =
    db.telemetryPosition target ∨ op.streams db target (later.telemetryPosition target))
    (Op.writes sound op) (.inl rfl) ?_
  intro d first d' second write moved
  have moves : second.telemetryPosition target = first.telemetryPosition target ∨ _ :=
    write.telemetry_moves
  rcases moves with same | streamed
  · rw [same]
    exact moved
  · exact .inr streamed

/-- A call that only streams positions of earlier generations leaves a cursor where it was. -/
theorem Op.telemetry_kept (sound : Sound [] db) (op : Op)
    (earlier : ∀ position, op.streams db target position →
      position.1 < (db.telemetryPosition target).1) :
    (op.exec checks db).telemetryPosition target = db.telemetryPosition target := by
  have moves : (op.exec checks db).telemetryPosition target = db.telemetryPosition target ∨ _ :=
    Op.telemetry_moves sound op
  rcases moves with same | streamed
  · exact same
  · have behind := earlier _ streamed
    have forward : PositionLE _ ((op.exec checks db).telemetryPosition target) :=
      (Op.grows sound op).telemetry target
    unfold PositionLE at forward
    omega

end Cursor

/-! ## Degradations -/

section Degradation

variable {checks : Checks} {db db' : Db} {target : RuntimeOperationTarget} {actor : Actor}
  {destinations : List String}

/-- How the journal names the attempt of an operation. -/
def attemptAggregate (target : RuntimeOperationTarget) : AggregateKey :=
  match target.kind with
  | .trainingAttempt => ⟨Stored.kind RunAttempt, target.id⟩
  | .evaluationAttempt => ⟨Stored.kind EvaluationAttempt, target.id⟩

/-- An event that says a stream was left for a generation. -/
def TellsDegraded (target : RuntimeOperationTarget) (generation : Nat) (event : DomainEvent) :
    Prop :=
  event.aggregate = attemptAggregate target ∧ event.eventType = "TelemetryDegraded" ∧
    event.extra = .toGeneration generation

/-- The attempt is on record. -/
def HasAttempt (db : Db) (target : RuntimeOperationTarget) : Prop :=
  match target.kind with
  | .trainingAttempt => ∃ attempt, db.attempts.find? target.id = some attempt
  | .evaluationAttempt => ∃ attempt, db.evaluationAttempts.find? target.id = some attempt

/-- What a degradation leaves: the cursor at the start of a generation the journal says was entered,
which is the next one unless it was said before. -/
structure Degrades (db : Db) (target : RuntimeOperationTarget) (position : Nat × Int) (db' : Db) :
    Prop where
  attempt : HasAttempt db' target
  isAt : db'.telemetryPosition target = position
  restarted : position.2 = -1
  noted : ∃ event ∈ db'.events, TellsDegraded target position.1 event
  once : db' = db ∨ (position.1 = (db.telemetryPosition target).1 + 1 ∧
    ∃ event, db'.events = db.events ++ [event] ∧ TellsDegraded target position.1 event)

theorem noted_iff {generation : Nat} :
    (db.eventsFor (attemptAggregate target)).any (fun event =>
      event.eventType = "TelemetryDegraded" && event.extra = .toGeneration generation) = true ↔
      ∃ event ∈ db.events, TellsDegraded target generation event := by
  simp only [List.any_eq_true, Db.eventsFor, List.mem_filter, Bool.and_eq_true, decide_eq_true_eq]
  constructor
  · rintro ⟨event, ⟨member, isAttempt⟩, type, extra⟩
    exact ⟨event, member, isAttempt, type, extra⟩
  · rintro ⟨event, member, isAttempt, type, extra⟩
    exact ⟨event, ⟨member, isAttempt⟩, type, extra⟩

theorem degrade_ensures {α : Type} [Stored α] {attempt : α} {owner : Repo String}
    (isAttempt : (⟨Stored.kind α, Stored.id attempt⟩ : AggregateKey) = attemptAggregate target)
    (recorded : HasAttempt db target) (readsOwner : ∀ db, owner.Ensures db fun _ db' => db' = db) :
    (recordTelemetryDegraded.degrade target actor destinations attempt
      (db.telemetryPosition target) owner).Ensures db (Degrades db target) := by
  unfold recordTelemetryDegraded.degrade
  rw [isAttempt]
  refine Transaction.ensures_bind.mpr (Transaction.ensures_read.mpr
    (Transaction.ensures_ite.mpr ⟨?_, ?_⟩))
  · rintro ⟨restarted, noted⟩
    refine Transaction.ensures_pure.mpr ⟨recorded, ?_, rfl, noted_iff.mp noted, .inl rfl⟩
    exact Prod.ext rfl restarted
  · intro _
    refine Transaction.ensures_bind.mpr (Transaction.ensures_write.mpr ?_)
    refine Transaction.ensures_bind.mpr ((readsOwner _).mono ?_)
    rintro experimentId _ rfl
    refine Transaction.ensures_bind.mpr (Transaction.ensures_write.mpr
      (Transaction.ensures_pure.mpr ?_))
    have tells : TellsDegraded target ((db.telemetryPosition target).1 + 1)
        (eventOf attempt "TelemetryDegraded" experimentId actor
          (.toGeneration ((db.telemetryPosition target).1 + 1))) :=
      ⟨isAttempt, rfl, rfl⟩
    refine ⟨recorded, ?_, rfl, ⟨_, List.mem_append_right _ List.mem_cons_self, tells⟩,
      .inr ⟨rfl, _, rfl, tells⟩⟩
    exact (telemetryPosition_setTelemetry db _ target).trans (if_pos rfl)

theorem recordTelemetryDegraded_ensures :
    (recordTelemetryDegraded target actor destinations).Ensures db (Degrades db target) := by
  obtain ⟨kind, id⟩ := target
  unfold recordTelemetryDegraded
  refine Transaction.ensures_bind.mpr (Transaction.ensures_read.mpr ?_)
  cases kind with
  | trainingAttempt =>
      refine Transaction.ensures_bind.mpr (loadRow_ensures fun (attempt : RunAttempt)
        (found : db.attempts.find? id = some attempt) => ?_)
      have isId : attempt.id = id := Table.key_of_find? found
      refine degrade_ensures ?_ ⟨attempt, found⟩ fun db => ?_
      · exact congrArg (AggregateKey.mk _) isId
      · unfold experimentOfRun
        exact Transaction.ensures_bind.mpr
          (loadRow_ensures fun _ _ => Transaction.ensures_pure.mpr rfl)
  | evaluationAttempt =>
      refine Transaction.ensures_bind.mpr (loadRow_ensures fun (attempt : EvaluationAttempt)
        (found : db.evaluationAttempts.find? id = some attempt) => ?_)
      have isId : attempt.id = id := Table.key_of_find? found
      refine degrade_ensures ?_ ⟨attempt, found⟩ fun db => ?_
      · exact congrArg (AggregateKey.mk _) isId
      · unfold experimentOfEvaluationRun
        exact Transaction.ensures_bind.mpr
          (loadRow_ensures fun _ _ => Transaction.ensures_pure.mpr rfl)

theorem degrade_yields {α : Type} [Stored α] {attempt : α} {owner : Repo String}
    (isAttempt : (⟨Stored.kind α, Stored.id attempt⟩ : AggregateKey) = attemptAggregate target)
    {position : Nat × Int} (restarted : position.2 = -1)
    (noted : ∃ event ∈ db.events, TellsDegraded target position.1 event) :
    (recordTelemetryDegraded.degrade target actor destinations attempt position owner).Yields db
      position db := by
  unfold recordTelemetryDegraded.degrade
  rw [isAttempt]
  refine Transaction.yields_read ?_
  rw [if_pos ⟨restarted, noted_iff.mpr noted⟩, ← restarted]
  exact Transaction.yields_pure position db

/-- A dead stream found again changes nothing. -/
theorem recordTelemetryDegraded_yields {position : Nat × Int} (recorded : HasAttempt db target)
    (isPosition : db.telemetryPosition target = position) (restarted : position.2 = -1)
    (noted : ∃ event ∈ db.events, TellsDegraded target position.1 event) :
    (recordTelemetryDegraded target actor destinations).Yields db position db := by
  subst isPosition
  obtain ⟨kind, id⟩ := target
  unfold recordTelemetryDegraded
  refine Transaction.yields_read ?_
  cases kind with
  | trainingAttempt =>
      obtain ⟨attempt, found⟩ := recorded
      have found : db.attempts.find? id = some attempt := found
      refine (loadRow_yields (α := RunAttempt) found).bind (degrade_yields ?_ restarted noted)
      exact congrArg (AggregateKey.mk _) (Table.key_of_find? found)
  | evaluationAttempt =>
      obtain ⟨attempt, found⟩ := recorded
      have found : db.evaluationAttempts.find? id = some attempt := found
      refine (loadRow_yields (α := EvaluationAttempt) found).bind
        (degrade_yields ?_ restarted noted)
      exact congrArg (AggregateKey.mk _) (Table.key_of_find? found)

theorem HasAttempt.later (recorded : HasAttempt db target) (grows : Grows db db') :
    HasAttempt db' target := by
  obtain ⟨kind, id⟩ := target
  cases kind with
  | trainingAttempt =>
      obtain ⟨attempt, found⟩ := recorded
      obtain ⟨later, found', _⟩ := grows.attempts id attempt found
      exact ⟨later, found'⟩
  | evaluationAttempt =>
      obtain ⟨attempt, found⟩ := recorded
      obtain ⟨later, found', _⟩ := grows.evaluationAttempts id attempt found
      exact ⟨later, found'⟩

end Degradation

/-- Over any calls with any positions a cursor only moves forward, and never to a position of an
earlier generation. A degradation advances the generation by one with the one event that says so,
or finds it said; until an event moves the cursor on, it is then found said, and nothing changes. -/
theorem telemetry_cursor_only_moves_forward {checks : Checks} {db : Db}
    (reached : Reachable checks db) (target : RuntimeOperationTarget) :
    (∀ db', ReachableFrom checks db db' →
      PositionLE (db.telemetryPosition target) (db'.telemetryPosition target)) ∧
    (∀ op : Op, (∀ position, op.streams db target position →
        position.1 < (db.telemetryPosition target).1) →
      (op.exec checks db).telemetryPosition target = db.telemetryPosition target) ∧
    ∀ actor destinations position db₁,
      recordTelemetryDegraded target actor destinations db = .ok (position, db₁) →
      (db₁ = db ∨ (position.1 = (db.telemetryPosition target).1 + 1 ∧
        ∃ event, db₁.events = db.events ++ [event] ∧ TellsDegraded target position.1 event)) ∧
      db₁.telemetryPosition target = position ∧ position.2 = -1 ∧
      ∀ db₂, ReachableFrom checks db₁ db₂ → db₂.telemetryPosition target = position →
        ∀ actor' destinations', recordTelemetryDegraded target actor' destinations' db₂ =
          .ok (position, db₂) := by
  refine ⟨fun db' later => (later.grows reached).telemetry target, fun op earlier => ?_, ?_⟩
  · exact Op.telemetry_kept (ReachableBy.sound reached) op earlier
  · intro actor destinations position db₁ degraded
    obtain ⟨recorded, isPosition, restarted, ⟨event, member, tells⟩, once⟩ :=
      recordTelemetryDegraded_ensures position db₁ degraded
    refine ⟨once, isPosition, restarted, fun db₂ later still actor' destinations' => ?_⟩
    have settled : (Op.recordTelemetryDegraded target actor destinations).exec checks db = db₁ := by
      show (recordTelemetryDegraded target actor destinations).done.settle db = db₁
      rw [done_settle]
      exact Transaction.Yields.settle degraded
    have reached₁ : Reachable checks db₁ := settled ▸ reached.next trivial
    have grows := later.grows reached₁
    exact recordTelemetryDegraded_yields (recorded.later grows) still restarted
      ⟨event, grows.events.subset member, tells⟩

/-- An attempt whose stream dies twice, once before anything came from it and once after. -/
def diedTwice : List Op :=
  [.admitExperiment { id := "e" }
      { id := "n", experimentId := "e", candidateFingerprint := "" }
      { id := "r", nodeId := "n", experimentId := "e", candidateFingerprint := "" }
      { id := "a", runId := "r", attemptNumber := 1 } "op" "" none ⟨"system", "controller", ""⟩ [],
    .recordTelemetryDegraded ⟨.trainingAttempt, "a"⟩ ⟨"system", "controller", ""⟩ [],
    .recordTelemetryDegraded ⟨.trainingAttempt, "a"⟩ ⟨"system", "controller", ""⟩ [],
    .transitionAttempt "a" 0 .queued ⟨"system", "controller", ""⟩ none [] (some (1, 4)),
    .recordTelemetryDegraded ⟨.trainingAttempt, "a"⟩ ⟨"system", "controller", ""⟩ []]

theorem telemetry_cursor_only_moves_forward_diedTwice :
    let db := execAll .permissive diedTwice Db.empty
    db.telemetryPosition ⟨.trainingAttempt, "a"⟩ = (2, -1) ∧
      ((Op.transitionAttempt "a" 1 .failed ⟨"system", "controller", ""⟩ none []
        (some (1, 9))).exec .permissive db).telemetryPosition ⟨.trainingAttempt, "a"⟩ =
          db.telemetryPosition ⟨.trainingAttempt, "a"⟩ ∧
      (db.events.filter fun event => event.eventType = "TelemetryDegraded").map
        DomainEvent.extra = [.toGeneration 1, .toGeneration 2] := by
  intro db
  have position : db.telemetryPosition ⟨.trainingAttempt, "a"⟩ = (2, -1) := by decide
  have reached : Reachable .permissive db := reachable_execAll .permissive diedTwice .start
  refine ⟨position, ?_, by decide⟩
  apply (telemetry_cursor_only_moves_forward reached ⟨.trainingAttempt, "a"⟩).2.1
  rintro _ ⟨-, rfl⟩
  rw [position]
  decide

end Xaytune.Storage
