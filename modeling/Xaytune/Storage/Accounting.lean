import Xaytune.Storage.Statements

/-!
# The ledger's statements as writes

Posting an entry leaves its subject accounted for, whether it was written now or
before, or the experiment does not limit the dimension. A failure is posted together
with the event of the overrun it causes.
-/

namespace Xaytune.Storage

open Xaytune.Core Xaytune.Library

section Posting

variable {L : Licence} {d : Debt} {db : Db} {post : Unit → Debt → Db → Prop}
  {experimentId subjectId : String} {dimension : BudgetDimension} {kind : LedgerEntryKind}
  {amount : Int} {subjectKind : BudgetSubjectKind} {actor : Actor} {destinations : List String}

/-- A dimension the owner does not limit asks for no entry. -/
theorem accounted_of_unlimited (owner : db.ownerOf? subjectKind subjectId = some experimentId)
    (unlimited : db.limitOn experimentId dimension = none) :
    db.Accounted subjectKind subjectId dimension kind := by
  intro other owner' limited
  rw [owner, Option.some.injEq] at owner'
  subst owner'
  rw [unlimited] at limited
  cases limited

theorem accounted_of_entry
    (written : (db.entryOf subjectKind subjectId dimension kind).isSome) :
    db.Accounted subjectKind subjectId dimension kind :=
  fun _ _ _ => written

/-- Entries written later leave a subject accounted for. -/
theorem Db.Accounted.grow {table : Table BudgetLedgerEntry.key} {events : List DomainEvent}
    {outbox : List OutboxRecord}
    (accounted : db.Accounted subjectKind subjectId dimension kind)
    (kept : db.ledger.Persists (· = ·) table) :
    (db.setBooks table events outbox).Accounted subjectKind
      subjectId dimension kind := by
  intro experimentId owner limited
  obtain ⟨entry, found⟩ := Option.isSome_iff_exists.mp (accounted experimentId owner limited)
  obtain ⟨_, found', _⟩ := kept _ entry found
  exact Option.isSome_iff_exists.mpr ⟨_, found'⟩

theorem limitOn_of_find {experiment : Experiment}
    (found : db.experiments.find? experimentId = some experiment) :
    db.limitOn experimentId dimension = limit? experiment.budget dimension := by
  rw [Db.limitOn, found, Option.bind_some]

/-- An entry found or written is there afterwards, and nothing else changed. -/
theorem Legal.appendEntry {entry : BudgetLedgerEntry} (owned : Owned db entry)
    (postable : db.ledger.find? entry.key = none → Postable L d db entry)
    (holds : ∀ table, db.ledger.Persists (· = ·) table → (table.find? entry.key).isSome →
      post () d (db.setLedger table)) :
    Legal L (appendEntry entry) d db post := by
  unfold Storage.appendEntry
  refine .read ?_
  cases existing : db.ledger.find? entry.key with
  | some stored =>
      refine .check fun _ => ?_
      exact holds db.ledger (.refl fun _ => rfl) (by rw [existing]; rfl)
  | none =>
      refine Legal.insertInto ?_
      intro table inserted
      refine ⟨.post entry table inserted owned (postable existing), ?_⟩
      exact holds table (.insert (fun _ => rfl) inserted)
        (by rw [Table.find?_insert?_self inserted]; rfl)

theorem unlimited_of_unbounded {experiment : Experiment} (one : amount = 1)
    (unbounded : ¬ ((limit? experiment.budget dimension).isSome ∧ 0 < amount)) :
    limit? experiment.budget dimension = none := by
  rw [← Option.not_isSome_iff_eq_none]
  intro limited
  exact unbounded ⟨limited, by omega⟩

/-- A statement of the ledger that consumes nothing. -/
theorem Legal.ledger (reserves : kind ≠ .consume) (one : amount = 1)
    (owner : db.ownerOf? subjectKind subjectId = some experimentId)
    (postable : ∀ pos, (db.limitOn experimentId dimension).isSome →
      db.entryOf subjectKind subjectId dimension kind = none →
      Postable L d db ⟨experimentId, dimension, kind, amount, subjectKind, subjectId, pos⟩)
    (holds : ∀ table, db.ledger.Persists (· = ·) table →
      (db.setLedger table).Accounted subjectKind subjectId dimension kind →
        post () d (db.setLedger table)) :
    Legal L (ledger experimentId dimension kind amount subjectKind subjectId actor destinations)
      d db post := by
  unfold Storage.ledger
  refine Legal.load fun (experiment : Experiment)
    (found : db.experiments.find? experimentId = some experiment) => ?_
  have limitEq : db.limitOn experimentId dimension = limit? experiment.budget dimension :=
    limitOn_of_find found
  refine .dite (fun bounded => ?_) (fun unbounded => ?_)
  · refine .read (.bind (Legal.appendEntry ⟨one, owner, limitEq ▸ bounded.1⟩
      (postable bounded.2 (limitEq ▸ bounded.1)) ?_))
    intro table kept written
    refine .ite (fun consumes => absurd consumes reserves) fun _ => .pure ?_
    exact holds table kept (accounted_of_entry written)
  · refine .pure (holds db.ledger (.refl fun _ => rfl) ?_)
    refine accounted_of_unlimited owner ?_
    exact limitEq.trans (unlimited_of_unbounded one unbounded)

/-- Where nothing was consumed, nothing is overrun. -/
theorem Legal.emitOverrun_same {experiment : Experiment}
    (holds : post () d db) :
    Legal L (emitOverrun experiment (db.budgetStatus experiment) dimension actor destinations)
      d db post := by
  unfold emitOverrun
  refine .read ?_
  cases statusOf (db.budgetStatus experiment) dimension with
  | none => exact .pure holds
  | some status =>
      refine .ite (fun crossed => ?_) fun _ => .pure holds
      simp at crossed

/-- A quota consumed, with the note of an overrun if it is one; not for failures. -/
theorem Legal.consume (quota : dimension ≠ .failures) (one : amount = 1)
    (owner : db.ownerOf? subjectKind subjectId = some experimentId)
    (postable : ∀ pos, db.entryOf subjectKind subjectId dimension .consume = none →
      Postable L d db ⟨experimentId, dimension, .consume, amount, subjectKind, subjectId, pos⟩)
    (holds : ∀ table events outbox, db.ledger.Persists (· = ·) table →
      (db.setBooks table events outbox).Accounted subjectKind
        subjectId dimension .consume →
        post () d (db.setBooks table events outbox)) :
    Legal L (Storage.ledger experimentId dimension .consume amount subjectKind subjectId actor
      destinations) d db post := by
  unfold Storage.ledger
  refine Legal.load fun (experiment : Experiment)
    (found : db.experiments.find? experimentId = some experiment) => ?_
  have limitEq : db.limitOn experimentId dimension = limit? experiment.budget dimension :=
    limitOn_of_find found
  refine .dite (fun bounded => ?_) (fun unbounded => ?_)
  · refine .read (.bind (Legal.appendEntry ⟨one, owner, limitEq ▸ bounded.1⟩
      (postable bounded.2) ?_))
    intro table kept written
    have accounted : ∀ events outbox,
        (db.setBooks table events outbox).Accounted
          subjectKind subjectId dimension .consume :=
      fun events outbox => accounted_of_entry written
    have unchanged := holds table db.events db.outbox kept (accounted _ _)
    refine .ite (fun _ => ?_) fun same => absurd rfl same
    unfold emitOverrun
    refine .read ?_
    have sameId : experiment.id = experimentId := Table.key_of_find? found
    split
    · refine .ite (fun _ => Legal.note ?_ ?_ ?_ ?_) fun _ => .pure unchanged
      · exact Table.find?_of_mem (Table.mem_of_find? found)
      · exact ⟨.inr (.inr (by decide)), by decide⟩
      · simpa [isPlain] using quota
      · exact holds table _ _ kept (accounted _ _)
    · exact .pure unchanged
  · refine .pure (holds db.ledger db.events db.outbox (.refl fun _ => rfl) ?_)
    refine accounted_of_unlimited owner ?_
    exact limitEq.trans (unlimited_of_unbounded one unbounded)

end Posting

/-! ## Failures -/

section Failures

variable {L : Licence} {d : Debt} {db : Db} {post : Unit → Debt → Db → Prop}
  {experimentId subjectId : String} {actor : Actor} {destinations : List String}

/-- The attempt a failure is counted for has failed. -/
def Db.attemptFailed (db : Db) (kind : AttemptKind) (id : String) : Prop :=
  match kind with
  | .trainingAttempt => ∃ attempt, db.attempts.find? id = some attempt ∧ attempt.status = .failed
  | .evaluationAttempt => ∃ attempt, db.evaluationAttempts.find? id = some attempt ∧
      attempt.status = .failed

theorem emitOverrun_failures (db : Db) (before : List BudgetLedgerEntry) (actor : Actor)
    (destinations : List String) {experiment : Experiment} {limit : Int}
    (limited : limit? experiment.budget .failures = some limit) :
    ∃ outbox, emitOverrun experiment (Core.budgetStatus experiment.budget before) .failures actor
        destinations db =
      .ok ((), db.setBooks db.ledger
        (db.events ++ overrunEvents experiment limit before (db.entries experiment.id) actor)
        outbox) := by
  by_cases crossed : ((dimensionStatus (db.entries experiment.id) .failures limit).overrun &&
      !(dimensionStatus before .failures limit).overrun) = true
  · refine ⟨db.outbox ++ destinations.map fun destination =>
      ⟨db.events.length + 1, destination⟩, ?_⟩
    simp only [emitOverrun, Transaction.bind_apply, Transaction.read_apply, Db.budgetStatus,
      statusOf_budgetStatus, limited, Option.map_some, if_pos crossed, overrunEvents, emit,
      Transaction.write_apply, Db.record]
    rfl
  · refine ⟨db.outbox, ?_⟩
    simp only [emitOverrun, Transaction.bind_apply, Transaction.read_apply, Db.budgetStatus,
      statusOf_budgetStatus, limited, Option.map_some, if_neg crossed, overrunEvents,
      List.append_nil, Transaction.pure_apply]
    rfl

/-- A failure is counted once, with the event of the overrun it causes. -/
theorem Legal.failure (kind : AttemptKind)
    (owner : db.ownerOf? (budgetSubject kind) subjectId = some experimentId)
    (failed : db.attemptFailed kind subjectId)
    (holds : ∀ table events outbox, db.ledger.Persists (· = ·) table →
      (db.setBooks table events outbox).Accounted
        (budgetSubject kind) subjectId .failures .consume →
        post () d (db.setBooks table events outbox)) :
    Legal L (Storage.ledger experimentId .failures .consume 1 (budgetSubject kind) subjectId actor
      destinations) d db post := by
  unfold Storage.ledger
  refine Legal.load fun (experiment : Experiment)
    (found : db.experiments.find? experimentId = some experiment) => ?_
  have limitEq : db.limitOn experimentId .failures = limit? experiment.budget .failures :=
    limitOn_of_find found
  refine .dite (fun bounded => ?_) (fun unbounded => ?_)
  · refine .read ?_
    obtain ⟨limit, limited⟩ := Option.isSome_iff_exists.mp bounded.1
    let entry : BudgetLedgerEntry :=
      ⟨experimentId, .failures, .consume, 1, budgetSubject kind, subjectId, bounded.2⟩
    cases existing : db.ledger.find? entry.key with
    | some stored =>
        have written : (db.entryOf (budgetSubject kind) subjectId .failures .consume).isSome :=
          Option.isSome_iff_exists.mpr ⟨stored, existing⟩
        refine .bind ?_
        unfold Storage.appendEntry
        refine .read ?_
        rw [existing]
        refine .check fun _ => .ite (fun _ => Legal.emitOverrun_same ?_) fun same => absurd rfl same
        exact holds db.ledger db.events db.outbox (.refl fun _ => rfl)
          (accounted_of_entry written)
    | none =>
        have absent : db.ledger.find? entry.key = none := existing
        cases inserted : db.ledger.insert? entry with
        | none =>
            intro _ _ _ ran
            simp [Transaction.bind_apply, Storage.appendEntry, entry, absent,
              Storage.insertInto, inserted] at ran
        | some table =>
            obtain ⟨outbox, ran⟩ := emitOverrun_failures (db.setLedger table)
              (db.entries experiment.id) actor destinations limited
            have first : Storage.appendEntry entry db = .ok ((), db.setLedger table) := by
              simp only [Storage.appendEntry, Transaction.bind_apply, Transaction.read_apply,
                absent, Storage.insertInto, inserted]
              rfl
            refine Legal.step (a := ()) ?_
              (.fail entry table kind experiment limit actor outbox inserted
              ⟨rfl, owner, limitEq ▸ bounded.1⟩ ⟨rfl, rfl, rfl⟩ ?_ found limited) ?_
            · rw [Transaction.bind_apply, first]
              exact ran
            · cases kind <;> exact failed
            · refine holds table _ _ (.insert (fun _ => rfl) inserted) (accounted_of_entry ?_)
              exact Option.isSome_iff_exists.mpr ⟨entry, Table.find?_insert?_self inserted⟩
  · refine .pure (holds db.ledger db.events db.outbox (.refl fun _ => rfl) ?_)
    refine accounted_of_unlimited owner ?_
    exact limitEq.trans (unlimited_of_unbounded rfl unbounded)

end Failures

/-! ## Settlements -/

section Settlements

variable {L : Licence} {d : Debt} {db : Db} {post : Unit → Debt → Db → Prop}
  {experimentId : String} {actor : Actor} {destinations : List String}

theorem Legal.settleReservation {dimension : BudgetDimension} {kind : LedgerEntryKind}
    {subjectKind : BudgetSubjectKind} {subjectId : String} (reserves : kind ≠ .consume)
    (owner : db.ownerOf? subjectKind subjectId = some experimentId)
    (reserved : db.Accounted subjectKind subjectId dimension .reserve)
    (postable : ∀ amount pos, (db.limitOn experimentId dimension).isSome →
      db.entryOf subjectKind subjectId dimension kind = none →
      Postable L d db ⟨experimentId, dimension, kind, amount, subjectKind, subjectId, pos⟩)
    (holds : ∀ table, db.ledger.Persists (· = ·) table →
      (db.setLedger table).Accounted subjectKind subjectId dimension kind →
        post () d (db.setLedger table)) :
    Legal L (settleReservation experimentId dimension kind subjectKind subjectId actor
      destinations) d db post := by
  unfold Storage.settleReservation
  refine .assume fun sound => .read ?_
  cases existing : db.entryOf subjectKind subjectId dimension .reserve with
  | none =>
      refine .pure (holds db.ledger (.refl fun _ => rfl) ?_)
      refine accounted_of_unlimited owner (Option.not_isSome_iff_eq_none.mp ?_)
      intro limited
      have written := reserved experimentId owner limited
      rw [existing] at written
      cases written
  | some entry =>
      have one : entry.amount = 1 := sound.amounts _ entry existing
      exact Legal.ledger reserves one owner (postable entry.amount) holds

/-- A confirmed training submission commits its slot and its run, unless the run ended
unsubmitted. -/
theorem Legal.commitBudget {attemptId : String} {attempt : RunAttempt} {run : Run}
    (attemptFound : db.attempts.find? attemptId = some attempt)
    (runFound : db.runs.find? attempt.runId = some run) (owner : run.experimentId = experimentId)
    (reserved : .slot attemptId ∉ d ∧ .quota attempt.runId ∉ d)
    (inTime : L.late ∨ run.isTerminal = false ∨
      (db.entryOf .run attempt.runId .runs .commit).isSome ∨
      db.limitOn experimentId .runs = none)
    (holds : ∀ table, db.ledger.Persists (· = ·) table →
      (db.setLedger table).Accounted .trainingAttempt attemptId .parallelRuns .commit →
      (db.setLedger table).Accounted .run attempt.runId .runs .commit →
        post () d (db.setLedger table)) :
    Legal L (commitBudget experimentId attemptId actor destinations) d db post := by
  unfold Storage.commitBudget
  refine .assume fun sound => Legal.load fun (stored : RunAttempt)
    (found : db.attempts.find? attemptId = some stored) => ?_
  rw [attemptFound, Option.some.injEq] at found
  subst found
  have runOwner : db.ownerOf? .run attempt.runId = some experimentId :=
    Option.map_eq_some_iff.mpr ⟨run, runFound, owner⟩
  have slotOwner : db.ownerOf? .trainingAttempt attemptId = some experimentId :=
    Option.bind_eq_some_iff.mpr ⟨attempt, attemptFound, runOwner⟩
  have slot := (sound.slots attemptId attempt attemptFound).resolve_left reserved.1
  have quota := (sound.quotas attempt.runId run runFound).resolve_left reserved.2
  refine .bind (Legal.settleReservation (by decide) slotOwner slot (fun _ _ _ _ => trivial) ?_)
  intro table kept slotCommitted
  refine Legal.settleReservation (by decide) runOwner (quota.grow kept) ?_ ?_
  · intro amount pos limited absent
    rcases inTime with late | open_ | committed | unlimited
    · exact .inl late
    · exact .inr ⟨run, runFound, open_⟩
    · obtain ⟨entry, found⟩ := Option.isSome_iff_exists.mp committed
      obtain ⟨_, found', _⟩ := kept _ entry found
      rw [show (db.setLedger table).entryOf .run attempt.runId .runs .commit = some _ from found']
        at absent
      cases absent
    · rw [show (db.setLedger table).limitOn experimentId .runs = none from unlimited] at limited
      cases limited
  · intro table' kept' runCommitted
    exact holds table' (kept.trans (fun _ _ _ => Eq.trans) kept') (slotCommitted.grow kept')
      runCommitted

/-- An ended training attempt: its failure is counted and its slot released. -/
theorem Legal.settleRunAttempt {attempt : RunAttempt}
    (found : db.attempts.find? attempt.id = some attempt) (reserved : .slot attempt.id ∉ d)
    (holds : ∀ table events outbox, db.ledger.Persists (· = ·) table →
      (attempt.isTerminal = true →
        (db.setBooks table events outbox).Accounted .trainingAttempt attempt.id .parallelRuns
          .release) →
      (attempt.status = .failed →
        (db.setBooks table events outbox).Accounted .trainingAttempt attempt.id .failures
          .consume) → post () d (db.setBooks table events outbox)) :
    Legal L (settleRunAttempt attempt actor destinations) d db post := by
  unfold Storage.settleRunAttempt
  refine .assume fun sound => .ite (fun ended => ?_) fun live => ?_
  · unfold experimentOfRun
    refine .bind (Legal.load fun (run : Run)
      (runFound : db.runs.find? attempt.runId = some run) => .pure ?_)
    have owner : db.ownerOf? .trainingAttempt attempt.id = some run.experimentId :=
      Option.bind_eq_some_iff.mpr ⟨attempt, found, Option.map_eq_some_iff.mpr ⟨run, runFound, rfl⟩⟩
    have slot := (sound.slots attempt.id attempt found).resolve_left reserved
    have released : ∀ table events outbox, db.ledger.Persists (· = ·) table →
        (attempt.status = .failed →
          (db.setBooks table events outbox).Accounted .trainingAttempt attempt.id .failures
            .consume) →
        Legal L (release run.experimentId .parallelRuns .trainingAttempt attempt.id actor
          destinations) d (db.setBooks table events outbox) post := by
      intro table events outbox kept counted
      unfold release
      refine Legal.settleReservation (by decide) owner (slot.grow kept) ?_ ?_
      · intro _ _ _ _
        exact ⟨attempt, found, ended⟩
      · intro table' kept' accounted
        exact holds table' events outbox (kept.trans (fun _ _ _ => Eq.trans) kept')
          (fun _ => accounted) fun failed => (counted failed).grow kept'
    unfold settleAttempt
    refine .bind (.ite (fun failed => ?_) fun succeeded => .pure ?_)
    · have hasFailed : attempt.status = .failed := by simpa using failed
      refine Legal.failure .trainingAttempt owner ⟨attempt, found, hasFailed⟩ ?_
      intro table events outbox kept accounted
      exact released table events outbox kept fun _ => accounted
    · refine released db.ledger db.events db.outbox (.refl fun _ => rfl) fun failed => ?_
      simp [failed] at succeeded
  · refine .pure (holds db.ledger db.events db.outbox (.refl fun _ => rfl)
      (fun ended => absurd ended live) fun failed => ?_)
    simp [RunAttempt.isTerminal, failed, attemptMachine, StateMachine.isTerminal] at live

theorem Legal.settleEvaluationAttempt {attempt : EvaluationAttempt}
    (found : db.evaluationAttempts.find? attempt.id = some attempt)
    (holds : ∀ table events outbox, db.ledger.Persists (· = ·) table →
      (attempt.status = .failed →
        (db.setBooks table events outbox).Accounted .evaluationAttempt attempt.id .failures
          .consume) → post () d (db.setBooks table events outbox)) :
    Legal L (settleEvaluationAttempt attempt actor destinations) d db post := by
  unfold Storage.settleEvaluationAttempt
  have unchanged : (attempt.status ≠ .failed) →
    post () d (db.setBooks db.ledger db.events db.outbox) :=
    fun other => holds _ _ _ (.refl fun _ => rfl) fun failed => absurd failed other
  refine .ite (fun ended => ?_) fun live => ?_
  · unfold experimentOfEvaluationRun
    refine .bind (Legal.load fun (run : EvaluationRun)
      (runFound : db.evaluationRuns.find? attempt.evaluationRunId = some run) => .pure ?_)
    have owner : db.ownerOf? .evaluationAttempt attempt.id = some run.experimentId :=
      Option.bind_eq_some_iff.mpr ⟨attempt, found, Option.map_eq_some_iff.mpr ⟨run, runFound, rfl⟩⟩
    unfold settleAttempt
    refine .ite (fun failed => ?_) fun succeeded => .pure (unchanged (by simpa using succeeded))
    have hasFailed : attempt.status = .failed := by simpa using failed
    refine Legal.failure .evaluationAttempt owner ⟨attempt, found, hasFailed⟩ ?_
    intro table events outbox kept accounted
    exact holds table events outbox kept fun _ => accounted
  · refine .pure (unchanged ?_)
    intro failed
    simp [EvaluationAttempt.isTerminal, failed, evaluationAttemptMachine,
      StateMachine.isTerminal] at live

/-- An ended run: its quota is consumed if it was committed, and released if not. -/
theorem Legal.settleRun {run : Run} (found : db.runs.find? run.id = some run)
    (reserved : .quota run.id ∉ d)
    (holds : ∀ table events outbox, db.ledger.Persists (· = ·) table →
      (run.isTerminal = true →
        (db.setBooks table events outbox).Accounted .run run.id .runs .release ∨
          (db.setBooks table events outbox).Accounted .run run.id .runs .consume) →
      post () d (db.setBooks table events outbox)) :
    Legal L (settleRun run actor destinations) d db post := by
  unfold Storage.settleRun
  refine .assume fun sound => .ite (fun ended => ?_) fun live => ?_
  · have owner := sound.ownerOfRun found
    have quota := (sound.quotas run.id run found).resolve_left reserved
    refine .read ?_
    cases existing : db.entryOf .run run.id .runs .reserve with
    | none =>
        refine .pure (holds db.ledger db.events db.outbox (.refl fun _ => rfl) fun _ => .inl ?_)
        refine accounted_of_unlimited owner (Option.not_isSome_iff_eq_none.mp ?_)
        intro limited
        have written := quota _ owner limited
        rw [existing] at written
        cases written
    | some entry =>
        refine .read ?_
        cases committed : db.entryOf .run run.id .runs .commit with
        | none =>
            simp only
            unfold release
            refine Legal.settleReservation (by decide) owner quota ?_ ?_
            · intro _ _ _ _
              exact ⟨⟨run, found, ended⟩, .inr committed⟩
            · intro table kept accounted
              exact holds table db.events db.outbox kept fun _ => .inl accounted
        | some _ =>
            refine Legal.consume (by decide) (sound.amounts _ entry existing) owner ?_ ?_
            · intro _ _
              exact ⟨⟨run, found, ended⟩, .inr (by rw [committed]; rfl)⟩
            · intro table events outbox kept accounted
              exact holds table events outbox kept fun _ => .inr accounted
  · exact .pure (holds db.ledger db.events db.outbox (.refl fun _ => rfl)
      fun ended => absurd ended live)

end Settlements

end Xaytune.Storage
