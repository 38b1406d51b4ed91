import Xaytune.Storage.Balances

/-!
# Capacity and failures

A training attempt holds one parallel-run slot from its creation to its end, and an
attempt that failed is counted once. Both are read off the ledger, so both are proved
of the ledger: every ended attempt has its release, every failed attempt its
consumption, and nothing else has one.
-/

namespace Xaytune.Storage

open Xaytune.Core Xaytune.Library

/-- The training attempts of an experiment that have not ended. -/
def Db.liveAttempts (db : Db) (experimentId : String) : List String :=
  db.attempts.keysWhere fun attempt =>
    db.ownerOf? .trainingAttempt attempt.id = some experimentId && !attempt.isTerminal

/-- The attempts of one kind of an experiment that failed. -/
def Db.failedAttempts (db : Db) (experimentId : String) : AttemptKind → List String
  | .trainingAttempt => db.attempts.keysWhere fun attempt =>
      db.ownerOf? .trainingAttempt attempt.id = some experimentId && attempt.status = .failed
  | .evaluationAttempt => db.evaluationAttempts.keysWhere fun attempt =>
      db.ownerOf? .evaluationAttempt attempt.id = some experimentId && attempt.status = .failed

/-- The events that report an experiment's failures past their limit. -/
def isFailureOverrun (experimentId : String) (event : DomainEvent) : Bool :=
  event.experimentId = experimentId && event.eventType = "BudgetOverrun" &&
    match event.extra with
    | .overrun .failures _ _ => true
    | _ => false

def Db.failureOverruns (db : Db) (experimentId : String) : List DomainEvent :=
  db.events.filter (isFailureOverrun experimentId)

theorem limit?_nonneg {spec : Option BudgetSpec} {dimension : BudgetDimension} {limit : Int}
    (limited : limit? spec dimension = some limit) : 0 ≤ limit := by
  obtain ⟨budget, _, bound⟩ := Option.bind_eq_some_iff.mp limited
  cases dimension <;> obtain ⟨n, _, rfl⟩ := Option.map_eq_some_iff.mp bound <;>
    exact Int.natCast_nonneg n

/-! ## Every end has its entry -/

/-- The slots given back and the failures counted at a point where `d` is owed. -/
structure Ended (d : Debt) (db : Db) : Prop where
  released : ∀ id attempt, db.attempts.find? id = some attempt → attempt.isTerminal = true →
    .release id ∈ d ∨ db.Accounted .trainingAttempt id .parallelRuns .release
  onlyEnded : ∀ id, (db.entryOf .trainingAttempt id .parallelRuns .release).isSome →
    ∃ attempt, db.attempts.find? id = some attempt ∧ attempt.isTerminal = true
  counted : ∀ kind id, db.attemptFailed kind id →
    .failure kind id ∈ d ∨ db.Accounted (budgetSubject kind) id .failures .consume
  onlyFailed : ∀ kind id, (db.entryOf (budgetSubject kind) id .failures .consume).isSome →
    db.attemptFailed kind id

theorem Ended.empty : Ended [] Db.empty where
  released := by
    intro _ _ found
    cases found
  onlyEnded := by
    intro _ found
    cases found
  counted := by
    intro kind _ failed
    cases kind <;> obtain ⟨_, found, _⟩ := failed <;> cases found
  onlyFailed := by
    intro _ _ found
    cases found

section Kept

variable {L : Licence} {d d' : Debt} {db db' : Db}

/-- What is owed stays owed or is paid, and what is accounted stays accounted. -/
theorem Write.owed_or_accounted {owed : Owed} {subject : BudgetSubjectKind}
    {id experimentId : String}
    {dimension : BudgetDimension} {kind : LedgerEntryKind} (write : Write L d db d' db')
    (sound : Sound d db) (owner : db.ownerOf? subject id = some experimentId)
    (paid : Paid db owed → db.Accounted subject id dimension kind)
    (before : owed ∈ d ∨ db.Accounted subject id dimension kind) :
    owed ∈ d' ∨ db'.Accounted subject id dimension kind := by
  rcases before with due | done
  · by_cases isPaid : Paid db owed
    · exact .inr ((paid isPaid).grows sound write.grows owner)
    · exact .inl (write.still_owed due isPaid)
  · exact .inr (done.grows sound write.grows owner)

theorem Sound.ownerOfEvaluationAttempt (sound : Sound d db) {id : String}
    {attempt : EvaluationAttempt} (found : db.evaluationAttempts.find? id = some attempt) :
    ∃ experimentId, db.ownerOf? .evaluationAttempt id = some experimentId := by
  obtain ⟨run, runFound⟩ := sound.evaluationAttempts id attempt found
  exact ⟨run.experimentId, Option.bind_eq_some_iff.mpr
    ⟨attempt, found, Option.map_eq_some_iff.mpr ⟨run, runFound, rfl⟩⟩⟩

theorem Sound.ownerOfFailed (sound : Sound d db) {kind : AttemptKind} {id : String}
    (failed : db.attemptFailed kind id) :
    ∃ experimentId, db.ownerOf? (budgetSubject kind) id = some experimentId := by
  cases kind with
  | trainingAttempt =>
      obtain ⟨attempt, found, _⟩ := failed
      exact sound.ownerOfAttempt found
  | evaluationAttempt =>
      obtain ⟨attempt, found, _⟩ := failed
      exact sound.ownerOfEvaluationAttempt found

/-- A failed attempt stays failed. -/
theorem Grows.attemptFailed (grows : Grows db db') {kind : AttemptKind} {id : String}
    (failed : db.attemptFailed kind id) : db'.attemptFailed kind id := by
  cases kind with
  | trainingAttempt =>
      obtain ⟨attempt, found, isFailed⟩ := failed
      obtain ⟨_, found', _, _, _, rfl, same⟩ := grows.attempts id attempt found
      exact ⟨_, found', (same (by rw [RunAttempt.isTerminal, isFailed]; rfl)).trans isFailed⟩
  | evaluationAttempt =>
      obtain ⟨attempt, found, isFailed⟩ := failed
      obtain ⟨_, found', _, _, rfl, same⟩ := grows.evaluationAttempts id attempt found
      exact ⟨_, found', (same (by rw [EvaluationAttempt.isTerminal, isFailed]; rfl)).trans isFailed⟩

/-- An attempt that a write ends owes the release of its slot. -/
theorem Write.ends_attempt {id : String} {attempt : RunAttempt} (write : Write L d db d' db')
    (found : db'.attempts.find? id = some attempt) (ended : attempt.isTerminal = true) :
    (∃ old, db.attempts.find? id = some old ∧ old.isTerminal = true) ∨ .release id ∈ d' := by
  cases write with
  | insertAttempt row table inserted new =>
      rcases (Table.find?_insert? inserted).mp found with ⟨rfl, rfl⟩ | ⟨_, stored⟩
      · rw [RunAttempt.isTerminal, new.created] at ended
        cases ended
      · exact .inl ⟨attempt, stored, ended⟩
  | moveAttempt old new stored moved =>
      rcases (Table.find?_replace stored).mp found with ⟨rfl, rfl⟩ | ⟨_, other⟩
      · cases was : old.isTerminal with
        | true => exact .inl ⟨old, stored, was⟩
        | false =>
            refine .inr (List.mem_cons_of_mem _ (List.mem_append_left _ ?_))
            unfold attemptDebt
            rw [if_pos ⟨ended, by rw [was]; rfl⟩]
            exact List.mem_cons_self
      · exact .inl ⟨attempt, other, ended⟩
  | _ => exact .inl ⟨attempt, found, ended⟩

/-- An attempt that a write fails owes its count. -/
theorem Write.fails_attempt {kind : AttemptKind} {id : String} (write : Write L d db d' db')
    (failed : db'.attemptFailed kind id) : db.attemptFailed kind id ∨ .failure kind id ∈ d' := by
  cases kind with
  | trainingAttempt =>
      obtain ⟨attempt, found, isFailed⟩ := failed
      cases write with
      | insertAttempt row table inserted new =>
          rcases (Table.find?_insert? inserted).mp found with ⟨rfl, rfl⟩ | ⟨_, stored⟩
          · rw [new.created] at isFailed
            cases isFailed
          · exact .inl ⟨attempt, stored, isFailed⟩
      | moveAttempt old new stored moved =>
          rcases (Table.find?_replace stored).mp found with ⟨rfl, rfl⟩ | ⟨_, other⟩
          · have ended : attempt.isTerminal = true := by
              rw [RunAttempt.isTerminal, isFailed]
              rfl
            obtain ⟨_, _, permitted, rfl⟩ := moved
            rcases permitted with can | same
            · have was : old.isTerminal = false := StateMachine.not_terminal_of_can can
              refine .inr (List.mem_cons_of_mem _ (List.mem_append_left _ ?_))
              unfold attemptDebt
              rw [if_pos ⟨ended, by rw [was]; rfl⟩, if_pos isFailed]
              exact List.mem_cons_of_mem _ List.mem_cons_self
            · exact .inl ⟨old, stored, same ▸ isFailed⟩
          · exact .inl ⟨attempt, other, isFailed⟩
      | _ => exact .inl ⟨attempt, found, isFailed⟩
  | evaluationAttempt =>
      obtain ⟨attempt, found, isFailed⟩ := failed
      cases write with
      | insertEvaluationAttempt row table inserted new =>
          rcases (Table.find?_insert? inserted).mp found with ⟨rfl, rfl⟩ | ⟨_, stored⟩
          · rw [new.created] at isFailed
            cases isFailed
          · exact .inl ⟨attempt, stored, isFailed⟩
      | moveEvaluationAttempt old new stored moved =>
          rcases (Table.find?_replace stored).mp found with ⟨rfl, rfl⟩ | ⟨_, other⟩
          · refine .inr
              (List.mem_cons_of_mem _ (List.mem_append_left _ (List.mem_append_left _ ?_)))
            unfold evaluationAttemptDebt
            rw [if_pos isFailed]
            exact List.mem_cons_self
          · exact .inl ⟨attempt, other, isFailed⟩
      | _ => exact .inl ⟨attempt, found, isFailed⟩

theorem Write.ended (write : Write L d db d' db') (sound : Sound d db) (ended : Ended d db) :
    Ended d' db' where
  released := by
    intro id attempt found isEnded
    rcases write.ends_attempt found isEnded with ⟨old, stored, was⟩ | due
    · obtain ⟨_, owner⟩ := sound.ownerOfAttempt stored
      exact write.owed_or_accounted sound owner (fun paid => paid)
        (ended.released id old stored was)
    · exact .inl due
  onlyEnded := by
    intro id written
    obtain ⟨entry, found⟩ := Option.isSome_iff_exists.mp written
    have before : ∃ attempt, db.attempts.find? id = some attempt ∧ attempt.isTerminal = true := by
      rcases write.entry_origin found with
        stored | ⟨_, isKey, _, postable | ⟨_, isFailure, _⟩⟩
      · exact ended.onlyEnded id (Option.isSome_iff_exists.mpr ⟨entry, stored⟩)
      · unfold BudgetLedgerEntry.key at isKey
        injection isKey with subject isId dimension kind
        unfold Postable at postable
        rw [dimension, kind, subject, isId] at postable
        exact postable
      · have isSlot : entry.dimension = .parallelRuns := congrArg LedgerKey.dimension isKey
        exact absurd (isFailure.symm.trans isSlot) (by decide)
    obtain ⟨attempt, stored, was⟩ := before
    obtain ⟨attempt', found', later⟩ := write.grows.attempts id attempt stored
    exact ⟨attempt', found', later.isTerminal was⟩
  counted := by
    intro kind id failed
    rcases write.fails_attempt failed with was | due
    · obtain ⟨_, owner⟩ := sound.ownerOfFailed was
      exact write.owed_or_accounted sound owner (fun paid => paid) (ended.counted kind id was)
    · exact .inl due
  onlyFailed := by
    intro kind id written
    obtain ⟨entry, found⟩ := Option.isSome_iff_exists.mp written
    refine write.grows.attemptFailed ?_
    rcases write.entry_origin found with
      stored | ⟨_, isKey, _, postable | ⟨kind', _, _, subject', failed⟩⟩
    · exact ended.onlyFailed kind id (Option.isSome_iff_exists.mpr ⟨entry, stored⟩)
    · unfold BudgetLedgerEntry.key at isKey
      injection isKey with subject isId dimension entryKind
      unfold Postable at postable
      rw [dimension, entryKind] at postable
      cases postable
    · unfold BudgetLedgerEntry.key at isKey
      injection isKey with subject isId
      have sameKind : kind' = kind := by
        have same := subject'.symm.trans subject
        cases kind <;> cases kind' <;> first | rfl | cases same
      exact sameKind ▸ isId ▸ failed

end Kept

/-! ## The balances at a commit -/

section Balances

variable {db : Db} {experimentId : String} {limit : Int}

/-- Entries of one shape are as many as the subjects of the experiment that have one. -/
theorem length_subjects_of_shape (entered : Entered db) {dimension : BudgetDimension}
    {kind : LedgerEntryKind} {subject : BudgetSubjectKind} {ids : List String} (nodup : ids.Nodup)
    (shape : ∀ key, LedgerShape key → key.dimension = dimension → key.kind = kind →
      key.subjectKind = subject)
    (have_one : ∀ id, id ∈ ids ↔ db.ownerOf? subject id = some experimentId ∧
      (db.entryOf subject id dimension kind).isSome) :
    (db.subjects experimentId dimension kind).length = ids.length := by
  refine length_subjects nodup subject fun key => ?_
  rw [Db.mem_subjects, have_one]
  constructor
  · rintro ⟨entry, found, rfl, rfl, rfl⟩
    have isSubject := shape key (entered.shape key entry found) rfl rfl
    subst isSubject
    exact ⟨rfl, rfl, rfl, entered.owner key entry found,
      Option.isSome_iff_exists.mpr ⟨entry, found⟩⟩
  · rintro ⟨rfl, rfl, rfl, owner, written⟩
    obtain ⟨entry, found⟩ := Option.isSome_iff_exists.mp written
    have same := (entered.owner key entry found).symm.trans owner
    exact ⟨entry, found, Option.some.inj same, rfl, rfl⟩

theorem Db.mem_liveAttempts {id : String} :
    id ∈ db.liveAttempts experimentId ↔
      db.ownerOf? .trainingAttempt id = some experimentId ∧
        ∃ attempt, db.attempts.find? id = some attempt ∧ attempt.isTerminal = false := by
  unfold Db.liveAttempts
  rw [Table.mem_keysWhere_and db.attempts
    (fun id => db.ownerOf? .trainingAttempt id = some experimentId)
    (fun attempt => !attempt.isTerminal)]
  simp

theorem Db.mem_failedAttempts {id : String} {kind : AttemptKind} :
    id ∈ db.failedAttempts experimentId kind ↔
      db.ownerOf? (budgetSubject kind) id = some experimentId ∧ db.attemptFailed kind id := by
  cases kind with
  | trainingAttempt =>
      unfold Db.failedAttempts
      rw [Table.mem_keysWhere_and db.attempts
        (fun id => db.ownerOf? .trainingAttempt id = some experimentId)
        (fun attempt => attempt.status = .failed)]
      simp [budgetSubject, Db.attemptFailed]
  | evaluationAttempt =>
      unfold Db.failedAttempts
      rw [Table.mem_keysWhere_and db.evaluationAttempts
        (fun id => db.ownerOf? .evaluationAttempt id = some experimentId)
        (fun attempt => attempt.status = .failed)]
      simp [budgetSubject, Db.attemptFailed]

/-- At a commit, what is reserved and not released is held by the live attempts. -/
theorem outstanding_eq_live (sound : Sound [] db) (entered : Entered db) (ended : Ended [] db)
    (limited : (db.limitOn experimentId .parallelRuns).isSome) :
    (dimensionStatus (db.entries experimentId) .parallelRuns limit).outstanding =
      (db.liveAttempts experimentId).length := by
  have ofAttempts : ∀ kind key, LedgerShape key → key.dimension = .parallelRuns →
      key.kind = kind → key.subjectKind = .trainingAttempt := by
    rintro _ ⟨subject, _, _, kind⟩ shape rfl rfl
    cases subject <;> cases kind <;> first | rfl | cases shape
  have reserved : (db.subjects experimentId .parallelRuns .reserve).length =
      (db.attempts.keysWhere fun attempt =>
        db.ownerOf? .trainingAttempt attempt.id = some experimentId).length := by
    refine length_subjects_of_shape entered (Table.nodup_keysWhere _ _) (ofAttempts _) fun id => ?_
    rw [Table.mem_keysWhere]
    constructor
    · rintro ⟨attempt, found, owner⟩
      have isId : attempt.id = id := Table.key_of_find? found
      rw [isId, decide_eq_true_iff] at owner
      exact ⟨owner, (sound.slots id attempt found).resolve_left List.not_mem_nil _ owner limited⟩
    · rintro ⟨owner, _⟩
      obtain ⟨attempt, found, _⟩ := Option.bind_eq_some_iff.mp owner
      have isId : attempt.id = id := Table.key_of_find? found
      exact ⟨attempt, found, by rw [isId]; exact decide_eq_true owner⟩
  have released : (db.subjects experimentId .parallelRuns .release).length =
      (db.attempts.keysWhere fun attempt =>
        db.ownerOf? .trainingAttempt attempt.id = some experimentId &&
          attempt.isTerminal).length := by
    refine length_subjects_of_shape entered (Table.nodup_keysWhere _ _) (ofAttempts _) fun id => ?_
    rw [Table.mem_keysWhere_and db.attempts
      (fun id => db.ownerOf? .trainingAttempt id = some experimentId) RunAttempt.isTerminal,
      decide_eq_true_iff]
    refine and_congr_right fun owner => ⟨?_, ended.onlyEnded id⟩
    rintro ⟨attempt, found, isEnded⟩
    exact (ended.released id attempt found isEnded).resolve_left List.not_mem_nil _ owner limited
  have consumed : (db.subjects experimentId .parallelRuns .consume).length = 0 := by
    rw [List.length_eq_zero_iff, List.eq_nil_iff_forall_not_mem]
    intro key member
    obtain ⟨entry, found, _, dimension, kind⟩ := Db.mem_subjects.mp member
    have shape := entered.shape key entry found
    unfold LedgerShape at shape
    rw [dimension, kind] at shape
    exact shape
  have split := Table.length_keysWhere_split db.attempts
    (fun attempt => db.ownerOf? .trainingAttempt attempt.id = some experimentId)
    RunAttempt.isTerminal
  have live : (dimensionStatus (db.entries experimentId) .parallelRuns limit).outstanding =
      max (((db.subjects experimentId .parallelRuns .reserve).length : Int) -
        (db.subjects experimentId .parallelRuns .consume).length -
        (db.subjects experimentId .parallelRuns .release).length) 0 := by
    unfold dimensionStatus
    simp only [ledgerTotal_eq sound.amounts]
  rw [live, reserved, released, consumed, split]
  unfold Db.liveAttempts
  omega

/-- At a commit, what is consumed of the failures is the attempts that failed. -/
theorem consumed_eq_failed (sound : Sound [] db) (entered : Entered db) (ended : Ended [] db)
    (limited : (db.limitOn experimentId .failures).isSome) :
    (dimensionStatus (db.entries experimentId) .failures limit).consumed =
      (db.failedAttempts experimentId .trainingAttempt).length +
        (db.failedAttempts experimentId .evaluationAttempt).length := by
  have asKeys : (db.subjects experimentId .failures .consume).length =
      (((db.failedAttempts experimentId .trainingAttempt).map fun id =>
          (⟨.trainingAttempt, id, .failures, .consume⟩ : LedgerKey)) ++
        (db.failedAttempts experimentId .evaluationAttempt).map fun id =>
          (⟨.evaluationAttempt, id, .failures, .consume⟩ : LedgerKey)).length := by
    refine Table.length_eq_of_mem_iff (Table.nodup_keysWhere _ _) ?_ fun key => ?_
    · refine List.Nodup.append ?_ ?_ ?_
      · exact (Table.nodup_keysWhere _ _).map fun _ _ same => congrArg LedgerKey.subjectId same
      · exact (Table.nodup_keysWhere _ _).map fun _ _ same => congrArg LedgerKey.subjectId same
      · intro key ofTraining ofEvaluation
        obtain ⟨_, _, rfl⟩ := List.mem_map.mp ofTraining
        obtain ⟨_, _, same⟩ := List.mem_map.mp ofEvaluation
        cases same
    · rw [List.mem_append, List.mem_map, List.mem_map]
      constructor
      · intro member
        obtain ⟨entry, found, rfl, dimension, kind⟩ := Db.mem_subjects.mp member
        have shape := entered.shape key entry found
        have owner := entered.owner key entry found
        obtain ⟨subject, id, _, _⟩ := key
        subst dimension
        subst kind
        have written : ∀ kind, subject = budgetSubject kind →
            id ∈ db.failedAttempts entry.experimentId kind := by
          rintro kind rfl
          exact Db.mem_failedAttempts.mpr
            ⟨owner, ended.onlyFailed kind id (Option.isSome_iff_exists.mpr ⟨entry, found⟩)⟩
        cases subject with
        | run => cases shape
        | trainingAttempt => exact .inl ⟨id, written .trainingAttempt rfl, rfl⟩
        | evaluationAttempt => exact .inr ⟨id, written .evaluationAttempt rfl, rfl⟩
      · have listed : ∀ kind id, id ∈ db.failedAttempts experimentId kind →
            (⟨budgetSubject kind, id, .failures, .consume⟩ : LedgerKey) ∈
              db.subjects experimentId .failures .consume := by
          intro kind id member
          obtain ⟨owner, failed⟩ := Db.mem_failedAttempts.mp member
          obtain ⟨entry, found⟩ := Option.isSome_iff_exists.mp
            ((ended.counted kind id failed).resolve_left List.not_mem_nil _ owner limited)
          have same := (entered.owner _ entry found).symm.trans owner
          exact Db.mem_subjects.mpr ⟨entry, found, Option.some.inj same, rfl, rfl⟩
        rintro (⟨id, member, rfl⟩ | ⟨id, member, rfl⟩)
        · exact listed .trainingAttempt id member
        · exact listed .evaluationAttempt id member
  have total : (dimensionStatus (db.entries experimentId) .failures limit).consumed =
      (db.subjects experimentId .failures .consume).length := ledgerTotal_eq sound.amounts
  rw [total, asKeys, List.length_append, List.length_map, List.length_map]
  exact Int.natCast_add _ _

end Balances

/-! ## The limits hold -/

/-- No more attempts are live than there are slots, and a crossing was reported once. -/
structure WithinLimits (db : Db) : Prop where
  slots : ∀ experimentId limit, db.limitOn experimentId .parallelRuns = some limit →
    ((db.liveAttempts experimentId).length : Int) ≤ limit
  overruns : ∀ experimentId, (db.failureOverruns experimentId).length =
    match db.limitOn experimentId .failures with
    | none => 0
    | some limit =>
        if limit < ledgerTotal (db.entries experimentId) .failures .consume then 1 else 0

theorem WithinLimits.empty : WithinLimits Db.empty where
  slots := by
    intro _ _ limited
    cases limited
  overruns := by
    intro _
    rfl

section Limits

variable {L : Licence} {d d' : Debt} {db db' : Db}

/-- A limit is set when its experiment is created, and never changed. -/
theorem Write.limitOn_origin (write : Write L d db d' db') (experimentId : String)
    (dimension : BudgetDimension) :
    db'.limitOn experimentId dimension = db.limitOn experimentId dimension ∨
      db.experiments.find? experimentId = none := by
  cases found : db.experiments.find? experimentId with
  | none => exact .inr rfl
  | some experiment => exact .inl (write.grows.limitOn_eq found dimension)

theorem Db.limitOn_of_unstored {experimentId : String} {dimension : BudgetDimension}
    (unstored : db.experiments.find? experimentId = none) :
    db.limitOn experimentId dimension = none := by
  unfold Db.limitOn
  rw [unstored]
  rfl

theorem Db.limitOn_nonneg {experimentId : String} {dimension : BudgetDimension} {limit : Int}
    (limited : db.limitOn experimentId dimension = some limit) : 0 ≤ limit := by
  obtain ⟨_, _, bound⟩ := Option.bind_eq_some_iff.mp limited
  exact limit?_nonneg bound

/-- Only the creation of an attempt adds one, and nothing is owed where it happens. -/
theorem Write.new_attempt (write : Write L d db d' db') :
    (∀ id attempt, db'.attempts.find? id = some attempt →
      ∃ old, db.attempts.find? id = some old ∧ AttemptLater old attempt) ∨
    (d = [] ∧ ∃ row table, db.attempts.insert? row = some table ∧ NewAttempt L db row ∧
      db' = db.setAttempts table) := by
  cases write with
  | insertAttempt row table inserted new => exact .inr ⟨rfl, row, table, inserted, new, rfl⟩
  | moveAttempt old new stored moved =>
      refine .inl fun id attempt found => ?_
      rcases (Table.find?_replace stored).mp found with ⟨rfl, rfl⟩ | ⟨_, other⟩
      · exact ⟨old, stored, moved.later⟩
      · exact ⟨attempt, other, .refl attempt⟩
  | _ => exact .inl fun id attempt found => ⟨attempt, found, .refl attempt⟩

/-- An attempt that was stored and is live under an experiment was live under it. -/
theorem live_before {experimentId id : String} {old attempt : RunAttempt} (sound : Sound d db)
    (grows : Grows db db') (member : id ∈ db'.liveAttempts experimentId)
    (stored : db.attempts.find? id = some old) (found : db'.attempts.find? id = some attempt)
    (later : AttemptLater old attempt) : id ∈ db.liveAttempts experimentId := by
  obtain ⟨owner, live, isFound, isLive⟩ := Db.mem_liveAttempts.mp member
  rw [found, Option.some.injEq] at isFound
  subst isFound
  obtain ⟨before, ownerBefore⟩ := sound.ownerOfAttempt stored
  have same : before = experimentId :=
    Option.some.inj ((grows.ownerOf ownerBefore).symm.trans owner)
  refine Db.mem_liveAttempts.mpr ⟨same ▸ ownerBefore, old, stored, ?_⟩
  by_contra ended
  rw [later.isTerminal (by simpa using ended)] at isLive
  cases isLive

theorem Write.slots_kept (write : Write L d db d' db') (sound : Sound d db) (entered : Entered db)
    (ended : Ended d db) (within : WithinLimits db) :
    ∀ experimentId limit, db'.limitOn experimentId .parallelRuns = some limit →
      ((db'.liveAttempts experimentId).length : Int) ≤ limit := by
  intro experimentId limit limited
  rcases write.new_attempt with noNew | ⟨rfl, row, table, inserted, new, rfl⟩
  · have subset : ∀ id ∈ db'.liveAttempts experimentId, id ∈ db.liveAttempts experimentId := by
      intro id member
      obtain ⟨_, attempt, found, _⟩ := Db.mem_liveAttempts.mp member
      obtain ⟨old, stored, later⟩ := noNew id attempt found
      exact live_before sound write.grows member stored found later
    have fewer : (db'.liveAttempts experimentId).length ≤ (db.liveAttempts experimentId).length :=
      Table.length_le_of_subset (Table.nodup_keysWhere _ _) subset
    rcases write.limitOn_origin experimentId .parallelRuns with same | unstored
    · have before := within.slots experimentId limit (same ▸ limited)
      omega
    · -- an experiment being created owns nothing
      have none : db.liveAttempts experimentId = [] := by
        refine List.eq_nil_iff_forall_not_mem.mpr fun id member => ?_
        obtain ⟨owner, _⟩ := Db.mem_liveAttempts.mp member
        obtain ⟨experiment, stored⟩ := sound.ownerStored owner
        rw [unstored] at stored
        cases stored
      rw [none, List.length_nil] at fewer
      have := Db.limitOn_nonneg limited
      omega
  · have limited' : db.limitOn experimentId .parallelRuns = some limit := limited
    have subset : ∀ id ∈ (db.setAttempts table).liveAttempts experimentId,
        id = row.id ∨ id ∈ db.liveAttempts experimentId := by
      intro id member
      obtain ⟨_, attempt, found, _⟩ := Db.mem_liveAttempts.mp member
      rcases (Table.find?_insert? inserted).mp found with ⟨isRow, _⟩ | ⟨_, stored⟩
      · exact .inl isRow
      · exact .inr (live_before sound write.grows member stored found (.refl attempt))
    by_cases isOwner : row.id ∈ (db.setAttempts table).liveAttempts experimentId
    · obtain ⟨owner, attempt, found, _⟩ := Db.mem_liveAttempts.mp isOwner
      obtain ⟨run, experiment, runFound, experimentFound, _, free⟩ := new.owner
      have isRow : (db.setAttempts table).attempts.find? row.id = some row :=
        Table.find?_insert?_self inserted
      have ofRun : (db.setAttempts table).ownerOf? .trainingAttempt row.id =
          some run.experimentId :=
        Option.bind_eq_some_iff.mpr ⟨row, isRow, Option.map_eq_some_iff.mpr ⟨run, runFound, rfl⟩⟩
      have same : run.experimentId = experimentId := Option.some.inj (ofRun.symm.trans owner)
      subst same
      have isId : experiment.id = run.experimentId := Table.key_of_find? experimentFound
      have bound : limit? experiment.budget .parallelRuns = some limit := by
        unfold Db.limitOn at limited'
        rw [experimentFound] at limited'
        exact limited'
      have room := free limit bound
      rw [isId, outstanding_eq_live sound entered ended
        (Option.isSome_iff_exists.mpr ⟨limit, limited'⟩)] at room
      have longer : ((db.setAttempts table).liveAttempts run.experimentId).length ≤
          (row.id :: db.liveAttempts run.experimentId).length :=
        Table.length_le_of_subset (Table.nodup_keysWhere _ _)
          fun id member => List.mem_cons.mpr (subset id member)
      rw [List.length_cons] at longer
      omega
    · have fewer : ((db.setAttempts table).liveAttempts experimentId).length ≤
          (db.liveAttempts experimentId).length :=
        Table.length_le_of_subset (Table.nodup_keysWhere _ _) fun id member =>
          (subset id member).resolve_left fun isRow => isOwner (isRow ▸ member)
      have before := within.slots experimentId limit limited'
      omega

/-- A posted entry is counted with the others of its experiment, dimension and kind. -/
theorem ledgerTotal_insert {entry : BudgetLedgerEntry} {table : Table BudgetLedgerEntry.key}
    (inserted : db.ledger.insert? entry = some table) (experimentId : String)
    (dimension : BudgetDimension) (kind : LedgerEntryKind) :
    ledgerTotal ((db.setLedger table).entries experimentId) dimension kind =
      ledgerTotal (db.entries experimentId) dimension kind +
        if entry.experimentId = experimentId ∧ entry.dimension = dimension ∧ entry.kind = kind then
          entry.amount else 0 := by
  have rows : (db.setLedger table).ledger.rows = db.ledger.rows ++ [entry] :=
    Table.insert?_rows inserted
  unfold ledgerTotal Db.entries
  rw [rows, List.filter_append, List.filter_append, List.map_append, List.sum_append]
  by_cases own : entry.experimentId = experimentId <;>
    by_cases counted : entry.dimension = dimension ∧ entry.kind = kind <;> simp [own, counted]

/-- An event with another payload reports no failure. -/
theorem failureOverruns_append {events : List DomainEvent} {event : DomainEvent}
    (other : ∀ limit consumed, event.extra ≠ .overrun .failures limit consumed)
    (experimentId : String) :
    (events ++ [event]).filter (isFailureOverrun experimentId) =
      events.filter (isFailureOverrun experimentId) := by
  have plain : isFailureOverrun experimentId event = false := by
    unfold isFailureOverrun
    split
    · rename_i limit consumed extra
      exact absurd extra (other limit consumed)
    · exact Bool.and_false _
  rw [List.filter_append, List.filter_singleton, plain]
  exact List.append_nil _

theorem filter_overrunEvents (experiment : Experiment) (limit : Int)
    (before after : List BudgetLedgerEntry) (actor : Actor) (experimentId : String) :
    ((overrunEvents experiment limit before after actor).filter
      (isFailureOverrun experimentId)).length =
      if experiment.id = experimentId ∧ limit < ledgerTotal after .failures .consume ∧
        ¬ limit < ledgerTotal before .failures .consume then 1 else 0 := by
  unfold overrunEvents
  by_cases own : experiment.id = experimentId <;>
    by_cases crossed : limit < ledgerTotal after .failures .consume <;>
    by_cases already : limit < ledgerTotal before .failures .consume <;>
    simp [dimensionStatus, DimensionStatus.overrun, isFailureOverrun, eventOf, own, crossed,
      already]

/-- What a write does to the reports of failures past the limit. -/
theorem Write.failureOverruns_eq (write : Write L d db d' db') (experimentId : String) :
    (db'.failureOverruns experimentId = db.failureOverruns experimentId ∧
      ledgerTotal (db'.entries experimentId) .failures .consume =
        ledgerTotal (db.entries experimentId) .failures .consume) ∨
    ∃ limit, db.limitOn experimentId .failures = some limit ∧
      db'.limitOn experimentId .failures = some limit ∧
      ledgerTotal (db.entries experimentId) .failures .consume ≤
        ledgerTotal (db'.entries experimentId) .failures .consume ∧
      (db'.failureOverruns experimentId).length = (db.failureOverruns experimentId).length +
        if limit < ledgerTotal (db'.entries experimentId) .failures .consume ∧
          ¬ limit < ledgerTotal (db.entries experimentId) .failures .consume then 1 else 0 := by
  cases write with
  | note event destinations stands plain =>
      refine .inl ⟨failureOverruns_append ?_ experimentId, rfl⟩
      intro limit consumed overrun
      rw [overrun] at plain
      cases plain
  | moveAction old new event destinations _ _ _ _ _ said =>
      refine .inl ⟨failureOverruns_append ?_ experimentId, rfl⟩
      intro limit consumed overrun
      have plain := said.plain
      rw [overrun] at plain
      cases plain
  | intervention | application =>
      refine .inl ⟨failureOverruns_append ?_ experimentId, rfl⟩
      intro limit consumed overrun
      cases overrun
  | post entry table inserted owned postable =>
      refine .inl ⟨rfl, ?_⟩
      rw [ledgerTotal_insert inserted, if_neg, Int.add_zero]
      rintro ⟨_, dimension, kind⟩
      unfold Postable at postable
      rw [dimension, kind] at postable
      cases postable
  | fail entry table kind experiment limit actor outbox inserted owned consumed _ found limited =>
      have isId : experiment.id = entry.experimentId := Table.key_of_find? found
      have total := ledgerTotal_insert inserted experimentId .failures .consume
      by_cases own : entry.experimentId = experimentId
      · subst own
        have limitOn : db.limitOn entry.experimentId .failures = some limit := by
          unfold Db.limitOn
          rw [found]
          exact limited
        rw [if_pos ⟨rfl, consumed.1, consumed.2.1⟩, owned.one] at total
        refine .inr ⟨limit, limitOn, limitOn, ?_, ?_⟩
        · exact total.symm ▸ Int.le_add_of_nonneg_right (by decide)
        · unfold Db.failureOverruns Db.setBooks
          rw [List.filter_append, List.length_append, filter_overrunEvents, isId]
          simp only [true_and]
          rfl
      · rw [if_neg fun counted => own counted.1, Int.add_zero] at total
        refine .inl ⟨?_, total⟩
        unfold Db.failureOverruns Db.setBooks
        have none : (overrunEvents experiment limit (db.entries experiment.id)
            ((db.setLedger table).entries experiment.id) actor).filter
              (isFailureOverrun experimentId) = [] := by
          rw [← List.length_eq_zero_iff, filter_overrunEvents,
            if_neg fun crossed => own (isId ▸ crossed.1)]
        rw [List.filter_append, none, List.append_nil]
  | _ => exact .inl ⟨rfl, rfl⟩

theorem Write.overruns_kept (write : Write L d db d' db') (sound : Sound d db)
    (entered : Entered db)
    (within : WithinLimits db) : ∀ experimentId, (db'.failureOverruns experimentId).length =
      match db'.limitOn experimentId .failures with
      | none => 0
      | some limit =>
          if limit < ledgerTotal (db'.entries experimentId) .failures .consume then 1 else 0 := by
  intro experimentId
  have before := within.overruns experimentId
  rcases write.failureOverruns_eq experimentId with
    ⟨sameEvents, sameTotal⟩ | ⟨limit, limited, limited', more, events⟩
  · rw [sameEvents, sameTotal]
    rcases write.limitOn_origin experimentId .failures with same | unstored
    · rw [same]
      exact before
    · rw [Db.limitOn_of_unstored unstored] at before
      -- an experiment being created has no entries
      have none : ledgerTotal (db.entries experimentId) .failures .consume = 0 := by
        have noEntry : db.entries experimentId = [] := by
          refine List.eq_nil_iff_forall_not_mem.mpr fun entry member => ?_
          obtain ⟨stored, own⟩ := List.mem_filter.mp member
          obtain ⟨experiment, found⟩ := sound.ownerStored
            (entered.owner entry.key entry (Table.find?_of_mem stored))
          rw [of_decide_eq_true own, unstored] at found
          cases found
        rw [noEntry]
        rfl
      rw [before, none]
      cases limited : db'.limitOn experimentId .failures with
      | none => rfl
      | some limit =>
          have := Db.limitOn_nonneg limited
          exact (if_neg (by omega)).symm
  · rw [limited] at before
    simp only at before
    rw [events, before, limited']
    by_cases crossed : limit < ledgerTotal (db'.entries experimentId) .failures .consume <;>
      by_cases already : limit < ledgerTotal (db.entries experimentId) .failures .consume <;>
      simp [crossed, already]
    omega

theorem Write.withinLimits (write : Write L d db d' db') (sound : Sound d db) (entered : Entered db)
    (ended : Ended d db) (within : WithinLimits db) : WithinLimits db' where
  slots := write.slots_kept sound entered ended within
  overruns := write.overruns_kept sound entered within

end Limits

/-- What is proved of the ledger at a point of a transaction. -/
structure Balanced (d : Debt) (db : Db) : Prop where
  entered : Entered db
  ended : Ended d db
  within : WithinLimits db

theorem ReachableBy.balanced {checks : Checks} {allowed : Db → Op → Prop} {db : Db}
    (reached : ReachableBy checks allowed db) : Balanced [] db := by
  refine ReachableBy.invariant reached ⟨Entered.empty, Ended.empty, WithinLimits.empty⟩ ?_
  intro db₀ op _ d db d' db' sound write balanced
  exact ⟨write.entered sound balanced.entered, write.ended sound balanced.ended,
    write.withinLimits sound balanced.entered balanced.ended balanced.within⟩

/-- Slots are held by the live attempts and no more than there are; failures are counted
once each, and passing their limit is reported once. -/
theorem capacity_and_failures {checks : Checks} {db : Db} (reached : Reachable checks db)
    {experimentId : String} {experiment : Experiment}
    (found : db.experiments.find? experimentId = some experiment) :
    (∀ limit, limit? experiment.budget .parallelRuns = some limit →
      ∃ slots, statusOf (db.budgetStatus experiment) .parallelRuns = some slots ∧
        slots.outstanding = (db.liveAttempts experimentId).length ∧ slots.outstanding ≤ limit) ∧
    (∀ limit, limit? experiment.budget .failures = some limit →
      ∃ failures, statusOf (db.budgetStatus experiment) .failures = some failures ∧
        failures.consumed = (db.failedAttempts experimentId .trainingAttempt).length +
          (db.failedAttempts experimentId .evaluationAttempt).length ∧
        (db.failureOverruns experimentId).length =
          if failures.consumed > limit then 1 else 0) := by
  have sound := ReachableBy.sound reached
  obtain ⟨entered, ended, within⟩ := ReachableBy.balanced reached
  have isId : experiment.id = experimentId := Table.key_of_find? found
  have limitOn : ∀ dimension, db.limitOn experimentId dimension =
      limit? experiment.budget dimension := by
    intro dimension
    unfold Db.limitOn
    rw [found]
    rfl
  constructor
  · intro limit limited
    have outstanding : (dimensionStatus (db.entries experimentId) .parallelRuns limit).outstanding =
        (db.liveAttempts experimentId).length :=
      outstanding_eq_live sound entered ended (by rw [limitOn, limited]; rfl)
    refine ⟨_, by rw [Db.budgetStatus, statusOf_budgetStatus, limited]; rfl, ?_⟩
    rw [isId, outstanding]
    exact ⟨rfl, within.slots experimentId limit (by rw [limitOn, limited])⟩
  · intro limit limited
    have consumed : (dimensionStatus (db.entries experimentId) .failures limit).consumed =
        (db.failedAttempts experimentId .trainingAttempt).length +
          (db.failedAttempts experimentId .evaluationAttempt).length :=
      consumed_eq_failed sound entered ended (by rw [limitOn, limited]; rfl)
    have overruns := within.overruns experimentId
    rw [limitOn, limited] at overruns
    refine ⟨_, by rw [Db.budgetStatus, statusOf_budgetStatus, limited]; rfl, ?_⟩
    rw [isId]
    exact ⟨consumed, overruns⟩

/-- Two attempts run side by side under an experiment that tolerates one failure, and both fail. -/
def bothFailed : List Op :=
  let system : Actor := ⟨"system", "controller", ""⟩
  let budget : BudgetSpec := { maxParallelRuns := some 2, maxFailures := some 1 }
  [.createExperiment { id := "e", budget := some budget } system [],
    .createNode { id := "n", experimentId := "e", candidateFingerprint := "" } system [],
    .createRun { id := "r", experimentId := "e", nodeId := "n", candidateFingerprint := "" } system
      [],
    .createRun { id := "s", experimentId := "e", nodeId := "n", candidateFingerprint := "" } system
      [],
    .createAttemptWithSubmitIntent
      { id := "a", runId := "r", attemptNumber := 1 } "a1" "" system [],
    .createAttemptWithSubmitIntent
      { id := "b", runId := "s", attemptNumber := 1 } "b1" "" system [],
    .transitionAttempt "a" 0 .failed system none [] none,
    .transitionAttempt "b" 0 .failed system none [] none]

theorem capacity_and_failures_crossed :
    ∃ db experiment failures, Reachable .permissive db ∧
      db.experiments.find? "e" = some experiment ∧
      statusOf (db.budgetStatus experiment) .failures = some failures ∧
      failures.consumed = 2 ∧ (db.failureOverruns "e").length = 1 := by
  have reached : Reachable .permissive (execAll .permissive bothFailed Db.empty) :=
    reachable_execAll _ bothFailed .start
  have bound : (execAll .permissive bothFailed Db.empty).limitOn "e" .failures = some 1 := by
    decide
  obtain ⟨experiment, stored, limited⟩ := Option.bind_eq_some_iff.mp bound
  obtain ⟨failures, status, consumed, overruns⟩ :=
    (capacity_and_failures reached stored).2 1 limited
  have two : failures.consumed = 2 := by
    rw [consumed]
    decide
  rw [two] at overruns
  exact ⟨_, experiment, failures, reached, stored, status, two, overruns⟩

end Xaytune.Storage
