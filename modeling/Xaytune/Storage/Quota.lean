import Xaytune.Storage.Capacity

/-!
# The run quota

Every run reserves one of its experiment's runs when it is created, and gives it back
or spends it when it ends: spent if a submission of it was confirmed by then, given
back otherwise. A confirmation that arrives after the run ended breaks this, and the
safety net then writes the other entry as well, so the results below are about calls
among which there is no such confirmation.
-/

namespace Xaytune.Storage

open Xaytune.Core Xaytune.Library

/-- The runs of an experiment. -/
def Db.ownRuns (db : Db) (experimentId : String) : List String :=
  db.runs.keysWhere fun run => run.experimentId = experimentId

/-- The runs of an experiment that have not ended. -/
def Db.liveRuns (db : Db) (experimentId : String) : List String :=
  db.runs.keysWhere fun run => run.experimentId = experimentId && !run.isTerminal

/-! ## Every run is settled once -/

/-- How runs are settled at a point where `d` is owed. -/
structure Settled (d : Debt) (db : Db) : Prop where
  settled : ∀ id run, db.runs.find? id = some run → run.isTerminal = true →
    .settlement id ∈ d ∨ db.Accounted .run id .runs .release ∨ db.Accounted .run id .runs .consume
  onlyEnded : ∀ id, (db.entryOf .run id .runs .release).isSome ∨
    (db.entryOf .run id .runs .consume).isSome →
    ∃ run, db.runs.find? id = some run ∧ run.isTerminal = true
  released : ∀ id, (db.entryOf .run id .runs .release).isSome →
    db.entryOf .run id .runs .commit = none
  consumed : ∀ id, (db.entryOf .run id .runs .consume).isSome →
    (db.entryOf .run id .runs .commit).isSome
  committed : ∀ id operation, db.operations.find? id = some operation →
    submitConfirmed operation = true → .commit id ∈ d ∨ Paid db (.commit id)

theorem Settled.empty : Settled [] Db.empty where
  settled := by
    intro _ _ found
    cases found
  onlyEnded := by
    rintro _ (found | found) <;> cases found
  released := by
    intro _ found
    cases found
  consumed := by
    intro _ found
    cases found
  committed := by
    intro _ _ found
    cases found

section Kept

variable {L : Licence} {d d' : Debt} {db db' : Db}

/-- A run that a write ends owes its settlement. -/
theorem Write.ends_run {id : String} {run : Run} (write : Write L d db d' db')
    (found : db'.runs.find? id = some run) (ended : run.isTerminal = true) :
    (∃ old, db.runs.find? id = some old ∧ old.isTerminal = true) ∨ .settlement id ∈ d' := by
  cases write with
  | insertRun row table inserted new =>
      rcases (Table.find?_insert? inserted).mp found with ⟨rfl, rfl⟩ | ⟨_, stored⟩
      · rw [Run.isTerminal, new.created] at ended
        cases ended
      · exact .inl ⟨run, stored, ended⟩
  | moveRun old new stored moved =>
      rcases (Table.find?_replace stored).mp found with ⟨rfl, rfl⟩ | ⟨_, other⟩
      · refine .inr (List.mem_cons_of_mem _ (List.mem_append_left _ ?_))
        unfold runDebt
        rw [if_pos ended]
        exact List.mem_cons_self
      · exact .inl ⟨run, other, ended⟩
  | _ => exact .inl ⟨run, found, ended⟩

theorem Write.settled_kept (write : Write L d db d' db') (sound : Sound d db)
    (settled : Settled d db) : ∀ id run, db'.runs.find? id = some run → run.isTerminal = true →
      .settlement id ∈ d' ∨ db'.Accounted .run id .runs .release ∨
        db'.Accounted .run id .runs .consume := by
  intro id run found isEnded
  rcases write.ends_run found isEnded with ⟨old, stored, was⟩ | due
  · have owner := sound.ownerOfRun stored
    have grown : db.Accounted .run id .runs .release ∨ db.Accounted .run id .runs .consume →
        db'.Accounted .run id .runs .release ∨ db'.Accounted .run id .runs .consume :=
      Or.imp (fun done => done.grows sound write.grows owner)
        fun done => done.grows sound write.grows owner
    rcases settled.settled id old stored was with due | done
    · by_cases paid : Paid db (.settlement id)
      · exact .inr (grown paid)
      · exact .inl (write.still_owed due paid)
    · exact .inr (grown done)
  · exact .inl due

/-- What a write adds to the entries of a run's quota, when none may be settled late. -/
theorem Write.runEntry_origin {id : String} {kind : LedgerEntryKind}
    (write : Write L d db d' db') (inTime : ¬ L.late)
    (written : (db'.entryOf .run id .runs kind).isSome) :
    (db.entryOf .run id .runs kind).isSome ∨
      match kind with
      | .reserve => .quota id ∈ d
      | .commit => ∃ run, db.runs.find? id = some run ∧ run.isTerminal = false
      | .release => (∃ run, db.runs.find? id = some run ∧ run.isTerminal = true) ∧
          db.entryOf .run id .runs .commit = none
      | .consume => (∃ run, db.runs.find? id = some run ∧ run.isTerminal = true) ∧
          (db.entryOf .run id .runs .commit).isSome := by
  obtain ⟨entry, found⟩ := Option.isSome_iff_exists.mp written
  rcases write.entry_origin found with stored | ⟨_, isKey, _, postable | ⟨_, isFailure, _⟩⟩
  · exact .inl (Option.isSome_iff_exists.mpr ⟨entry, stored⟩)
  · refine .inr ?_
    unfold BudgetLedgerEntry.key at isKey
    injection isKey with subject isId dimension isKind
    unfold Postable at postable
    rw [dimension, subject, isKind, isId] at postable
    cases kind with
    | reserve => exact postable
    | commit => exact postable.resolve_left inTime
    | release => exact ⟨postable.1, postable.2.resolve_left inTime⟩
    | consume => exact ⟨postable.1, postable.2.resolve_left inTime⟩
  · have isRuns : entry.dimension = .runs := congrArg LedgerKey.dimension isKey
    exact absurd (isFailure.symm.trans isRuns) (by decide)

/-- A training submission that a write confirms owes its commitments. -/
theorem Write.confirms {id : String} {operation : RuntimeOperation} (write : Write L d db d' db')
    (found : db'.operations.find? id = some operation)
    (confirmed : submitConfirmed operation = true) :
    (∃ old, db.operations.find? id = some old ∧ submitConfirmed old = true ∧
      operation.target = old.target) ∨ .commit id ∈ d' := by
  cases write with
  | insertOperation row table inserted new =>
      rcases (Table.find?_insert? inserted).mp found with ⟨rfl, rfl⟩ | ⟨_, stored⟩
      · unfold submitConfirmed at confirmed
        rw [new.intended] at confirmed
        cases confirmed
      · exact .inl ⟨operation, stored, confirmed, rfl⟩
  | moveOperation old new stored moved =>
      rcases (Table.find?_replace stored).mp found with ⟨rfl, rfl⟩ | ⟨_, other⟩
      · refine .inr (List.mem_cons_of_mem _ (List.mem_append_left _ ?_))
        unfold operationDebt
        rw [if_pos confirmed]
        exact List.mem_cons_self
      · exact .inl ⟨operation, other, confirmed, rfl⟩
  | _ => exact .inl ⟨operation, found, confirmed, rfl⟩

/-- What a confirmed submission committed stays committed. -/
theorem Paid.commit_grows {id : String} {old : RuntimeOperation} (sound : Sound d db)
    (grows : Grows db db') (stored : db.operations.find? id = some old)
    (training : old.target.kind = .trainingAttempt) (paid : Paid db (.commit id)) :
    Paid db' (.commit id) := by
  intro operation found
  obtain ⟨_, found', _, _, _, rfl, _⟩ := grows.operations id old stored
  rw [found', Option.some.injEq] at found
  subst found
  obtain ⟨slot, quota⟩ := paid old stored
  have has := sound.operations id old stored
  rw [training] at has
  obtain ⟨attempt, attemptFound⟩ := has
  obtain ⟨run, runFound⟩ := sound.attempts _ attempt attemptFound
  obtain ⟨_, owner⟩ := sound.ownerOfAttempt attemptFound
  refine ⟨slot.grows sound grows owner, ?_⟩
  intro attempt' attemptFound'
  obtain ⟨_, attemptFound'', _, _, _, rfl, _⟩ := grows.attempts _ attempt attemptFound
  rw [attemptFound'', Option.some.injEq] at attemptFound'
  subst attemptFound'
  exact (quota attempt attemptFound).grows sound grows (sound.ownerOfRun runFound)

theorem Write.settled (write : Write L d db d' db') (inTime : ¬ L.late) (sound : Sound d db)
    (settled : Settled d db) : Settled d' db' where
  settled := write.settled_kept sound settled
  onlyEnded := by
    intro id written
    have before : ∃ run, db.runs.find? id = some run ∧ run.isTerminal = true := by
      rcases written with release | consume
      · rcases write.runEntry_origin inTime release with was | ⟨ended, _⟩
        · exact settled.onlyEnded id (.inl was)
        · exact ended
      · rcases write.runEntry_origin inTime consume with was | ⟨ended, _⟩
        · exact settled.onlyEnded id (.inr was)
        · exact ended
    obtain ⟨run, stored, was⟩ := before
    obtain ⟨run', found', later⟩ := write.grows.runs id run stored
    exact ⟨run', found', later.isTerminal was⟩
  released := by
    intro id written
    -- a release is written only where nothing is committed, and nothing is committed after it
    have before : (∃ run, db.runs.find? id = some run ∧ run.isTerminal = true) ∧
        db.entryOf .run id .runs .commit = none := by
      rcases write.runEntry_origin inTime written with was | new
      · exact ⟨settled.onlyEnded id (.inl was), settled.released id was⟩
      · exact new
    obtain ⟨⟨run, stored, ended⟩, uncommitted⟩ := before
    by_contra committed
    rcases write.runEntry_origin inTime (Option.isSome_iff_ne_none.mpr committed) with
      was | ⟨run', stored', live⟩
    · rw [uncommitted] at was
      cases was
    · rw [stored, Option.some.injEq] at stored'
      subst stored'
      rw [ended] at live
      cases live
  consumed := by
    intro id written
    refine write.grows.entry ?_
    rcases write.runEntry_origin inTime written with was | ⟨_, committed⟩
    · exact settled.consumed id was
    · exact committed
  committed := by
    intro id operation found confirmed
    rcases write.confirms found confirmed with ⟨old, stored, was, _⟩ | due
    · have training : old.target.kind = .trainingAttempt := by
        unfold submitConfirmed at was
        simp only [Bool.and_eq_true, decide_eq_true_eq] at was
        exact was.2
      rcases settled.committed id old stored was with due | paid
      · by_cases paid : Paid db (.commit id)
        · exact .inr (paid.commit_grows sound write.grows stored training)
        · exact .inl (write.still_owed due paid)
      · exact .inr (paid.commit_grows sound write.grows stored training)
    · exact .inl due

end Kept

/-! ## The balance at a commit -/

section Balances

variable {db : Db} {experimentId : String}

theorem Db.mem_ownRuns {id : String} :
    id ∈ db.ownRuns experimentId ↔ db.ownerOf? .run id = some experimentId := by
  unfold Db.ownRuns Db.ownerOf?
  rw [Table.mem_keysWhere, Option.map_eq_some_iff]
  simp

theorem Db.mem_liveRuns {id : String} :
    id ∈ db.liveRuns experimentId ↔ db.ownerOf? .run id = some experimentId ∧
      ∃ run, db.runs.find? id = some run ∧ run.isTerminal = false := by
  unfold Db.liveRuns Db.ownerOf?
  rw [Table.mem_keysWhere, Option.map_eq_some_iff]
  constructor
  · rintro ⟨run, found, holds⟩
    simp only [Bool.and_eq_true, decide_eq_true_eq, Bool.not_eq_true'] at holds
    exact ⟨⟨run, found, holds.1⟩, run, found, holds.2⟩
  · rintro ⟨⟨run, found, owned⟩, run', found', live⟩
    rw [found, Option.some.injEq] at found'
    subst found'
    exact ⟨run, found, by simp [owned, live]⟩

/-- The runs released of an experiment, and those consumed. -/
def Db.runsWith (db : Db) (experimentId : String) (kind : LedgerEntryKind) : List String :=
  (db.ownRuns experimentId).filter fun id => (db.entryOf .run id .runs kind).isSome

theorem length_runsWith (entered : Entered db) (kind : LedgerEntryKind) :
    (db.subjects experimentId .runs kind).length = (db.runsWith experimentId kind).length := by
  have ofRuns : ∀ key, LedgerShape key → key.dimension = .runs → key.kind = kind →
      key.subjectKind = .run := by
    rintro ⟨subject, _, _, kind⟩ shape rfl rfl
    cases subject <;> cases kind <;> first | rfl | cases shape
  refine length_subjects_of_shape entered ((Table.nodup_keysWhere _ _).filter _) ofRuns fun id => ?_
  unfold Db.runsWith
  rw [List.mem_filter, Db.mem_ownRuns]

/-- At a commit every run is live, released or consumed, and only one of these. -/
theorem runs_split (settled : Settled [] db)
    (limited : (db.limitOn experimentId .runs).isSome) :
    (db.ownRuns experimentId).length = (db.liveRuns experimentId).length +
      ((db.runsWith experimentId .release).length +
        (db.runsWith experimentId .consume).length) := by
  have asSum : (db.ownRuns experimentId).length = (db.liveRuns experimentId ++
      (db.runsWith experimentId .release ++ db.runsWith experimentId .consume)).length := by
    refine Table.length_eq_of_mem_iff (Table.nodup_keysWhere _ _) ?_ fun id => ?_
    · refine List.Nodup.append (Table.nodup_keysWhere _ _) (List.Nodup.append
        ((Table.nodup_keysWhere _ _).filter _) ((Table.nodup_keysWhere _ _).filter _) ?_) ?_
      · intro id released consumed
        have uncommitted := settled.released id (List.mem_filter.mp released).2
        have committed := settled.consumed id (List.mem_filter.mp consumed).2
        rw [uncommitted] at committed
        cases committed
      · intro id live ended
        obtain ⟨_, run, found, isLive⟩ := Db.mem_liveRuns.mp live
        have written : (db.entryOf .run id .runs .release).isSome ∨
            (db.entryOf .run id .runs .consume).isSome := by
          rcases List.mem_append.mp ended with released | consumed
          · exact .inl (List.mem_filter.mp released).2
          · exact .inr (List.mem_filter.mp consumed).2
        obtain ⟨run', found', isEnded⟩ := settled.onlyEnded id written
        rw [found, Option.some.injEq] at found'
        subst found'
        rw [isEnded] at isLive
        cases isLive
    · rw [List.mem_append, List.mem_append, Db.mem_liveRuns]
      unfold Db.runsWith
      rw [List.mem_filter, List.mem_filter, Db.mem_ownRuns]
      constructor
      · intro owner
        obtain ⟨run, found, _⟩ := Option.map_eq_some_iff.mp owner
        cases isEnded : run.isTerminal with
        | false => exact .inl ⟨owner, run, found, isEnded⟩
        | true =>
            refine .inr (((settled.settled id run found isEnded).resolve_left List.not_mem_nil).imp
              (fun released => ⟨owner, released _ owner limited⟩)
              fun consumed => ⟨owner, consumed _ owner limited⟩)
      · rintro (⟨owner, _⟩ | ⟨owner, _⟩ | ⟨owner, _⟩) <;> exact owner
  rw [asSum, List.length_append, List.length_append]

/-- At a commit, the runs reserved and not settled are those that have not ended. -/
theorem runs_status (limit : Int) (sound : Sound [] db) (entered : Entered db)
    (settled : Settled [] db) (limited : (db.limitOn experimentId .runs).isSome) :
    (dimensionStatus (db.entries experimentId) .runs limit).outstanding =
        (db.liveRuns experimentId).length ∧
      (dimensionStatus (db.entries experimentId) .runs limit).consumed =
        (db.runsWith experimentId .consume).length := by
  have totals : ∀ kind, ledgerTotal (db.entries experimentId) .runs kind =
      (db.runsWith experimentId kind).length := by
    intro kind
    rw [ledgerTotal_eq sound.amounts, length_runsWith entered]
  have reserved :
    (db.runsWith experimentId .reserve).length = (db.ownRuns experimentId).length := by
    unfold Db.runsWith
    rw [List.filter_eq_self.mpr]
    intro id member
    have owner := Db.mem_ownRuns.mp member
    obtain ⟨run, found, _⟩ := Option.map_eq_some_iff.mp owner
    exact (sound.quotas id run found).resolve_left List.not_mem_nil _ owner limited
  have split := runs_split settled limited
  unfold dimensionStatus
  simp only [totals]
  rw [reserved, split]
  exact ⟨by omega, trivial⟩

end Balances

/-! ## The quota holds -/

/-- What is not given back is within the quota. -/
def WithinQuota (db : Db) : Prop :=
  ∀ experimentId limit, db.limitOn experimentId .runs = some limit →
    ((db.ownRuns experimentId).length : Int) ≤
      limit + (db.runsWith experimentId .release).length

theorem WithinQuota.empty : WithinQuota Db.empty := by
  intro _ _ limited
  cases limited

section Limits

variable {L : Licence} {d d' : Debt} {db db' : Db} {experimentId : String}

theorem Write.new_run (write : Write L d db d' db') :
    (∀ id run, db'.runs.find? id = some run →
      ∃ old, db.runs.find? id = some old ∧ RunLater old run) ∨
    (d = [] ∧ ∃ row table, db.runs.insert? row = some table ∧ NewRun L db row ∧
      db' = db.setRuns table) := by
  cases write with
  | insertRun row table inserted new => exact .inr ⟨rfl, row, table, inserted, new, rfl⟩
  | moveRun old new stored moved =>
      refine .inl fun id run found => ?_
      rcases (Table.find?_replace stored).mp found with ⟨rfl, rfl⟩ | ⟨_, other⟩
      · exact ⟨old, stored, moved.later⟩
      · exact ⟨run, other, .refl run⟩
  | _ => exact .inl fun id run found => ⟨run, found, .refl run⟩

/-- What is given back stays given back. -/
theorem Grows.runsWith_le (grows : Grows db db') (kind : LedgerEntryKind) :
    (db.runsWith experimentId kind).length ≤ (db'.runsWith experimentId kind).length := by
  refine Table.length_le_of_subset ((Table.nodup_keysWhere _ _).filter _) fun id member => ?_
  obtain ⟨own, written⟩ := List.mem_filter.mp member
  exact List.mem_filter.mpr
    ⟨Db.mem_ownRuns.mpr (grows.ownerOf (Db.mem_ownRuns.mp own)), grows.entry written⟩

theorem Write.withinQuota (write : Write L d db d' db') (sound : Sound d db) (entered : Entered db)
    (settled : Settled d db) (within : WithinQuota db) : WithinQuota db' := by
  intro experimentId limit limited
  have released : (db.runsWith experimentId .release).length ≤
      (db'.runsWith experimentId .release).length := write.grows.runsWith_le .release
  rcases write.new_run with noNew | ⟨rfl, row, table, inserted, new, rfl⟩
  · have subset : ∀ id ∈ db'.ownRuns experimentId, id ∈ db.ownRuns experimentId := by
      intro id member
      obtain ⟨run, found, owned⟩ := Option.map_eq_some_iff.mp (Db.mem_ownRuns.mp member)
      obtain ⟨old, stored, _, _, rfl, _⟩ := noNew id run found
      exact Db.mem_ownRuns.mpr (Option.map_eq_some_iff.mpr ⟨old, stored, owned⟩)
    have fewer : (db'.ownRuns experimentId).length ≤ (db.ownRuns experimentId).length :=
      Table.length_le_of_subset (Table.nodup_keysWhere _ _) subset
    rcases write.limitOn_origin experimentId .runs with same | unstored
    · have before := within experimentId limit (same ▸ limited)
      omega
    · have none : db.ownRuns experimentId = [] := by
        refine List.eq_nil_iff_forall_not_mem.mpr fun id member => ?_
        obtain ⟨experiment, stored⟩ := sound.ownerStored (Db.mem_ownRuns.mp member)
        rw [unstored] at stored
        cases stored
      rw [none, List.length_nil] at fewer
      have := Db.limitOn_nonneg limited
      omega
  · have limited' : db.limitOn experimentId .runs = some limit := limited
    have subset : ∀ id ∈ (db.setRuns table).ownRuns experimentId,
        id = row.id ∨ id ∈ db.ownRuns experimentId := by
      intro id member
      obtain ⟨run, found, owned⟩ := Option.map_eq_some_iff.mp (Db.mem_ownRuns.mp member)
      rcases (Table.find?_insert? inserted).mp found with ⟨isRow, _⟩ | ⟨_, stored⟩
      · exact .inl isRow
      · exact .inr (Db.mem_ownRuns.mpr (Option.map_eq_some_iff.mpr ⟨run, stored, owned⟩))
    by_cases isOwner : row.experimentId = experimentId
    · subst isOwner
      obtain ⟨experiment, experimentFound, _, free⟩ := new.owner
      have isId : experiment.id = row.experimentId := Table.key_of_find? experimentFound
      have bound : limit? experiment.budget .runs = some limit := by
        unfold Db.limitOn at limited'
        rw [experimentFound] at limited'
        exact limited'
      have isLimited : (db.limitOn row.experimentId .runs).isSome :=
        Option.isSome_iff_exists.mpr ⟨limit, limited'⟩
      have room := free limit bound
      obtain ⟨outstanding, consumed⟩ := runs_status limit sound entered settled isLimited
      have remaining : (dimensionStatus (db.entries row.experimentId) .runs limit).remaining =
          limit - (dimensionStatus (db.entries row.experimentId) .runs limit).consumed -
            (dimensionStatus (db.entries row.experimentId) .runs limit).outstanding := rfl
      rw [isId, remaining, outstanding, consumed] at room
      have split := runs_split settled isLimited
      have longer : ((db.setRuns table).ownRuns row.experimentId).length ≤
          (row.id :: db.ownRuns row.experimentId).length :=
        Table.length_le_of_subset (Table.nodup_keysWhere _ _)
          fun id member => List.mem_cons.mpr (subset id member)
      rw [List.length_cons] at longer
      omega
    · have fewer : ((db.setRuns table).ownRuns experimentId).length ≤
          (db.ownRuns experimentId).length := by
        refine Table.length_le_of_subset (Table.nodup_keysWhere _ _) fun id member => ?_
        refine (subset id member).resolve_left ?_
        rintro rfl
        obtain ⟨run, found, owned⟩ := Option.map_eq_some_iff.mp (Db.mem_ownRuns.mp member)
        have isRow : some row = some run := (Table.find?_insert?_self inserted).symm.trans found
        exact isOwner (Option.some.inj isRow ▸ owned)
      have before := within experimentId limit limited'
      omega

end Limits

/-! ## The safety net finds nothing -/

section Idle

variable {db : Db} {experimentId : String} {actor : Actor} {destinations : List String}

theorem experimentOfRun_yields {id : String} {run : Run} (found : db.runs.find? id = some run) :
    (experimentOfRun id).Yields db run.experimentId db :=
  (loadRow_yields (α := Run) found).bind (Transaction.yields_pure _ db)

theorem experimentOfEvaluationRun_yields {id : String} {run : EvaluationRun}
    (found : db.evaluationRuns.find? id = some run) :
    (experimentOfEvaluationRun id).Yields db run.experimentId db :=
  (loadRow_yields (α := EvaluationRun) found).bind (Transaction.yields_pure _ db)

theorem appendEntry_yields {entry stored : BudgetLedgerEntry}
    (written : db.ledger.find? entry.key = some stored)
    (same : stored.amount = entry.amount ∧ stored.experimentId = entry.experimentId) :
    (appendEntry entry).Yields db () db := by
  unfold appendEntry
  refine Transaction.yields_read ?_
  rw [written]
  exact Transaction.yields_require (by simp [same.1, same.2]) db

/-- An entry that is written is not written again. -/
theorem ledger_yields {dimension : BudgetDimension} {kind : LedgerEntryKind}
    {subject : BudgetSubjectKind} {id : String} (sound : Sound [] db) (entered : Entered db)
    (owner : db.ownerOf? subject id = some experimentId)
    (accounted : db.Accounted subject id dimension kind) :
    (ledger experimentId dimension kind 1 subject id actor destinations).Yields db () db := by
  obtain ⟨experiment, found⟩ := sound.ownerStored owner
  unfold Storage.ledger
  refine (loadRow_yields (α := Experiment) found).bind ?_
  split
  · rename_i bounded
    have limited : (db.limitOn experimentId dimension).isSome := by
      unfold Db.limitOn
      rw [found]
      exact bounded.1
    obtain ⟨entry, written⟩ := Option.isSome_iff_exists.mp (accounted experimentId owner limited)
    have isOwner := Option.some.inj ((entered.owner _ entry written).symm.trans owner)
    have stands : (appendEntry ⟨experimentId, dimension, kind, 1, subject, id, bounded.2⟩).Yields
        db () db := appendEntry_yields written ⟨sound.amounts _ entry written, isOwner⟩
    refine Transaction.yields_read (stands.bind ?_)
    split
    · unfold emitOverrun
      refine Transaction.yields_read ?_
      split
      · rename_i was now isWas isNow
        rw [isWas, Option.some.injEq] at isNow
        subst isNow
        rw [Bool.and_not_self]
        exact Transaction.yields_pure () db
      · exact Transaction.yields_pure () db
    · exact Transaction.yields_pure () db
  · exact Transaction.yields_pure () db

theorem settleReservation_yields {dimension : BudgetDimension} {kind : LedgerEntryKind}
    {subject : BudgetSubjectKind} {id : String} (sound : Sound [] db) (entered : Entered db)
    (owner : db.ownerOf? subject id = some experimentId)
    (accounted : db.Accounted subject id dimension kind) :
    (settleReservation experimentId dimension kind subject id actor destinations).Yields
      db () db := by
  unfold settleReservation
  refine Transaction.yields_read ?_
  cases reserved : db.entryOf subject id dimension .reserve with
  | none => exact Transaction.yields_pure () db
  | some entry =>
      simp only [sound.amounts _ entry reserved]
      exact ledger_yields sound entered owner accounted

theorem settleAttempt_yields (kind : AttemptKind) {id : String} {failed : Bool}
    (sound : Sound [] db) (entered : Entered db) (ended : Ended [] db)
    (owner : db.ownerOf? (budgetSubject kind) id = some experimentId)
    (isFailed : failed = true → db.attemptFailed kind id) :
    (settleAttempt experimentId (budgetSubject kind) id failed actor destinations).Yields
      db () db := by
  unfold settleAttempt
  split
  · rename_i holds
    have counted := ended.counted kind id (isFailed holds)
    exact ledger_yields sound entered owner (counted.resolve_left List.not_mem_nil)
  · exact Transaction.yields_pure () db

theorem settleRunAttempt_yields {id : String} {attempt : RunAttempt} {run : Run}
    (sound : Sound [] db) (entered : Entered db) (ended : Ended [] db)
    (found : db.attempts.find? id = some attempt)
    (runFound : db.runs.find? attempt.runId = some run) :
    (settleRunAttempt attempt actor destinations).Yields db () db := by
  have isId : attempt.id = id := Table.key_of_find? found
  subst isId
  have owner : db.ownerOf? .trainingAttempt attempt.id = some run.experimentId :=
    Option.bind_eq_some_iff.mpr ⟨attempt, found, Option.map_eq_some_iff.mpr ⟨run, runFound, rfl⟩⟩
  unfold settleRunAttempt
  split
  · rename_i isEnded
    refine (experimentOfRun_yields runFound).bind ?_
    refine (settleAttempt_yields .trainingAttempt sound entered ended owner ?_).bind ?_
    · exact fun failed => ⟨attempt, found, of_decide_eq_true failed⟩
    · exact settleReservation_yields sound entered owner
        ((ended.released _ attempt found isEnded).resolve_left List.not_mem_nil)
  · exact Transaction.yields_pure () db

theorem settleEvaluationAttempt_yields {id : String} {attempt : EvaluationAttempt}
    (sound : Sound [] db) (entered : Entered db) (ended : Ended [] db)
    (found : db.evaluationAttempts.find? id = some attempt) :
    (settleEvaluationAttempt attempt actor destinations).Yields db () db := by
  have isId : attempt.id = id := Table.key_of_find? found
  subst isId
  obtain ⟨run, runFound⟩ := sound.evaluationAttempts _ attempt found
  have owner : db.ownerOf? .evaluationAttempt attempt.id = some run.experimentId :=
    Option.bind_eq_some_iff.mpr ⟨attempt, found, Option.map_eq_some_iff.mpr ⟨run, runFound, rfl⟩⟩
  unfold settleEvaluationAttempt
  split
  · refine (experimentOfEvaluationRun_yields runFound).bind ?_
    refine settleAttempt_yields .evaluationAttempt sound entered ended owner ?_
    exact fun failed => ⟨attempt, found, of_decide_eq_true failed⟩
  · exact Transaction.yields_pure () db

/-- A run that ended was settled by what was committed. -/
theorem settleRun_yields {id : String} {run : Run} (sound : Sound [] db) (entered : Entered db)
    (settled : Settled [] db) (found : db.runs.find? id = some run) :
    (settleRun run actor destinations).Yields db () db := by
  have isId : run.id = id := Table.key_of_find? found
  subst isId
  have owner := sound.ownerOfRun found
  unfold settleRun
  split
  · rename_i isEnded
    have done := (settled.settled _ run found isEnded).resolve_left List.not_mem_nil
    refine Transaction.yields_read ?_
    cases reserved : db.entryOf .run run.id .runs .reserve with
    | none => exact Transaction.yields_pure () db
    | some entry =>
        have limited : ∀ other, db.ownerOf? .run run.id = some other →
            (db.limitOn other .runs).isSome := by
          intro other isOther
          have same := Option.some.inj ((entered.owner _ entry reserved).symm.trans isOther)
          exact same ▸ entered.limited _ entry reserved
        refine Transaction.yields_read ?_
        cases committed : db.entryOf .run run.id .runs .commit with
        | none =>
            refine settleReservation_yields sound entered owner (done.resolve_right ?_)
            intro consumed
            have isCommitted := settled.consumed run.id (consumed _ owner (limited _ owner))
            rw [committed] at isCommitted
            cases isCommitted
        | some _ =>
            simp only [sound.amounts _ entry reserved]
            refine ledger_yields sound entered owner (done.resolve_left ?_)
            intro released
            have uncommitted := settled.released run.id (released _ owner (limited _ owner))
            rw [committed] at uncommitted
            cases uncommitted
  · exact Transaction.yields_pure () db

theorem commitBudget_yields {id : String} {operation : RuntimeOperation} {attempt : RunAttempt}
    {run : Run} (sound : Sound [] db) (entered : Entered db) (settled : Settled [] db)
    (found : db.operations.find? id = some operation) (confirmed : submitConfirmed operation = true)
    (attemptFound : db.attempts.find? operation.target.id = some attempt)
    (runFound : db.runs.find? attempt.runId = some run) (owner : run.experimentId = experimentId) :
    (commitBudget experimentId operation.target.id actor destinations).Yields db () db := by
  have runOwner : db.ownerOf? .run attempt.runId = some experimentId :=
    Option.map_eq_some_iff.mpr ⟨run, runFound, owner⟩
  have slotOwner : db.ownerOf? .trainingAttempt operation.target.id = some experimentId :=
    Option.bind_eq_some_iff.mpr ⟨attempt, attemptFound, runOwner⟩
  obtain ⟨slot, quota⟩ :=
    (settled.committed id operation found confirmed).resolve_left List.not_mem_nil operation found
  unfold commitBudget
  refine (loadRow_yields (α := RunAttempt) attemptFound).bind ?_
  refine (settleReservation_yields sound entered slotOwner slot).bind ?_
  exact settleReservation_yields sound entered runOwner (quota attempt attemptFound)

/-- Where every settlement was written with its cause, the safety net writes nothing. -/
theorem settleBudget_yields (experimentId : String) (sound : Sound [] db) (entered : Entered db)
    (ended : Ended [] db) (settled : Settled [] db) :
    (settleBudget experimentId actor destinations).Yields db 0 db := by
  have ofAttempt : ∀ run attempt, db.runs.find? run.id = some run →
      run.experimentId = experimentId → attempt ∈ db.attemptsForRun run.id →
      (settleAttemptRecord experimentId attempt actor destinations).Yields db () db := by
    intro run attempt runFound owned listed
    obtain ⟨found, ofRun⟩ := Db.mem_attemptsForRun.mp listed
    have runFound' : db.runs.find? attempt.runId = some run := by rw [ofRun]; exact runFound
    unfold settleAttemptRecord
    refine Transaction.yields_read (Transaction.Yields.bind (Transaction.yields_forEach ?_)
      (settleRunAttempt_yields sound entered ended found runFound'))
    intro operation listed'
    obtain ⟨stored, isTarget⟩ := List.mem_filter.mp listed'
    have operationFound : db.operations.find? operation.id = some operation :=
      Table.find?_of_mem stored
    have target : operation.target = ⟨.trainingAttempt, attempt.id⟩ := of_decide_eq_true isTarget
    split
    · rename_i isConfirmed
      have confirmed : submitConfirmed operation = true := by
        unfold submitConfirmed
        rw [isConfirmed.1, isConfirmed.2, target]
        rfl
      have attemptFound : db.attempts.find? operation.target.id = some attempt := by
        rw [target]
        exact found
      have isAttempt : operation.target.id = attempt.id := by rw [target]
      exact isAttempt ▸ commitBudget_yields sound entered settled operationFound confirmed
        attemptFound runFound' owned
    · exact Transaction.yields_pure () db
  unfold settleBudget
  refine Transaction.yields_read (Transaction.yields_read ?_)
  refine Transaction.Yields.bind (Transaction.yields_forEach ?_) ?_
  · intro node listed
    obtain ⟨nodeFound, ofExperiment⟩ := Db.mem_nodesForExperiment.mp listed
    unfold settleNodeRecord
    refine Transaction.yields_read (Transaction.Yields.bind (Transaction.yields_forEach ?_)
      (Transaction.yields_read (Transaction.yields_forEach ?_)))
    · intro run listed'
      obtain ⟨runFound, ofNode⟩ := Db.mem_runsForNode.mp listed'
      have owned : run.experimentId = experimentId := by
        obtain ⟨node', nodeFound', same⟩ := sound.runs _ run runFound
        rw [ofNode, nodeFound, Option.some.injEq] at nodeFound'
        rw [← same, ← nodeFound', ofExperiment]
      unfold settleRunRecord
      exact Transaction.yields_read (Transaction.Yields.bind
        (Transaction.yields_forEach fun attempt => ofAttempt run attempt runFound owned)
        (settleRun_yields sound entered settled runFound))
    · intro evaluation _
      refine Transaction.yields_read (Transaction.yields_forEach fun attempt listed' => ?_)
      exact settleEvaluationAttempt_yields sound entered ended
        (Db.mem_evaluationAttemptsForRun.mp listed').1
  · refine Transaction.yields_read ?_
    rw [Nat.sub_self]
    exact Transaction.yields_pure 0 db

end Idle

/-! ## Runs of calls -/

/-- No training submission is confirmed after its run ended uncommitted. -/
def ConfirmsInTime (db : Db) (op : Op) : Prop :=
  match op with
  | .confirmOperation operationId _ _ _ _ => ¬ ConfirmsLate db operationId
  | _ => True

/-- What is proved of the run quota at a point of a transaction. -/
structure QuotaKept (d : Debt) (db : Db) : Prop extends Balanced d db where
  settled : Settled d db
  quota : WithinQuota db

theorem ReachableBy.quotaKept {checks : Checks} {db : Db}
    (reached : ReachableBy checks ConfirmsInTime db) : QuotaKept [] db := by
  refine ReachableBy.invariant_of_idle reached
    ⟨⟨Entered.empty, Ended.empty, WithinLimits.empty⟩, Settled.empty, WithinQuota.empty⟩ ?_
  intro db₀ op permitted sound kept
  by_cases late : op.late db₀
  · left
    cases op with
    | confirmOperation => exact absurd late permitted
    | settleBudget experimentId actor destinations =>
        have idle : (settleBudget experimentId actor destinations).settle db₀ = db₀ :=
          (settleBudget_yields experimentId sound kept.entered kept.ended kept.settled).settle
        unfold Op.exec
        rcases Session.bind_settle (Session.commit (settleBudget experimentId actor destinations))
          (fun _ => pure ()) db₀ with raised | ⟨_, continued⟩
        · exact raised.trans ((Session.commit_settle _ _).trans idle)
        · exact continued.trans ((Session.commit_settle _ _).trans idle)
    | _ => cases late
  · right
    intro d db d' db' sound' write kept'
    have balanced : Balanced d' db' := ⟨write.entered sound' kept'.entered,
      write.ended sound' kept'.ended,
      write.withinLimits sound' kept'.entered kept'.ended kept'.within⟩
    exact ⟨balanced, write.settled late sound' kept'.settled,
      write.withinQuota sound' kept'.entered kept'.settled kept'.quota⟩

/-- When no submission is confirmed after its run ended uncommitted, every run is reserved once and
settled once when it ends, the quota holds, and the safety net finds nothing to write. -/
theorem run_quota_conserved {checks : Checks} {db : Db}
    (reached : ReachableBy checks ConfirmsInTime db) {experimentId : String}
    {experiment : Experiment} {limit : Int}
    (found : db.experiments.find? experimentId = some experiment)
    (limited : limit? experiment.budget .runs = some limit) :
    (∀ id run, db.runs.find? id = some run → run.experimentId = experimentId →
      (db.entryOf .run id .runs .reserve).isSome ∧
      (run.isTerminal = false → db.entryOf .run id .runs .release = none ∧
        db.entryOf .run id .runs .consume = none) ∧
      (run.isTerminal = true →
        ((db.entryOf .run id .runs .release).isSome ∧ db.entryOf .run id .runs .consume = none) ∨
        (db.entryOf .run id .runs .release = none ∧
          (db.entryOf .run id .runs .consume).isSome))) ∧
    (∃ status, statusOf (db.budgetStatus experiment) .runs = some status ∧
      status.outstanding = (db.liveRuns experimentId).length ∧
      status.consumed + status.outstanding ≤ limit) ∧
    ∀ actor destinations, settleBudget experimentId actor destinations db = .ok (0, db) := by
  have sound := ReachableBy.sound reached
  obtain ⟨⟨entered, ended, _⟩, settled, quota⟩ := ReachableBy.quotaKept reached
  have isId : experiment.id = experimentId := Table.key_of_find? found
  have limitOn : db.limitOn experimentId .runs = some limit := by
    unfold Db.limitOn
    rw [found]
    exact limited
  have isLimited : (db.limitOn experimentId .runs).isSome :=
    Option.isSome_iff_exists.mpr ⟨limit, limitOn⟩
  refine ⟨?_, ?_, ?_⟩
  · intro id run stored owned
    have owner : db.ownerOf? .run id = some experimentId :=
      Option.map_eq_some_iff.mpr ⟨run, stored, owned⟩
    have never : ¬ ((db.entryOf .run id .runs .release).isSome ∧
        (db.entryOf .run id .runs .consume).isSome) := by
      rintro ⟨release, consume⟩
      have committed := settled.consumed id consume
      rw [settled.released id release] at committed
      cases committed
    refine ⟨(sound.quotas id run stored).resolve_left List.not_mem_nil _ owner isLimited, ?_, ?_⟩
    · intro live
      have none : ∀ kind, kind = .release ∨ kind = .consume →
          db.entryOf .run id .runs kind = none := by
        intro kind settles
        by_contra written
        have isSome := Option.isSome_iff_ne_none.mpr written
        obtain ⟨run', stored', isEnded⟩ := settled.onlyEnded id (by
          rcases settles with rfl | rfl
          · exact .inl isSome
          · exact .inr isSome)
        rw [stored, Option.some.injEq] at stored'
        rw [← stored', live] at isEnded
        cases isEnded
      exact ⟨none .release (.inl rfl), none .consume (.inr rfl)⟩
    · intro isEnded
      rcases (settled.settled id run stored isEnded).resolve_left List.not_mem_nil with
        released | consumed
      · have release := released _ owner isLimited
        exact .inl ⟨release, Option.not_isSome_iff_eq_none.mp fun consume =>
          never ⟨release, consume⟩⟩
      · have consume := consumed _ owner isLimited
        exact .inr ⟨Option.not_isSome_iff_eq_none.mp fun release => never ⟨release, consume⟩,
          consume⟩
  · obtain ⟨outstanding, consumed⟩ := runs_status limit sound entered settled isLimited
    refine ⟨_, by rw [Db.budgetStatus, statusOf_budgetStatus, limited]; rfl, ?_⟩
    rw [isId, outstanding, consumed]
    have split := runs_split settled isLimited
    have bound := quota experimentId limit limitOn
    exact ⟨rfl, by omega⟩
  · intro actor destinations
    exact settleBudget_yields experimentId sound entered ended settled

/-- A run of an experiment limited to one, at once and in all, is submitted, and ends before the
submission is confirmed. -/
def endedUnconfirmed : List Op :=
  let system : Actor := ⟨"system", "controller", ""⟩
  [.createExperiment { id := "e", budget := some { maxRuns := some 1, maxParallelRuns := some 1 } }
      system [],
    .createNode { id := "n", experimentId := "e", candidateFingerprint := "" } system [],
    .createRun { id := "r", experimentId := "e", nodeId := "n", candidateFingerprint := "" } system
      [],
    .createAttemptWithSubmitIntent { id := "a", runId := "r", attemptNumber := 1 } "submit" ""
      system [],
    .transitionRun "r" 0 .cancelled system none []]

theorem run_quota_conserved_ended :
    ∃ db, ReachableBy .permissive ConfirmsInTime db ∧
      (db.runs.find? "r").map Run.isTerminal = some true ∧
      (db.entryOf .run "r" .runs .reserve).isSome ∧ (db.entryOf .run "r" .runs .release).isSome ∧
      db.entryOf .run "r" .runs .consume = none := by
  have reached : ReachableBy .permissive ConfirmsInTime
      (execAll .permissive endedUnconfirmed Db.empty) := by
    refine reaches_execAll endedUnconfirmed .start ?_
    intro op member db
    simp only [endedUnconfirmed, List.mem_cons, List.not_mem_nil, or_false] at member
    rcases member with rfl | rfl | rfl | rfl | rfl <;> trivial
  have bound : (execAll .permissive endedUnconfirmed Db.empty).limitOn "e" .runs = some 1 := by
    decide
  obtain ⟨experiment, stored, limited⟩ := Option.bind_eq_some_iff.mp bound
  have ran : ((execAll .permissive endedUnconfirmed Db.empty).runs.find? "r").map
      (fun run => (run.experimentId, run.isTerminal)) = some ("e", true) := by decide
  obtain ⟨run, runFound, isRun⟩ := Option.map_eq_some_iff.mp ran
  obtain ⟨owned, isEnded⟩ := Prod.mk.inj isRun
  obtain ⟨reserve, _, settled⟩ :=
    (run_quota_conserved reached stored limited).1 "r" run runFound owned
  have released : ((execAll .permissive endedUnconfirmed Db.empty).entryOf .run "r" .runs
      .release).isSome := by decide
  refine ⟨_, reached, by rw [runFound, Option.map_some, isEnded], reserve, released, ?_⟩
  rcases settled isEnded with ⟨_, unconsumed⟩ | ⟨unreleased, _⟩
  · exact unconsumed
  · rw [unreleased] at released
    cases released

/-- A submission confirmed after its run ended lets the safety net consume a run already
released. -/
theorem run_released_and_consumed :
    ∃ db, Reachable .permissive db ∧ db.limitOn "e" .runs = some 1 ∧
      (db.runs.find? "r").map (fun run => (run.experimentId, run.isTerminal)) = some ("e", true) ∧
      (db.entryOf .run "r" .runs .release).isSome ∧
        (db.entryOf .run "r" .runs .consume).isSome := by
  let ops : List Op := endedUnconfirmed ++
    [.confirmOperation "submit" 0 ⟨"system", "controller", ""⟩ (some "job") [],
      .settleBudget "e" ⟨"system", "controller", ""⟩ []]
  exact ⟨execAll .permissive ops Db.empty, reachable_execAll _ ops .start, by decide,
    by decide, by decide, by decide⟩

end Xaytune.Storage
