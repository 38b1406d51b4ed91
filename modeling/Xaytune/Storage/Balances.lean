import Xaytune.Storage.Legality.Repository

/-!
# What the ledger's balances count

Every entry is for one, for the experiment that owns its subject, and of one of the
few shapes the repository writes. So the totals of an experiment count its subjects.
-/

namespace Xaytune.Storage

open Xaytune.Core Xaytune.Library

/-- The shapes of entry the repository writes. -/
def LedgerShape (key : LedgerKey) : Prop :=
  match key.dimension, key.kind, key.subjectKind with
  | .parallelRuns, .consume, _ => False
  | .parallelRuns, _, .trainingAttempt => True
  | .runs, _, .run => True
  | .failures, .consume, .trainingAttempt | .failures, .consume, .evaluationAttempt => True
  | _, _, _ => False

/-- Every entry is of a known shape, and for the experiment that owns its subject. -/
structure Entered (db : Db) : Prop where
  shape : ∀ key entry, db.ledger.find? key = some entry → LedgerShape key
  owner : ∀ key entry, db.ledger.find? key = some entry →
    db.ownerOf? key.subjectKind key.subjectId = some entry.experimentId
  limited : ∀ key entry, db.ledger.find? key = some entry →
    (db.limitOn entry.experimentId key.dimension).isSome

theorem Entered.empty : Entered Db.empty := by
  constructor <;> intro _ _ found <;> cases found

section Kept

variable {L : Licence} {d d' : Debt} {db db' : Db}

/-- What a write adds to the ledger. -/
theorem Write.entry_origin {key : LedgerKey} {entry : BudgetLedgerEntry}
    (write : Write L d db d' db') (found : db'.ledger.find? key = some entry) :
    db.ledger.find? key = some entry ∨
      (db.ledger.find? key = none ∧ entry.key = key ∧ Owned db entry ∧
        (Postable L d db entry ∨ ∃ kind, entry.dimension = .failures ∧ entry.kind = .consume ∧
          entry.subjectKind = budgetSubject kind ∧ db.attemptFailed kind entry.subjectId)) := by
  cases write with
  | post row table inserted owned postable =>
      rcases (Table.find?_insert? inserted).mp found with ⟨rfl, rfl⟩ | ⟨_, stored⟩
      · exact .inr ⟨Table.find?_fresh inserted, rfl, owned, .inl postable⟩
      · exact .inl stored
  | fail row table kind experiment limit actor outbox inserted owned consumed failed =>
      rcases (Table.find?_insert? inserted).mp found with ⟨rfl, rfl⟩ | ⟨_, stored⟩
      · refine .inr ⟨Table.find?_fresh inserted, rfl, owned, .inr ⟨kind, consumed.1, consumed.2.1,
          consumed.2.2, ?_⟩⟩
        cases kind <;> exact failed
      · exact .inl stored
  | _ => exact .inl found

theorem shape_of_postable {entry : BudgetLedgerEntry} (postable : Postable L d db entry) :
    LedgerShape entry.key := by
  unfold Postable at postable
  unfold LedgerShape BudgetLedgerEntry.key
  cases dimension : entry.dimension <;> cases kind : entry.kind <;>
    cases subject : entry.subjectKind <;> simp_all

theorem Write.entered (write : Write L d db d' db') (sound : Sound d db) (entered : Entered db) :
    Entered db' where
  shape := by
    intro key entry found
    rcases write.entry_origin found with stored | ⟨_, rfl, _, postable | ⟨kind, dim, kin, sub, _⟩⟩
    · exact entered.shape key entry stored
    · exact shape_of_postable postable
    · unfold LedgerShape BudgetLedgerEntry.key
      rw [dim, kin, sub]
      cases kind <;> trivial
  owner := by
    intro key entry found
    refine write.grows.ownerOf ?_
    rcases write.entry_origin found with stored | ⟨_, rfl, owned, _⟩
    · exact entered.owner key entry stored
    · exact owned.owner
  limited := by
    intro key entry found
    have before : ∃ experiment, db.experiments.find? entry.experimentId = some experiment ∧
        (db.limitOn entry.experimentId key.dimension).isSome := by
      rcases write.entry_origin found with stored | ⟨_, rfl, owned, _⟩
      · obtain ⟨experiment, experimentFound⟩ := sound.ownerStored (entered.owner key entry stored)
        exact ⟨experiment, experimentFound, entered.limited key entry stored⟩
      · obtain ⟨experiment, experimentFound⟩ := sound.ownerStored owned.owner
        exact ⟨experiment, experimentFound, owned.limited⟩
    obtain ⟨experiment, experimentFound, limited⟩ := before
    rw [write.grows.limitOn_eq experimentFound]
    exact limited

end Kept

/-! ## Totals -/

section Totals

variable {db : Db} {experimentId : String} {dimension : BudgetDimension} {kind : LedgerEntryKind}

/-- The keys of an experiment's entries of one kind on one dimension. -/
def Db.subjects (db : Db) (experimentId : String) (dimension : BudgetDimension)
    (kind : LedgerEntryKind) : List LedgerKey :=
  db.ledger.keysWhere fun entry => entry.experimentId = experimentId &&
    (entry.dimension = dimension ∧ entry.kind = kind)

theorem Db.mem_subjects {key : LedgerKey} :
    key ∈ db.subjects experimentId dimension kind ↔
      ∃ entry, db.ledger.find? key = some entry ∧ entry.experimentId = experimentId ∧
        key.dimension = dimension ∧ key.kind = kind := by
  unfold Db.subjects
  rw [Table.mem_keysWhere]
  refine exists_congr fun entry => and_congr_right fun found => ?_
  have isKey : entry.key = key := Table.key_of_find? found
  subst isKey
  simp [BudgetLedgerEntry.key]

/-- Where every amount is one, a total is a count. -/
theorem ledgerTotal_eq
    (amounts : ∀ key entry, db.ledger.find? key = some entry → entry.amount = 1) :
    ledgerTotal (db.entries experimentId) dimension kind =
      (db.subjects experimentId dimension kind).length := by
  unfold ledgerTotal Db.entries Db.subjects Table.keysWhere
  rw [List.filter_filter, List.length_map]
  have same : (db.ledger.rows.filter fun entry =>
      decide (entry.dimension = dimension ∧ entry.kind = kind) &&
        decide (entry.experimentId = experimentId)) =
      db.ledger.rows.filter fun entry => decide (entry.experimentId = experimentId) &&
        decide (entry.dimension = dimension ∧ entry.kind = kind) :=
    List.filter_congr fun entry _ => Bool.and_comm _ _
  rw [same]
  have ones : ∀ entry ∈ db.ledger.rows.filter (fun entry =>
      decide (entry.experimentId = experimentId) &&
        decide (entry.dimension = dimension ∧ entry.kind = kind)), entry.amount = 1 := by
    intro entry member
    exact amounts entry.key entry (Table.find?_of_mem (List.mem_of_mem_filter member))
  generalize (db.ledger.rows.filter fun entry => decide (entry.experimentId = experimentId) &&
    decide (entry.dimension = dimension ∧ entry.kind = kind)) = entries at ones
  induction entries with
  | nil => rfl
  | cons entry rest ih =>
      rw [List.map_cons, List.sum_cons, ones entry List.mem_cons_self,
        ih fun other member => ones other (List.mem_cons_of_mem _ member), List.length_cons]
      omega

/-- The subjects of one kind of entry are the ids of a list, when the entries are its elements'. -/
theorem length_subjects {ids : List String} (nodup : ids.Nodup) (subject : BudgetSubjectKind)
    (same : ∀ key, key ∈ db.subjects experimentId dimension kind ↔
      key.subjectKind = subject ∧ key.dimension = dimension ∧ key.kind = kind ∧
        key.subjectId ∈ ids) :
    (db.subjects experimentId dimension kind).length = ids.length := by
  have asKeys : (db.subjects experimentId dimension kind).length =
      (ids.map fun id => (⟨subject, id, dimension, kind⟩ : LedgerKey)).length := by
    refine Table.length_eq_of_mem_iff (Table.nodup_keysWhere _ _) ?_ ?_
    · refine nodup.map ?_
      intro first second equal
      exact congrArg LedgerKey.subjectId equal
    · rintro ⟨sub, id, dim, kin⟩
      rw [same, List.mem_map]
      constructor
      · rintro ⟨rfl, rfl, rfl, member⟩
        exact ⟨id, member, rfl⟩
      · rintro ⟨other, member, equal⟩
        cases equal
        exact ⟨rfl, rfl, rfl, member⟩
  rw [asKeys, List.length_map]

end Totals

end Xaytune.Storage
