import Xaytune.Storage.Soundness

/-!
# The statements as writes

The rules for the statements operations are built from: a read performs nothing, an
insert or update is a write of its kind, an event pays for the row it describes, and
a ledger statement leaves its subject accounted for.
-/

namespace Xaytune.Storage

open Xaytune.Core Xaytune.Library

/-- Every commit of `m` is a chain of writes under the licence. -/
abbrev Legal (L : Licence) {α : Type} (m : Repo α) (d : Debt) (db : Db)
    (post : α → Debt → Db → Prop) : Prop :=
  Performs (Write L) Sound m d db post

/-- A row stored in its table is what its key stands for, and its table is nothing else's. -/
class LawfulStored (α : Type) [Stored α] : Prop where
  standing_eq : ∀ (db : Db) (id : String),
    db.standing ⟨Stored.kind α, id⟩ =
      ((tableOf α db).find? id).map fun row => (Stored.revision row, Stored.status row)
  table_setTable : ∀ (db : Db) (table : Table (Stored.id (α := α))),
    tableOf α (Stored.setTable table db) = table := by
      intro _ _
      rfl
  events_setTable : ∀ (db : Db) (table : Table (Stored.id (α := α))),
    (Stored.setTable table db).events = db.events := by
      intro _ _
      rfl
  standing_setTable : ∀ (db : Db) (table : Table (Stored.id (α := α))) (kind : AggregateKind)
    (id : String), kind ≠ Stored.kind α →
      (Stored.setTable table db).standing ⟨kind, id⟩ = db.standing ⟨kind, id⟩ := by
        intro _ _ kind _ other
        cases kind <;> first | exact absurd rfl other | rfl

instance : LawfulStored Experiment where standing_eq _ _ := rfl
instance : LawfulStored ExperimentNode where standing_eq _ _ := rfl
instance : LawfulStored Run where standing_eq _ _ := rfl
instance : LawfulStored RunAttempt where standing_eq _ _ := rfl
instance : LawfulStored EvaluationRun where standing_eq _ _ := rfl
instance : LawfulStored EvaluationAttempt where standing_eq _ _ := rfl
instance : LawfulStored Action where standing_eq _ _ := rfl
instance : LawfulStored RuntimeOperation where standing_eq _ _ := rfl

section Rules

variable {L : Licence} {α β : Type} {d d' : Debt} {db db' : Db}

/-- A statement that is one write. -/
theorem Legal.step {m : Repo α} {a : α} {post : α → Debt → Db → Prop} (ran : m db = .ok (a, db'))
    (write : Write L d db d' db') (holds : post a d' db') : Legal L m d db post := by
  intro sound b s ran'
  rw [ran] at ran'
  cases ran'
  exact ⟨d', .tail .refl write, write.sound sound, holds⟩

/-- What has been done is no longer owed. -/
theorem Legal.pay {m : Repo α} {post : α → Debt → Db → Prop} (d' : Debt)
    (paid : ∀ owed ∈ d, owed ∈ d' ∨ Paid db owed) (sub : ∀ owed ∈ d', owed ∈ d)
    (rest : Legal L m d' db post) : Legal L m d db post := by
  intro sound a s ran
  have write : Write L d db d' db := .pay d' paid sub
  obtain ⟨d'', chain, kept, holds⟩ := rest (write.sound sound) a s ran
  exact ⟨d'', (Steps.tail .refl write).trans chain, kept, holds⟩

/-- What a statement has done is no longer owed after it. -/
theorem Legal.thenPay {m : Repo α} {post : α → Debt → Db → Prop}
    (legal : Legal L m d db fun a d' db' => ∃ d'', (∀ owed ∈ d', owed ∈ d'' ∨ Paid db' owed) ∧
      (∀ owed ∈ d'', owed ∈ d') ∧ post a d'' db') : Legal L m d db post := by
  intro sound a s ran
  obtain ⟨d', chain, kept, d'', paid, sub, holds⟩ := legal sound a s ran
  have write : Write L d' s d'' s := .pay d'' paid sub
  exact ⟨d'', chain.tail write, write.sound kept, holds⟩

/-- What a statement leaves is the record it started from, grown. -/
theorem Legal.grows {m : Repo α} {post : α → Debt → Db → Prop}
    (legal : Legal L m d db fun a d' db' => Grows db db' → post a d' db') :
    Legal L m d db post := by
  intro sound a s ran
  obtain ⟨d', chain, kept, holds⟩ := legal sound a s ran
  refine ⟨d', chain, kept, holds ?_⟩
  exact chain.relates Grows.refl (fun _ _ _ => Grows.trans) fun _ _ _ _ write => write.grows

/-! ## Rows -/

variable [Stored α] {f : α → Repo β} {post : Unit → Debt → Db → Prop}
  {done : β → Debt → Db → Prop}

theorem Legal.get {f : Option α → Repo β} {id : String}
    (rest : Legal L (f ((tableOf α db).find? id)) d db done) :
    Legal L (getRow α id >>= f) d db done :=
  .bind (.value rest)

theorem Legal.load {id : String}
    (rest : ∀ row, (tableOf α db).find? id = some row → Legal L (f row) d db done) :
    Legal L (loadRow α id >>= f) d db done := by
  refine .bind ?_
  unfold loadRow
  exact Legal.get (.found rest)

theorem Legal.loadAt {id : String} {expectedRevision : Nat}
    (rest : ∀ row, (tableOf α db).find? id = some row → Legal L (f row) d db done) :
    Legal L (loadAt α id expectedRevision >>= f) d db done := by
  refine .bind ?_
  unfold Storage.loadAt
  refine Legal.load ?_
  intro row found
  exact .require fun _ => .pure (rest row found)

theorem Legal.insertRow {row : α}
    (legal : ∀ table, (tableOf α db).insert? row = some table →
      ∃ d', Write L d db d' (Stored.setTable table db) ∧ post () d' (Stored.setTable table db)) :
    Legal L (insertRow row) d db post := by
  cases inserted : (tableOf α db).insert? row with
  | none =>
      intro _ _ _ ran
      simp only [Storage.insertRow, inserted] at ran
      cases ran
  | some table =>
      obtain ⟨d', write, holds⟩ := legal table inserted
      exact .step (by simp only [Storage.insertRow, inserted]) write holds

theorem Legal.updateRow {row : α}
    (legal : ∀ stored, (tableOf α db).find? (Stored.id row) = some stored →
      Stored.revision stored + 1 = Stored.revision row →
      ∃ d', Write L d db d' (Stored.setTable ((tableOf α db).replace row) db) ∧
        post () d' (Stored.setTable ((tableOf α db).replace row) db)) :
    Legal L (updateRow row) d db post := by
  cases found : (tableOf α db).find? (Stored.id row) with
  | none =>
      intro _ _ _ ran
      simp only [Storage.updateRow, found] at ran
      cases ran
  | some stored =>
      by_cases next : Stored.revision stored + 1 = Stored.revision row
      · obtain ⟨d', write, holds⟩ := legal stored found next
        exact .step (by simp only [Storage.updateRow, found, if_pos next]) write holds
      · intro _ _ _ ran
        simp only [Storage.updateRow, found, if_neg next] at ran
        cases ran

/-- What an update leaves, when it does not raise. -/
theorem loadRow_yields {id : String} {row : α} (found : (tableOf α db).find? id = some row) :
    (Storage.loadRow α id).Yields db row db := by
  unfold Storage.loadRow getRow
  exact Transaction.yields_read (Transaction.yields_expect found db)

theorem loadRow_ensures {id : String} {after : α → Db → Prop}
    (holds : ∀ row, (tableOf α db).find? id = some row → after row db) :
    (Storage.loadRow α id).Ensures db after := by
  unfold Storage.loadRow getRow
  exact Transaction.ensures_bind.mpr (Transaction.ensures_read.mpr
    (Transaction.ensures_expect.mpr holds))

theorem updateRow_ensures {row : α} {after : Unit → Db → Prop}
    (holds : ∀ stored, (tableOf α db).find? (Stored.id row) = some stored →
      after () (Stored.setTable ((tableOf α db).replace row) db)) :
    (updateRow row).Ensures db after := by
  intro answer db' ran
  cases found : (tableOf α db).find? (Stored.id row) with
  | none =>
      simp only [updateRow, found] at ran
      cases ran
  | some stored =>
      by_cases next : Stored.revision stored + 1 = Stored.revision row
      · simp only [updateRow, found, if_pos next] at ran
        cases ran
        exact holds stored found
      · simp only [updateRow, found, if_neg next] at ran
        cases ran

/-- Journalling a stored row pays for its event. -/
theorem Legal.emit [LawfulStored α] {row : α} {eventType experimentId : String} {actor : Actor}
    {destinations : List String} {extra : EventExtra} (d' : Debt)
    (stored : (tableOf α db).find? (Stored.id row) = some row)
    (typed : TypedAs L (Stored.kind α) eventType) (plain : isPlain extra = true)
    (paid : ∀ owed ∈ d, owed ∈ d' ∨ owed = .event ⟨Stored.kind α, Stored.id row⟩)
    (sub : ∀ owed ∈ d', owed ∈ d)
    (holds : post () d'
      (db.record (eventOf row eventType experimentId actor extra) destinations)) :
    Legal L (emit row eventType experimentId actor destinations extra) d db post := by
  intro sound a s ran
  cases ran
  let event := eventOf row eventType experimentId actor extra
  have stands : db.standing ⟨Stored.kind α, Stored.id row⟩ =
      some (Stored.revision row, Stored.status row) := by
    rw [LawfulStored.standing_eq, stored, Option.map_some]
  have noted : Write L d db d (db.record event destinations) := .note event _ stands plain typed
  have write : Write L d (db.record event destinations) d' (db.record event destinations) := by
    refine .pay d' ?_ sub
    intro owed due
    rcases paid owed due with kept | rfl
    · exact .inl kept
    · exact .inr ⟨event, List.mem_append_right _ (List.mem_singleton.mpr rfl), rfl, stands⟩
  exact ⟨d', (Steps.tail .refl noted).tail write, write.sound (noted.sound sound), holds⟩

/-- Journalling a stored row once more. -/
theorem Legal.note [LawfulStored α] {row : α} {eventType experimentId : String} {actor : Actor}
    {destinations : List String} {extra : EventExtra}
    (stored : (tableOf α db).find? (Stored.id row) = some row)
    (typed : TypedAs L (Stored.kind α) eventType) (plain : isPlain extra = true)
    (holds : post () d
      (db.record (eventOf row eventType experimentId actor extra) destinations)) :
    Legal L (Storage.emit row eventType experimentId actor destinations extra) d db post :=
  .emit d stored typed plain (fun _ due => .inl due) (fun _ due => due) holds

end Rules

/-! ## Plain tables -/

section Tables

variable {L : Licence} {d : Debt} {db : Db} {post : Unit → Debt → Db → Prop} {α κ : Type}
  {key : α → κ} [DecidableEq κ]

theorem Legal.insertInto {table : Db → Table key} {setTable : Table key → Db → Db} {row : α}
    (legal : ∀ table', (table db).insert? row = some table' →
      Write L d db d (setTable table' db) ∧ post () d (setTable table' db)) :
    Legal L (insertInto table setTable row) d db post := by
  cases inserted : (table db).insert? row with
  | none =>
      intro _ _ _ ran
      simp only [Storage.insertInto, inserted] at ran
      cases ran
  | some table' =>
      obtain ⟨write, holds⟩ := legal table' inserted
      exact .step (by simp only [Storage.insertInto, inserted]) write holds

theorem Legal.requireReference {table : Db → Table key} {k : κ}
    (holds : (∃ row, (table db).find? k = some row) → post () d db) :
    Legal L (requireReference table k) d db post := by
  unfold Storage.requireReference
  exact .read (.check fun found => holds (Option.isSome_iff_exists.mp found))

theorem Legal.requirePristine {S : Type} [DecidableEq S] {status initial : S} {revision : Nat}
    (holds : status = initial → revision = 0 → post () d db) :
    Legal L (requirePristine status initial revision) d db post := by
  unfold Storage.requirePristine
  refine .require fun isInitial => .check fun isZero => ?_
  exact holds (by simpa using isInitial) (by simpa using isZero)

end Tables

end Xaytune.Storage
