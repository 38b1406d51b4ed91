import Xaytune.Storage.Legality.Repository

/-!
# The journal follows the record

Every revision of every aggregate has its event, no event is ahead of the row it is
about, and the last event of an aggregate says the status it stands at. A write
either leaves both sides alone, appends an event of a row as it stands, or takes one
aggregate to its next revision and owes the event for it.
-/

namespace Xaytune.Storage

open Xaytune.Core Xaytune.Library

/-! ## What a write does to the journal and to what stands -/

/-- One write, as the journal sees it. -/
inductive Journals (d : Debt) (db : Db) (d' : Debt) (db' : Db) : Prop
  /-- Nothing moved; an event no longer owed has been written. -/
  | still (standing : ∀ key, db'.standing key = db.standing key) (events : db'.events = db.events)
      (paid : ∀ key, .event key ∈ d → .event key ∈ d' ∨ Paid db (.event key))
  /-- Events of aggregates as they stand. -/
  | notes (standing : ∀ key, db'.standing key = db.standing key) (noted : List DomainEvent)
      (events : db'.events = db.events ++ noted)
      (stand : ∀ event ∈ noted,
        db.standing event.aggregate = some (event.aggregateRevision, event.status))
      (single : noted.length ≤ 1) (owed : ∀ key, .event key ∈ d → .event key ∈ d')
  /-- One aggregate appears, or goes from a journalled revision to the next. -/
  | advances (key : AggregateKey) (revision : Nat) (status : String)
      (others : ∀ other, other ≠ key → db'.standing other = db.standing other)
      (stands : db'.standing key = some (revision, status)) (events : db'.events = db.events)
      (before : (db.standing key = none ∧ revision = 0) ∨
        ∃ old, db.standing key = some old ∧ revision = old.1 + 1 ∧ .event key ∉ d)
      (due : .event key ∈ d') (owed : ∀ key, .event key ∈ d → .event key ∈ d')
  /-- An aggregate goes to its next revision and is journalled there. -/
  | journalled (event : DomainEvent) (old : Nat × String)
      (others : ∀ other, other ≠ event.aggregate → db'.standing other = db.standing other)
      (stands : db'.standing event.aggregate = some (event.aggregateRevision, event.status))
      (events : db'.events = db.events ++ [event])
      (before : db.standing event.aggregate = some old)
      (next : event.aggregateRevision = old.1 + 1) (settled : .event event.aggregate ∉ d)
      (owed : ∀ key, .event key ∈ d → .event key ∈ d')

section Shapes

variable {L : Licence} {d d' : Debt} {db : Db} {α : Type} [Stored α] [LawfulStored α]

theorem Journals.insert {row : α} {table : Table (Stored.id (α := α))}
    (inserted : (tableOf α db).insert? row = some table) (pristine : Stored.revision row = 0)
    (due : .event ⟨Stored.kind α, Stored.id row⟩ ∈ d')
    (owed : ∀ key, .event key ∈ d → .event key ∈ d') :
    Journals d db d' (Stored.setTable table db) := by
  have isTable := LawfulStored.table_setTable db table
  have sameEvents := LawfulStored.events_setTable db table
  refine .advances ⟨Stored.kind α, Stored.id row⟩ 0 (Stored.status row) ?_ ?_ sameEvents
    (.inl ⟨?_, rfl⟩) due owed
  · rintro ⟨kind, id⟩ other
    by_cases same : kind = Stored.kind α
    · subst same
      have differs : id ≠ Stored.id row := by
        rintro rfl
        exact other rfl
      rw [LawfulStored.standing_eq, LawfulStored.standing_eq, isTable,
        Table.find?_insert?_of_ne inserted differs]
    · exact LawfulStored.standing_setTable _ _ kind id same
  · rw [LawfulStored.standing_eq, isTable, Table.find?_insert?_self inserted, Option.map_some,
      pristine]
  · rw [LawfulStored.standing_eq, Table.find?_fresh inserted, Option.map_none]

omit [Stored α] [LawfulStored α] in
/-- The edges are not journalled. -/
theorem Journals.addEdges {db' : Db} {node : ExperimentNode} (journals : Journals d db d' db') :
    Journals d db d' (db'.addEdges node) := by
  cases journals with
  | still same events owed => exact .still same events owed
  | notes same noted events stand few owed => exact .notes same noted events stand few owed
  | advances key revision status others stands events before due owed =>
      exact .advances key revision status others stands events before due owed
  | journalled event old others stands events before next settled owed =>
      exact .journalled event old others stands events before next settled owed

theorem Journals.move {old new : α}
    (found : (tableOf α db).find? (Stored.id new) = some old)
    (next : Stored.revision new = Stored.revision old + 1)
    (journalled : .event ⟨Stored.kind α, Stored.id new⟩ ∉ d)
    (due : .event ⟨Stored.kind α, Stored.id new⟩ ∈ d')
    (owed : ∀ key, .event key ∈ d → .event key ∈ d') :
    Journals d db d' (Stored.setTable ((tableOf α db).replace new) db) := by
  have isTable := LawfulStored.table_setTable db ((tableOf α db).replace new)
  have sameEvents := LawfulStored.events_setTable db ((tableOf α db).replace new)
  refine .advances ⟨Stored.kind α, Stored.id new⟩ (Stored.revision new) (Stored.status new) ?_ ?_
    sameEvents (.inr ⟨(Stored.revision old, Stored.status old), ?_, next, journalled⟩) due owed
  · rintro ⟨kind, id⟩ other
    by_cases same : kind = Stored.kind α
    · subst same
      have differs : id ≠ Stored.id new := by
        rintro rfl
        exact other rfl
      rw [LawfulStored.standing_eq, LawfulStored.standing_eq, isTable,
        Table.find?_replace_of_ne differs]
    · exact LawfulStored.standing_setTable _ _ kind id same
  · rw [LawfulStored.standing_eq, isTable, Table.find?_replace_self found, Option.map_some]
  · rw [LawfulStored.standing_eq, found, Option.map_some]

/-- An event of a stored row says how it stands. -/
theorem eventOf_stands {row : α} {eventType experimentId : String} {actor : Actor}
    {extra : EventExtra} (found : (tableOf α db).find? (Stored.id row) = some row) :
    db.standing (eventOf row eventType experimentId actor extra).aggregate =
      some ((eventOf row eventType experimentId actor extra).aggregateRevision,
        (eventOf row eventType experimentId actor extra).status) := by
  unfold eventOf
  rw [LawfulStored.standing_eq, found, Option.map_some]

end Shapes

section Steps

variable {L : Licence} {d d' : Debt} {db db' : Db}

theorem event_mem_append {more : Debt} {owed : Owed} :
    ∀ other, Owed.event other ∈ d → Owed.event other ∈ owed :: (more ++ d) :=
  fun _ due => List.mem_cons_of_mem _ (List.mem_append_right _ due)

/-- Every write is one of the four. -/
theorem Write.journals (write : Write L d db d' db') : Journals d db d' db' := by
  cases write with
  | aux other aside => exact .still (fun _ => rfl) rfl fun _ due => .inl due
  | pay _ paid _ => exact .still (fun _ => rfl) rfl fun key due => paid (.event key) due
  | note event destinations stands plain typed =>
      refine .notes (fun _ => rfl) [event] rfl ?_ (Nat.le_refl 1) fun _ due => due
      intro other member
      rw [List.mem_singleton.mp member]
      exact stands
  | post => exact .still (fun _ => rfl) rfl fun _ due => .inl due
  | fail entry table kind experiment limit actor outbox inserted owned consumed failed found
      limited =>
      refine .notes (fun _ => rfl) _ rfl ?_ ?_ fun _ due => due
      · intro event member
        unfold overrunEvents at member
        split at member
        · rw [List.mem_singleton.mp member]
          exact eventOf_stands (Table.find?_of_mem (Table.mem_of_find? found))
        · cases member
      · unfold overrunEvents
        split <;> simp
  | insertExperiment _ _ inserted new | insertEvaluationRun _ _ inserted new
  | insertEvaluationAttempt _ _ inserted new | insertOperation _ _ inserted new =>
      exact .insert inserted new.pristine List.mem_cons_self fun _ => List.mem_cons_of_mem _
  | insertNode row table inserted new =>
      exact .addEdges (.insert inserted new.pristine List.mem_cons_self
        fun _ => List.mem_cons_of_mem _)
  | insertRun _ _ inserted new | insertAttempt _ _ inserted new =>
      exact .insert inserted new.pristine List.mem_cons_self fun _ due =>
        absurd due List.not_mem_nil
  | insertAction row table inserted new =>
      exact .insert inserted new.pristine List.mem_cons_self event_mem_append
  | moveExperiment old new found moved journalled =>
      obtain ⟨_, _, _, rfl⟩ := moved
      exact .move found rfl journalled List.mem_cons_self fun _ => List.mem_cons_of_mem _
  | moveNode old new found moved journalled =>
      obtain ⟨_, _, _, _, rfl⟩ := moved
      exact .move found rfl journalled List.mem_cons_self event_mem_append
  | moveRun _ _ found moved journalled | moveEvaluationAttempt _ _ found moved journalled =>
      obtain ⟨_, _, rfl⟩ := moved
      exact .move found rfl journalled List.mem_cons_self event_mem_append
  | moveAttempt _ _ found moved journalled | moveOperation _ _ found moved journalled =>
      obtain ⟨_, _, _, rfl⟩ := moved
      exact .move found rfl journalled List.mem_cons_self event_mem_append
  | moveEvaluationRun old new found moved journalled =>
      obtain ⟨_, _, rfl⟩ := moved
      exact .move found rfl journalled List.mem_cons_self fun _ => List.mem_cons_of_mem _
  | moveAction old new event destinations found moved journalled cancellation authorized said =>
      have next : new.revision = old.revision + 1 := by
        obtain ⟨_, _, _, _, rfl⟩ := moved
        rfl
      have replaced : ∀ other : AggregateKey, other ≠ ⟨.action, new.id⟩ →
          (db.setActions (db.actions.replace new)).standing other = db.standing other := by
        rintro ⟨kind, id⟩ other
        cases kind with
        | action =>
            have differs : id ≠ new.id := by
              rintro rfl
              exact other rfl
            show ((db.actions.replace new).find? id).map _ = (db.actions.find? id).map _
            rw [Table.find?_replace_of_ne differs]
        | _ => rfl
      refine .journalled event (old.revision, value old.status) ?_ ?_ rfl ?_ ?_ ?_ fun _ due => due
      · intro other differs
        rw [said.aggregate] at differs
        exact replaced other differs
      · rw [said.aggregate, said.revision, said.status]
        show ((db.actions.replace new).find? new.id).map _ = _
        rw [Table.find?_replace_self found, Option.map_some]
      · rw [said.aggregate]
        show (db.actions.find? new.id).map _ = _
        rw [found, Option.map_some]
      · rw [said.revision, next]
      · rw [said.aggregate]
        exact journalled
  | checkpoint | episode | oomBinding | numericalBinding | numericalReceipt =>
      exact .still (fun _ => rfl) rfl fun _ due => .inl due
  | intervention row run action actor outbox table runFound =>
      refine .notes (fun _ => rfl) [_] rfl ?_ (Nat.le_refl 1) fun _ due => due
      intro event member
      rw [List.mem_singleton.mp member]
      exact eventOf_stands (Table.find?_of_mem (Table.mem_of_find? runFound))
  | application row attempt run decision actor outbox table attemptFound =>
      refine .notes (fun _ => rfl) [_] rfl ?_ (Nat.le_refl 1) fun _ due => due
      intro event member
      rw [List.mem_singleton.mp member]
      exact eventOf_stands (Table.find?_of_mem (Table.mem_of_find? attemptFound))

end Steps

/-! ## The invariant -/

/-- The journal agrees with what stands, but for the events still owed. -/
structure Journal (d : Debt) (db : Db) : Prop where
  /-- No event is ahead of its aggregate, and one at its revision says its status. -/
  behind : ∀ event ∈ db.events, ∃ revision status,
    db.standing event.aggregate = some (revision, status) ∧ event.aggregateRevision ≤ revision ∧
      (event.aggregateRevision = revision → event.status = status)
  /-- Every revision has its event, the last one unless it is owed. -/
  complete : ∀ key revision status, db.standing key = some (revision, status) →
    ∀ k, k < revision ∨ (k = revision ∧ .event key ∉ d) →
      ∃ event ∈ db.events, event.aggregate = key ∧ event.aggregateRevision = k
  /-- The revisions of an aggregate never decrease along the journal. -/
  ordered : ∀ key, (db.eventsFor key).Pairwise fun first second =>
    first.aggregateRevision ≤ second.aggregateRevision

theorem Journal.empty : Journal [] Db.empty := by
  refine ⟨fun _ member => absurd member List.not_mem_nil, ?_, fun _ => List.Pairwise.nil⟩
  rintro ⟨kind, id⟩ revision status stands
  cases kind <;> cases stands

section Kept

variable {d d' : Debt} {db db' : Db}

theorem Journal.still (journal : Journal d db)
    (standing : ∀ key, db'.standing key = db.standing key) (events : db'.events = db.events)
    (paid : ∀ key, .event key ∈ d → .event key ∈ d' ∨ Paid db (.event key)) : Journal d' db' where
  behind := by
    intro event member
    rw [events] at member
    rw [standing]
    exact journal.behind event member
  complete := by
    intro key revision status stands k covered
    rw [standing] at stands
    rw [events]
    rcases covered with below | ⟨rfl, notOwed⟩
    · exact journal.complete key revision status stands k (.inl below)
    · by_cases owed : .event key ∈ d
      · -- the event was owed, so it has been written since
        rcases paid key owed with stillOwed | ⟨event, member, isKey, stands'⟩
        · exact absurd stillOwed notOwed
        · rw [stands, Option.some.injEq, Prod.mk.injEq] at stands'
          exact ⟨event, member, isKey, stands'.1.symm⟩
      · exact journal.complete key _ status stands _ (.inr ⟨rfl, owed⟩)
  ordered := by
    intro key
    rw [Db.eventsFor, events]
    exact journal.ordered key

theorem pairwise_of_short {α : Type} {related : α → α → Prop} {items : List α}
    (short : items.length ≤ 1) : items.Pairwise related := by
  match items, short with
  | [], _ => exact List.Pairwise.nil
  | [item], _ => exact List.pairwise_singleton related item

theorem Journal.notes (journal : Journal d db) {noted : List DomainEvent}
    (standing : ∀ key, db'.standing key = db.standing key)
    (events : db'.events = db.events ++ noted)
    (stand : ∀ event ∈ noted,
      db.standing event.aggregate = some (event.aggregateRevision, event.status))
    (single : noted.length ≤ 1) (owed : ∀ key, .event key ∈ d → .event key ∈ d') :
    Journal d' db' where
  behind := by
    intro event member
    rw [standing]
    rw [events] at member
    rcases List.mem_append.mp member with old | new
    · exact journal.behind event old
    · exact ⟨_, _, stand event new, Nat.le_refl _, fun _ => rfl⟩
  complete := by
    intro key revision status stands k covered
    rw [standing] at stands
    have covered' : k < revision ∨ (k = revision ∧ .event key ∉ d) :=
      covered.imp id fun ⟨same, notOwed⟩ => ⟨same, fun due => notOwed (owed key due)⟩
    obtain ⟨event, member, isKey, isRevision⟩ :=
      journal.complete key revision status stands k covered'
    exact ⟨event, events ▸ List.mem_append_left _ member, isKey, isRevision⟩
  ordered := by
    intro key
    have before : (db.events.filter fun event => event.aggregate = key).Pairwise
        fun first second => first.aggregateRevision ≤ second.aggregateRevision :=
      journal.ordered key
    rw [Db.eventsFor, events, List.filter_append]
    refine List.pairwise_append.mpr ⟨before, ?_, ?_⟩
    · refine pairwise_of_short ((List.length_filter_le _ _).trans single)
    · intro old oldMember new newMember
      obtain ⟨oldEvent, oldKey⟩ := List.mem_filter.mp oldMember
      obtain ⟨newEvent, newKey⟩ := List.mem_filter.mp newMember
      obtain ⟨revision, status, stands, below, _⟩ := journal.behind old oldEvent
      have stands' := stand new newEvent
      rw [of_decide_eq_true oldKey] at stands
      rw [of_decide_eq_true newKey, stands, Option.some.injEq, Prod.mk.injEq] at stands'
      exact stands'.1 ▸ below

theorem Journal.advances (journal : Journal d db) {key : AggregateKey} {revision : Nat}
    {status : String} (others : ∀ other, other ≠ key → db'.standing other = db.standing other)
    (stands : db'.standing key = some (revision, status)) (events : db'.events = db.events)
    (before : (db.standing key = none ∧ revision = 0) ∨
      ∃ old, db.standing key = some old ∧ revision = old.1 + 1 ∧ .event key ∉ d)
    (due : .event key ∈ d') (owed : ∀ key, .event key ∈ d → .event key ∈ d') :
    Journal d' db' where
  behind := by
    intro event member
    rw [events] at member
    obtain ⟨oldRevision, oldStatus, oldStands, below, atRevision⟩ := journal.behind event member
    by_cases here : event.aggregate = key
    · rw [here] at oldStands ⊢
      rcases before with ⟨absent, _⟩ | ⟨old, present, next, _⟩
      · rw [absent] at oldStands
        cases oldStands
      · rw [present, Option.some.injEq] at oldStands
        subst oldStands
        refine ⟨revision, status, stands, ?_, ?_⟩
        · simp only at below next
          omega
        · intro same
          simp only at below next
          omega
    · exact ⟨oldRevision, oldStatus, (others _ here).trans oldStands, below, atRevision⟩
  complete := by
    intro other otherRevision otherStatus otherStands k covered
    rw [events]
    by_cases here : other = key
    · subst here
      rw [stands, Option.some.injEq, Prod.mk.injEq] at otherStands
      obtain ⟨rfl, rfl⟩ := otherStands
      rcases covered with below | ⟨_, notOwed⟩
      · rcases before with ⟨_, rfl⟩ | ⟨old, present, rfl, journalled⟩
        · exact absurd below (Nat.not_lt_zero k)
        · refine journal.complete other old.1 old.2 present k ?_
          rcases Nat.lt_succ_iff_lt_or_eq.mp below with earlier | same
          · exact .inl earlier
          · exact .inr ⟨same, journalled⟩
      · exact absurd due notOwed
    · rw [others other here] at otherStands
      refine journal.complete other otherRevision otherStatus otherStands k ?_
      exact covered.imp id fun ⟨same, notOwed⟩ => ⟨same, fun isDue => notOwed (owed other isDue)⟩
  ordered := by
    intro other
    rw [Db.eventsFor, events]
    exact journal.ordered other

/-- An advance that is journalled at once: the aggregate advances, then is noted. -/
theorem Journal.journalled (journal : Journal d db) {event : DomainEvent} {old : Nat × String}
    (others : ∀ other, other ≠ event.aggregate → db'.standing other = db.standing other)
    (stands : db'.standing event.aggregate = some (event.aggregateRevision, event.status))
    (events : db'.events = db.events ++ [event]) (before : db.standing event.aggregate = some old)
    (next : event.aggregateRevision = old.1 + 1) (settled : .event event.aggregate ∉ d)
    (owed : ∀ key, .event key ∈ d → .event key ∈ d') : Journal d' db' := by
  have silent : ∀ key, ({ db' with events := db.events } : Db).standing key = db'.standing key :=
    fun _ => rfl
  have advanced : Journal (.event event.aggregate :: d') { db' with events := db.events } :=
    journal.advances others stands rfl (.inr ⟨old, before, next, settled⟩) List.mem_cons_self
      fun key due => List.mem_cons_of_mem _ (owed key due)
  have noted : Journal (.event event.aggregate :: d') db' := by
    refine advanced.notes (fun key => (silent key).symm) events ?_ (Nat.le_refl 1) fun _ due => due
    intro other member
    rw [List.mem_singleton.mp member]
    exact stands
  refine noted.still (fun _ => rfl) rfl ?_
  intro key due
  rcases List.mem_cons.mp due with here | due
  · cases here
    refine .inr ⟨event, ?_, rfl, stands⟩
    rw [events]
    exact List.mem_append_right _ (List.mem_singleton.mpr rfl)
  · exact .inl due

theorem Write.journal {L : Licence} (write : Write L d db d' db') (journal : Journal d db) :
    Journal d' db' := by
  cases write.journals with
  | still standing events paid => exact journal.still standing events paid
  | notes standing noted events stand single owed =>
      exact journal.notes standing events stand single owed
  | advances key revision status others stands events before due owed =>
      exact journal.advances others stands events before due owed
  | journalled event old others stands events before next settled owed =>
      exact journal.journalled others stands events before next settled owed

end Kept

theorem ReachableBy.journal {checks : Checks} {allowed : Db → Op → Prop} {db : Db}
    (reached : ReachableBy checks allowed db) : Journal [] db :=
  reached.invariant Journal.empty fun _ _ _ _ _ _ _ _ write journal => write.journal journal

/-! ## No state without its event -/

/-- The last event of an aggregate says the status it stands at. -/
theorem Journal.last {db : Db} (journal : Journal [] db) {key : AggregateKey} {revision : Nat}
    {status : String} (stands : db.standing key = some (revision, status)) :
    ∃ event, (db.eventsFor key).getLast? = some event ∧ event.aggregateRevision = revision ∧
      event.status = status := by
  obtain ⟨event, member, isKey, isRevision⟩ :=
    journal.complete key revision status stands revision (.inr ⟨rfl, List.not_mem_nil⟩)
  have listed : event ∈ db.eventsFor key :=
    List.mem_filter.mpr ⟨member, decide_eq_true isKey⟩
  have nonempty : db.eventsFor key ≠ [] := List.ne_nil_of_mem listed
  let last := (db.eventsFor key).getLast nonempty
  have isLast : (db.eventsFor key).getLast? = some last := List.getLast?_eq_some_getLast nonempty
  obtain ⟨lastMember, lastKey⟩ := List.mem_filter.mp (List.getLast_mem nonempty)
  obtain ⟨_, _, lastStands, below, atRevision⟩ := journal.behind last lastMember
  rw [of_decide_eq_true lastKey, stands, Option.some.injEq, Prod.mk.injEq] at lastStands
  obtain ⟨rfl, rfl⟩ := lastStands
  -- the event at the revision is not after the last one
  have upTo : event.aggregateRevision ≤ last.aggregateRevision := by
    have split := List.dropLast_append_getLast nonempty
    have ordered := journal.ordered key
    rw [← split, List.pairwise_append] at ordered
    rw [← split] at listed
    rcases List.mem_append.mp listed with earlier | same
    · exact ordered.2.2 event earlier last (List.mem_singleton.mpr rfl)
    · rw [List.mem_singleton.mp same]
  have same : last.aggregateRevision = revision := by omega
  exact ⟨last, isLast, same, atRevision same⟩

/-- Every revision of every stored aggregate has its event, none is ahead of it, the revisions never
decrease along the journal, and the last event says the status stored now. -/
theorem no_state_without_event (checks : Checks) (db : Db) (reached : Reachable checks db)
    (key : AggregateKey) (revision : Nat) (status : String)
    (stands : db.standing key = some (revision, status)) :
    (∀ k, k ≤ revision → ∃ event ∈ db.eventsFor key, event.aggregateRevision = k) ∧
      (∀ event ∈ db.eventsFor key, event.aggregateRevision ≤ revision) ∧
      ((db.eventsFor key).map DomainEvent.aggregateRevision).Pairwise (· ≤ ·) ∧
      ∃ event, (db.eventsFor key).getLast? = some event ∧ event.status = status := by
  have journal : Journal [] db := reached.journal
  refine ⟨?_, ?_, ?_, ?_⟩
  · intro k upTo
    obtain ⟨event, member, isKey, isRevision⟩ := journal.complete key revision status stands k
      ((Nat.lt_or_eq_of_le upTo).imp id fun same => ⟨same, List.not_mem_nil⟩)
    exact ⟨event, List.mem_filter.mpr ⟨member, decide_eq_true isKey⟩, isRevision⟩
  · intro event listed
    obtain ⟨member, isKey⟩ := List.mem_filter.mp listed
    obtain ⟨_, _, stands', below, _⟩ := journal.behind event member
    rw [of_decide_eq_true isKey, stands, Option.some.injEq, Prod.mk.injEq] at stands'
    exact stands'.1 ▸ below
  · exact List.pairwise_map.mpr (journal.ordered key)
  · obtain ⟨event, isLast, _, isStatus⟩ := journal.last stands
    exact ⟨event, isLast, isStatus⟩

/-- An experiment created and then moved, with both of its events. -/
theorem no_state_without_event_activated :
    ∃ db, Reachable .permissive db ∧ db.standing ⟨.experiment, "e"⟩ = some (1, "active") ∧
      (∀ k, k ≤ 1 → ∃ event ∈ db.eventsFor ⟨.experiment, "e"⟩, event.aggregateRevision = k) ∧
      ∃ event, (db.eventsFor ⟨.experiment, "e"⟩).getLast? = some event ∧
        event.status = "active" := by
  let ops : List Op := [.createExperiment { id := "e" } ⟨"system", "controller", ""⟩ [],
    .transitionExperiment "e" 0 .active ⟨"system", "controller", ""⟩ none []]
  have reached : Reachable .permissive (execAll .permissive ops Db.empty) :=
    reachable_execAll _ ops .start
  have stands : (execAll .permissive ops Db.empty).standing ⟨.experiment, "e"⟩ =
      some (1, "active") := rfl
  obtain ⟨complete, _, _, last⟩ := no_state_without_event _ _ reached _ _ _ stands
  exact ⟨_, reached, stands, complete, last⟩

end Xaytune.Storage
