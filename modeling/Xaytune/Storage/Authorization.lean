import Xaytune.Storage.Journal

/-!
# Authorization

What governed an action before it executed is in the record: its one decision, and
the human's approval where the decision required one. The events that say an action
was answered, turned down or begun are read as one list, and the list an action may
have is decided by its status.
-/

namespace Xaytune.Storage

open Xaytune.Core Xaytune.Library

/-- The events that say an action was answered, turned down or begun, oldest first. -/
def Db.governing (db : Db) (actionId : String) : List DomainEvent :=
  (db.eventsFor ⟨.action, actionId⟩).filter fun event => event.eventType ∈ governingEvents

/-- The action has begun. -/
def ActionStatus.executed (status : ActionStatus) : Prop :=
  status = .executing ∨ status = .succeeded ∨ status = .failed

structure IsApproval (event : DomainEvent) : Prop where
  type : event.eventType = "ActionApproved"
  human : event.actor.type = "human"

/-- The governing events an action may have at its status. -/
def Course (status : ActionStatus) (events : List DomainEvent) : Prop :=
  match status with
  | .proposed | .validating | .validated | .approvalPending => events = []
  | .approved => ∃ approval, IsApproval approval ∧ events = [approval]
  | .rejected => (∀ event ∈ events, event.eventType ≠ "ActionExecuting") ∧
      ((∀ event ∈ events, event.eventType ≠ "ActionApproved") ∨
        ∀ event ∈ events, event.eventType ≠ "ActionApprovalDenied")
  | .executing | .succeeded | .failed => ∃ execution : DomainEvent,
      execution.eventType = "ActionExecuting" ∧
        (events = [execution] ∨ ∃ approval, IsApproval approval ∧ events = [approval, execution])

/-! ## One write -/

section Steps

variable {L : Licence} {d d' : Debt} {db db' : Db}

/-- What an appended event adds to the governing events of an action. -/
theorem governing_append {event : DomainEvent} (events : db'.events = db.events ++ [event])
    (id : String) : db'.governing id = db.governing id ++
      if event.aggregate = ⟨.action, id⟩ ∧
        event.eventType ∈ governingEvents then [event] else [] := by
  unfold Db.governing Db.eventsFor
  rw [events, List.filter_append, List.filter_append]
  congr 1
  by_cases here : event.aggregate = ⟨.action, id⟩ <;>
    by_cases governs : event.eventType ∈ governingEvents <;>
    simp [here, governs]

theorem governing_append_of_not {event : DomainEvent} (events : db'.events = db.events ++ [event])
    {id : String} (quiet : event.aggregate = ⟨.action, id⟩ → event.eventType ∉ governingEvents) :
    db'.governing id = db.governing id := by
  rw [governing_append events, if_neg, List.append_nil]
  rintro ⟨here, governs⟩
  exact quiet here governs

/-- What a write does to an action and its governing events. -/
inductive Governs (d : Debt) (db db' : Db) (id : String) : Prop
  | still (row : db'.actions.find? id = db.actions.find? id)
      (events : db'.governing id = db.governing id)
  | proposed (row : Action) (fresh : db.actions.find? id = none)
      (stored : db'.actions.find? id = some row) (isProposed : row.status = .proposed)
      (events : db'.events = db.events)
  | moved (old new : Action) (event : DomainEvent) (found : db.actions.find? id = some old)
      (stored : db'.actions.find? id = some new) (moves : ActionMoves old new)
      (authorized : Authorizes db old new)
      (tells : MoveTells old new.status event.eventType event.actor)
      (decisions : db'.policyDecisions = db.policyDecisions)
      (events : db'.governing id = db.governing id ++
        if event.eventType ∈ governingEvents then [event] else [])

theorem Write.governs (write : Write L d db d' db') (id : String) : Governs d db db' id := by
  cases write with
  | note event destinations stands plain typed =>
      refine .still rfl (governing_append_of_not rfl ?_)
      intro here
      exact typed.2 (congrArg AggregateKey.kind here)
  | fail entry table kind experiment limit actor outbox =>
      refine .still rfl ?_
      -- an overrun is an event of the experiment
      have foreign : ∀ event ∈ overrunEvents experiment limit (db.entries experiment.id)
          ((db.setLedger table).entries experiment.id) actor,
          event.aggregate ≠ ⟨.action, id⟩ := by
        intro event member here
        unfold overrunEvents at member
        split at member
        · rw [List.mem_singleton.mp member] at here
          cases congrArg AggregateKey.kind here
        · cases member
      unfold Db.governing Db.eventsFor Db.setBooks
      have none : (overrunEvents experiment limit (db.entries experiment.id)
          ((db.setLedger table).entries experiment.id) actor).filter
            (fun event => event.aggregate = ⟨.action, id⟩) = [] := by
        rw [List.filter_eq_nil_iff]
        intro event member here
        exact foreign event member (of_decide_eq_true here)
      rw [List.filter_append, none, List.append_nil]
  | intervention | application =>
      exact .still rfl (governing_append_of_not rfl fun here =>
        nomatch congrArg AggregateKey.kind here)
  | insertAction row table inserted new =>
      by_cases here : id = row.id
      · subst here
        exact .proposed row (Table.find?_fresh inserted) (Table.find?_insert?_self inserted)
          new.proposed rfl
      · exact .still (Table.find?_insert?_of_ne inserted here) rfl
  | moveAction old new event destinations found moved journalled cancellation authorized said =>
      by_cases here : id = new.id
      · subst here
        refine .moved old new event found (Table.find?_replace_self found) moved authorized
          said.tells rfl ?_
        rw [governing_append rfl, said.aggregate]
        simp only [true_and]
        rfl
      · refine .still (Table.find?_replace_of_ne here) (governing_append_of_not rfl ?_)
        intro isHere
        rw [said.aggregate] at isHere
        exact absurd (congrArg AggregateKey.id isHere).symm here
  | _ => exact .still rfl rfl

/-- A stored decision was stored before, or is the first about a governed action. -/
theorem Write.policyDecision_step {decision : PolicyDecision} (write : Write L d db d' db')
    (member : decision ∈ db'.policyDecisions.rows) :
    decision ∈ db.policyDecisions.rows ∨
      (db.decisionForAction decision.actionId = none ∧
        (∃ action, db.actions.find? decision.actionId = some action ∧
          action.isCancellation = false) ∧
        ∀ other ∈ db'.policyDecisions.rows, other ∈ db.policyDecisions.rows ∨
          other = decision) := by
  cases write with
  | aux other aside =>
      cases aside with
      | policyDecision row table inserted first governs =>
          have split : ∀ stored, stored ∈ table.rows →
              stored ∈ db.policyDecisions.rows ∨ stored = row := by
            intro stored isStored
            rcases (Table.find?_insert? inserted).mp (Table.find?_of_mem isStored) with
              ⟨_, rfl⟩ | ⟨_, before⟩
            · exact .inr rfl
            · exact .inl (Table.mem_of_find? before)
          rcases split decision member with before | rfl
          · exact .inl before
          · exact .inr ⟨first, governs, split⟩
      | _ => exact .inl member
  | _ => exact .inl member

end Steps

/-! ## The invariant -/

/-- The decisions of an action, and what it may have been authorized by. -/
structure Authorized (db : Db) : Prop where
  course : ∀ id action, db.actions.find? id = some action → Course action.status (db.governing id)
  /-- An executed action was allowed, or required the approval it has. -/
  decided : ∀ id action, db.actions.find? id = some action → action.isCancellation = false →
    ActionStatus.executed action.status → ∃ decision ∈ db.policyDecisions.rows,
      decision.actionId = id ∧
        ((decision.verdict = .allow ∧ (db.governing id).length = 1) ∨
          (decision.verdict = .requireApproval ∧ (db.governing id).length = 2))
  single : ∀ first ∈ db.policyDecisions.rows, ∀ second ∈ db.policyDecisions.rows,
    first.actionId = second.actionId → first = second
  governs : ∀ decision ∈ db.policyDecisions.rows, ∃ action,
    db.actions.find? decision.actionId = some action ∧ action.isCancellation = false

theorem Authorized.empty : Authorized Db.empty where
  course _ _ found := by cases found
  decided _ _ found := by cases found
  single _ member := absurd member List.not_mem_nil
  governs _ member := absurd member List.not_mem_nil

section Kept

variable {L : Licence} {d d' : Debt} {db db' : Db}

/-- An action that is not stored has no event yet. -/
theorem Journal.governing_fresh (journal : Journal d db) {id : String}
    (fresh : db.actions.find? id = none) : db.governing id = [] := by
  unfold Db.governing Db.eventsFor
  rw [List.filter_filter, List.filter_eq_nil_iff]
  intro event member governs
  obtain ⟨_, _, stands, _⟩ := journal.behind event member
  have here : event.aggregate = ⟨.action, id⟩ := by
    simp only [Bool.and_eq_true, decide_eq_true_eq] at governs
    exact governs.2
  rw [here] at stands
  have absent : db.standing ⟨.action, id⟩ = none := by
    show (db.actions.find? id).map _ = none
    rw [fresh, Option.map_none]
  rw [absent] at stands
  cases stands

/-- A move adds to the governing events what its event tells. -/
theorem Course.move {old new : Action} {event : DomainEvent} {events : List DomainEvent}
    (course : Course old.status events) (moves : ActionMoves old new)
    (tells : MoveTells old new.status event.eventType event.actor) :
    Course new.status
      (events ++ if event.eventType ∈ governingEvents then [event] else []) := by
  obtain ⟨status, _, _, permitted, rfl⟩ := moves
  obtain ⟨approved, denied, rejected, executing, human⟩ := tells
  simp only at approved denied rejected executing ⊢
  have quiet : status ≠ .approved → status ≠ .executing → status ≠ .rejected →
      (if event.eventType ∈ governingEvents then [event] else []) = [] := by
    intro notApproved notExecuting notRejected
    refine if_neg fun governs => ?_
    simp only [governingEvents, List.mem_cons, List.not_mem_nil, or_false] at governs
    rcases governs with isApproved | isDenied | isRejected | isExecuting
    · exact notApproved (approved.mp isApproved)
    · exact notRejected (denied isDenied).2
    · exact notRejected (rejected isRejected)
    · exact notExecuting (executing.mp isExecuting)
  cases status with
  | proposed =>
      rw [quiet (by decide) (by decide) (by decide), List.append_nil]
      cases was : old.status <;> simp [was, actionMachine, StateMachine.can] at permitted
  | validating | approvalPending | succeeded | failed =>
      rw [quiet (by decide) (by decide) (by decide), List.append_nil]
      cases was : old.status <;> simp [was, actionMachine, StateMachine.can] at permitted
      rw [was] at course
      exact course
  | validated =>
      rw [quiet (by decide) (by decide) (by decide), List.append_nil]
      cases was : old.status <;> simp [was, actionMachine, StateMachine.can] at permitted
      all_goals
        rw [was] at course
        exact course
  | approved =>
      have type : event.eventType = "ActionApproved" := approved.mpr rfl
      rw [if_pos (by rw [type]; decide)]
      cases was : old.status <;> simp [was, actionMachine, StateMachine.can] at permitted
      rw [was] at course
      have nothing : events = [] := course
      subst nothing
      exact ⟨event, ⟨type, human type⟩, rfl⟩
  | executing =>
      have type : event.eventType = "ActionExecuting" := executing.mpr rfl
      rw [if_pos (by rw [type]; decide)]
      cases was : old.status <;> simp [was, actionMachine, StateMachine.can] at permitted
      · rw [was] at course
        have nothing : events = [] := course
        subst nothing
        exact ⟨event, type, .inl rfl⟩
      · rw [was] at course
        obtain ⟨approval, isApproval, rfl⟩ := course
        exact ⟨event, type, .inr ⟨approval, isApproval, rfl⟩⟩
  | rejected =>
      -- a rejection is no execution and no approval, and denies only what awaits an answer
      have notExecuting : event.eventType ≠ "ActionExecuting" := fun same => by
        cases executing.mp same
      have notApproved : event.eventType ≠ "ActionApproved" := fun same => by
        cases approved.mp same
      have added : ∀ type : String, event.eventType ≠ type →
          (∀ earlier ∈ events, earlier.eventType ≠ type) →
          ∀ other ∈ events ++ (if event.eventType ∈ governingEvents then [event] else []),
            other.eventType ≠ type := by
        intro type differs before other member
        rcases List.mem_append.mp member with earlier | added
        · exact before other earlier
        · split at added
          · rw [List.mem_singleton.mp added]
            exact differs
          · cases added
      have unanswered : events = [] → Course .rejected
          (events ++ if event.eventType ∈ governingEvents then [event] else []) := by
        rintro rfl
        exact ⟨added _ notExecuting (fun _ member => absurd member List.not_mem_nil),
          .inl (added _ notApproved fun _ member => absurd member List.not_mem_nil)⟩
      cases was : old.status <;> simp [was, actionMachine, StateMachine.can] at permitted
      · rw [was] at course
        exact unanswered course
      · rw [was] at course
        exact unanswered course
      · rw [was] at course
        exact unanswered course
      · rw [was] at course
        exact unanswered course
      · rw [was] at course
        obtain ⟨approval, isApproval, rfl⟩ := course
        have single : ∀ type : String, type ≠ "ActionApproved" →
            ∀ earlier ∈ [approval], earlier.eventType ≠ type := by
          intro type differs earlier member same
          rw [List.mem_singleton.mp member, isApproval.type] at same
          exact differs same.symm
        refine ⟨added _ notExecuting (single _ (by decide)),
          .inr (added _ ?_ (single _ (by decide)))⟩
        intro isDenied
        rw [was] at denied
        cases (denied isDenied).1

/-- An action that ends was executing, and its end is no governing event. -/
theorem ActionMoves.ends {old new : Action} {event : DomainEvent} (moves : ActionMoves old new)
    (tells : MoveTells old new.status event.eventType event.actor)
    (ended : new.status = .succeeded ∨ new.status = .failed) :
    old.status = .executing ∧ event.eventType ∉ governingEvents := by
  constructor
  · obtain ⟨status, _, _, permitted, rfl⟩ := moves
    rcases ended with rfl | rfl
    · cases was : old.status <;> simp [was, actionMachine, StateMachine.can] at permitted
      rfl
    · cases was : old.status <;> simp [was, actionMachine, StateMachine.can] at permitted
      rfl
  · intro governs
    have other : new.status ≠ .approved ∧ new.status ≠ .rejected ∧ new.status ≠ .executing := by
      rcases ended with isStatus | isStatus <;> rw [isStatus] <;> decide
    simp only [governingEvents, List.mem_cons, List.not_mem_nil, or_false] at governs
    rcases governs with isApproved | isDenied | isRejected | isExecuting
    · exact other.1 (tells.approved.mp isApproved)
    · exact other.2.1 (tells.denied isDenied).2
    · exact other.2.1 (tells.rejected isRejected)
    · exact other.2.2 (tells.executing.mp isExecuting)

theorem Write.course_kept (write : Write L d db d' db') (journal : Journal d db)
    (authorized : Authorized db) : ∀ id action, db'.actions.find? id = some action →
      Course action.status (db'.governing id) := by
  intro id action found
  cases write.governs id with
  | still row events =>
      rw [events]
      exact authorized.course id action (row ▸ found)
  | proposed row fresh stored isProposed events =>
      have isRow : row = action := Option.some.inj (stored.symm.trans found)
      subst isRow
      have silent : db'.governing id = db.governing id := by
        unfold Db.governing Db.eventsFor
        rw [events]
      rw [silent, journal.governing_fresh fresh, isProposed]
      rfl
  | moved old new event stored stored' moves _ tells _ events =>
      have isNew : new = action := Option.some.inj (stored'.symm.trans found)
      subst isNew
      rw [events]
      exact (authorized.course id old stored).move moves tells

theorem Write.decided_kept (write : Write L d db d' db') (authorized : Authorized db) :
    ∀ id action, db'.actions.find? id = some action → action.isCancellation = false →
      ActionStatus.executed action.status → ∃ decision ∈ db'.policyDecisions.rows,
        decision.actionId = id ∧
          ((decision.verdict = .allow ∧ (db'.governing id).length = 1) ∨
            (decision.verdict = .requireApproval ∧ (db'.governing id).length = 2)) := by
  intro id action found governed executed
  have kept : ∀ decision ∈ db.policyDecisions.rows, decision ∈ db'.policyDecisions.rows := by
    intro decision member
    obtain ⟨_, found', rfl⟩ :=
      write.grows.policyDecisions _ decision (Table.find?_of_mem member)
    exact Table.mem_of_find? found'
  cases write.governs id with
  | still row events =>
      obtain ⟨decision, member, ofAction, verdict⟩ :=
        authorized.decided id action (row ▸ found) governed executed
      rw [events]
      exact ⟨decision, kept decision member, ofAction, verdict⟩
  | proposed row fresh stored isProposed events =>
      have isRow : row = action := Option.some.inj (stored.symm.trans found)
      subst isRow
      rw [isProposed] at executed
      rcases executed with same | same | same <;> cases same
  | moved old new event stored stored' moves authorizes tells sameDecisions events =>
      have isNew : new = action := Option.some.inj (stored'.symm.trans found)
      subst isNew
      have sameKind : old.isCancellation = false := moves.later.isCancellation_eq ▸ governed
      have oldId : old.id = id := Table.key_of_find? stored
      have course := authorized.course id old stored
      rw [events, sameDecisions]
      rcases executed with begun | ended
      · have type : event.eventType = "ActionExecuting" := tells.executing.mpr begun
        rw [if_pos (by rw [type]; decide)]
        obtain ⟨decision, member, ofAction, verdict⟩ := authorizes begun sameKind
        refine ⟨decision, member, ofAction.trans oldId, ?_⟩
        rcases verdict with ⟨was, allowed⟩ | ⟨was, required⟩
        · rw [was] at course
          have nothing : db.governing id = [] := course
          rw [nothing]
          exact .inl ⟨allowed, rfl⟩
        · rw [was] at course
          obtain ⟨approval, _, single⟩ := course
          rw [single]
          exact .inr ⟨required, rfl⟩
      · obtain ⟨was, quiet⟩ := moves.ends tells ended
        rw [if_neg quiet, List.append_nil]
        exact authorized.decided id old stored sameKind (.inl was)

theorem decisionForAction_isSome {decision : PolicyDecision}
    (member : decision ∈ db.policyDecisions.rows) :
    (db.decisionForAction decision.actionId).isSome = true := by
  unfold Db.decisionForAction
  rw [List.find?_isSome]
  exact ⟨decision, member, decide_eq_true rfl⟩

theorem Write.single_kept (write : Write L d db d' db') (authorized : Authorized db) :
    ∀ first ∈ db'.policyDecisions.rows, ∀ second ∈ db'.policyDecisions.rows,
      first.actionId = second.actionId → first = second := by
  -- a new decision is the first about its action, and no other was written with it
  have fresh : ∀ new, db.decisionForAction new.actionId = none →
      (∀ other ∈ db'.policyDecisions.rows, other ∈ db.policyDecisions.rows ∨ other = new) →
      ∀ other ∈ db'.policyDecisions.rows, other.actionId = new.actionId → other = new := by
    intro new first split other member same
    rcases split other member with before | isNew
    · have present := decisionForAction_isSome before
      rw [same, first] at present
      cases present
    · exact isNew
  intro first firstMember second secondMember same
  rcases write.policyDecision_step firstMember with before | ⟨unjudged, _, split⟩
  · rcases write.policyDecision_step secondMember with before' | ⟨unjudged, _, split⟩
    · exact authorized.single first before second before' same
    · exact fresh second unjudged split first firstMember same
  · exact (fresh first unjudged split second secondMember same.symm).symm

theorem Write.governs_kept (write : Write L d db d' db') (authorized : Authorized db) :
    ∀ decision ∈ db'.policyDecisions.rows, ∃ action,
      db'.actions.find? decision.actionId = some action ∧ action.isCancellation = false := by
  intro decision member
  have before : ∃ action, db.actions.find? decision.actionId = some action ∧
      action.isCancellation = false := by
    rcases write.policyDecision_step member with before | ⟨_, governs, _⟩
    · exact authorized.governs decision before
    · exact governs
  obtain ⟨action, stored, governed⟩ := before
  obtain ⟨later, found, isLater⟩ := write.grows.actions _ action stored
  exact ⟨later, found, isLater.isCancellation_eq.trans governed⟩

theorem Write.authorized (write : Write L d db d' db') (journal : Journal d db)
    (authorized : Authorized db) : Authorized db' where
  course := write.course_kept journal authorized
  decided := write.decided_kept authorized
  single := write.single_kept authorized
  governs := write.governs_kept authorized

end Kept

theorem ReachableBy.authorized {checks : Checks} {allowed : Db → Op → Prop} {db : Db}
    (reached : ReachableBy checks allowed db) : Authorized db := by
  have both : Journal [] db ∧ Authorized db := by
    refine reached.invariant (I := fun d db => Journal d db ∧ Authorized db)
      ⟨Journal.empty, Authorized.empty⟩ ?_
    rintro _ _ _ d db d' db' _ write ⟨journal, authorized⟩
    exact ⟨write.journal journal, write.authorized journal authorized⟩
  exact both.2

/-! ## No unauthorized execution -/

/-- The record says the action is not to be executed. -/
inductive TurnedDown (db : Db) (id : String) : Prop
  | denied (decision : PolicyDecision) (member : decision ∈ db.policyDecisions.rows)
      (ofAction : decision.actionId = id) (verdict : decision.verdict = .deny)
  | invalid (event : DomainEvent) (member : event ∈ db.eventsFor ⟨.action, id⟩)
      (type : event.eventType = "ActionRejected")
  | refused (event : DomainEvent) (member : event ∈ db.eventsFor ⟨.action, id⟩)
      (type : event.eventType = "ActionApprovalDenied")

section Executing

variable {db db' : Db} {id : String} {action : Action}

theorem mem_governing {event : DomainEvent} (member : event ∈ db.eventsFor ⟨.action, id⟩)
    (governs : event.eventType ∈ governingEvents) : event ∈ db.governing id :=
  List.mem_filter.mpr ⟨member, decide_eq_true governs⟩

theorem TurnedDown.grows (turned : TurnedDown db id) (grows : Grows db db') :
    TurnedDown db' id := by
  have kept : ∀ event ∈ db.eventsFor ⟨.action, id⟩, event ∈ db'.eventsFor ⟨.action, id⟩ := by
    intro event member
    obtain ⟨isEvent, ofAction⟩ := List.mem_filter.mp member
    exact List.mem_filter.mpr ⟨grows.events.subset isEvent, ofAction⟩
  cases turned with
  | denied decision member ofAction verdict =>
      obtain ⟨_, found, rfl⟩ := grows.policyDecisions _ decision (Table.find?_of_mem member)
      exact .denied decision (Table.mem_of_find? found) ofAction verdict
  | invalid event member type => exact .invalid event (kept event member) type
  | refused event member type => exact .refused event (kept event member) type

/-- The governing events of an executed action are its execution, and its approval before it. -/
theorem Course.of_executed {events : List DomainEvent} {status : ActionStatus}
    (course : Course status events) (executed : ActionStatus.executed status) :
    ∃ execution : DomainEvent, execution.eventType = "ActionExecuting" ∧
      (events = [execution] ∨ ∃ approval, IsApproval approval ∧
        events = [approval, execution]) := by
  rcases executed with rfl | rfl | rfl
  · exact course
  · exact course
  · exact course

/-- An action with an execution on record has executed. -/
theorem Course.executed {events : List DomainEvent} {status : ActionStatus}
    (course : Course status events) {event : DomainEvent} (member : event ∈ events)
    (type : event.eventType = "ActionExecuting") : ActionStatus.executed status := by
  cases status with
  | proposed | validating | validated | approvalPending =>
      have nothing : events = [] := course
      rw [nothing] at member
      cases member
  | approved =>
      obtain ⟨approval, isApproval, rfl⟩ := course
      rw [List.mem_singleton.mp member, isApproval.type] at type
      exact absurd type (by decide)
  | rejected => exact absurd type (course.1 event member)
  | executing => exact .inl rfl
  | succeeded => exact .inr (.inl rfl)
  | failed => exact .inr (.inr rfl)

/-- An executed action was neither turned down by its decision nor by anyone. -/
theorem Authorized.not_turnedDown (authorized : Authorized db)
    (found : db.actions.find? id = some action)
    (executed : ActionStatus.executed action.status) : ¬ TurnedDown db id := by
  have quiet : ∀ event ∈ db.eventsFor ⟨.action, id⟩,
      event.eventType = "ActionRejected" ∨ event.eventType = "ActionApprovalDenied" → False := by
    intro event member type
    have governs : event.eventType ∈ governingEvents := by
      rcases type with same | same <;> rw [same] <;> decide
    have listed := mem_governing member governs
    obtain ⟨execution, isExecution, single | ⟨approval, isApproval, both⟩⟩ :=
      (authorized.course id action found).of_executed executed
    · rw [single, List.mem_singleton] at listed
      rw [listed, isExecution] at type
      exact absurd type (by decide)
    · rw [both, List.mem_cons, List.mem_singleton] at listed
      rcases listed with rfl | rfl
      · rw [isApproval.type] at type
        exact absurd type (by decide)
      · rw [isExecution] at type
        exact absurd type (by decide)
  intro turned
  cases turned with
  | denied decision member ofAction verdict =>
      obtain ⟨other, stored, governed⟩ := authorized.governs decision member
      rw [ofAction, found, Option.some.injEq] at stored
      subst stored
      obtain ⟨decided, decidedMember, sameAction, verdicts⟩ :=
        authorized.decided id action found governed executed
      have same : decision = decided :=
        authorized.single _ member _ decidedMember (ofAction.trans sameAction.symm)
      subst same
      rw [verdict] at verdicts
      rcases verdicts with ⟨other, _⟩ | ⟨other, _⟩ <;> cases other
  | invalid event member type => exact quiet event member (.inl type)
  | refused event member type => exact quiet event member (.inr type)

/-- A turned down action has no execution on record. -/
theorem Authorized.unexecuted (authorized : Authorized db) (journal : Journal [] db)
    (turned : TurnedDown db id) :
    (∀ event ∈ db.eventsFor ⟨.action, id⟩, event.eventType ≠ "ActionExecuting") ∧
      ∀ action, db.actions.find? id = some action → ¬ ActionStatus.executed action.status := by
  have never : ∀ action, db.actions.find? id = some action →
      ¬ ActionStatus.executed action.status := by
    intro action found executed
    exact authorized.not_turnedDown found executed turned
  refine ⟨?_, never⟩
  intro event member type
  have listed : event ∈ db.governing id := mem_governing member (by rw [type]; decide)
  cases found : db.actions.find? id with
  | none =>
      rw [journal.governing_fresh found] at listed
      cases listed
  | some action =>
      exact never action found ((authorized.course id action found).executed listed type)

/-- The two answers exclude each other. -/
theorem Authorized.one_answer (authorized : Authorized db)
    (found : db.actions.find? id = some action) {approval denial : DomainEvent}
    (approved : approval ∈ db.eventsFor ⟨.action, id⟩)
    (isApproval : approval.eventType = "ActionApproved")
    (denied : denial ∈ db.eventsFor ⟨.action, id⟩) :
    denial.eventType ≠ "ActionApprovalDenied" := by
  intro isDenial
  have listed : approval ∈ db.governing id := mem_governing approved (by rw [isApproval]; decide)
  have listed' : denial ∈ db.governing id := mem_governing denied (by rw [isDenial]; decide)
  have course := authorized.course id action found
  have executed : ActionStatus.executed action.status → False := fun executed =>
    authorized.not_turnedDown found executed (.refused denial denied isDenial)
  cases status : action.status with
  | proposed | validating | validated | approvalPending =>
      rw [status] at course
      have nothing : db.governing id = [] := course
      rw [nothing] at listed
      cases listed
  | approved =>
      rw [status] at course
      obtain ⟨other, isOther, single⟩ := course
      rw [single, List.mem_singleton] at listed'
      rw [listed', isOther.type] at isDenial
      exact absurd isDenial (by decide)
  | rejected =>
      rw [status] at course
      rcases course.2 with noApproval | noDenial
      · exact noApproval approval listed isApproval
      · exact noDenial denial listed' isDenial
  | executing => exact executed (.inl status)
  | succeeded => exact executed (.inr (.inl status))
  | failed => exact executed (.inr (.inr status))

end Executing

/-- The journal's approvals and executions of an action, oldest first. -/
def Db.approvalsAndExecutions (db : Db) (id : String) : List DomainEvent :=
  (db.eventsFor ⟨.action, id⟩).filter fun event =>
    event.eventType = "ActionApproved" ∨ event.eventType = "ActionExecuting"

theorem approvalsAndExecutions_eq {db : Db} {id : String} : db.approvalsAndExecutions id =
    (db.governing id).filter fun event =>
      event.eventType = "ActionApproved" ∨ event.eventType = "ActionExecuting" := by
  unfold Db.approvalsAndExecutions Db.governing
  rw [List.filter_filter]
  refine List.filter_congr fun event _ => ?_
  by_cases approved : event.eventType = "ActionApproved"
  · simp [approved, governingEvents]
  · by_cases executing : event.eventType = "ActionExecuting"
    · simp [executing, governingEvents]
    · simp [approved, executing]

/-- Every executed action that is not a cancellation has one decision, which allows it or required
the one human approval journalled before its one execution; an action that was denied, failed
validation or was rejected by a human never executes; and no action is both approved and denied. -/
theorem no_unauthorized_execution (checks : Checks) (db : Db) (reached : Reachable checks db)
    (id : String) (action : Action) (found : db.actions.find? id = some action) :
    (action.isCancellation = false → ActionStatus.executed action.status →
      ∃ decision ∈ db.policyDecisions.rows, decision.actionId = id ∧
        (∀ other ∈ db.policyDecisions.rows, other.actionId = id → other = decision) ∧
        (decision.verdict = .allow ∨
          (decision.verdict = .requireApproval ∧ ∃ approval execution,
            db.approvalsAndExecutions id = [approval, execution] ∧
            approval.eventType = "ActionApproved" ∧ approval.actor.type = "human" ∧
            execution.eventType = "ActionExecuting"))) ∧
      (TurnedDown db id → ∀ db', ReachableFrom checks db db' →
        (∀ event ∈ db'.eventsFor ⟨.action, id⟩, event.eventType ≠ "ActionExecuting") ∧
          ∀ later, db'.actions.find? id = some later → ¬ ActionStatus.executed later.status) ∧
      ¬ ((∃ event ∈ db.eventsFor ⟨.action, id⟩, event.eventType = "ActionApproved") ∧
        ∃ event ∈ db.eventsFor ⟨.action, id⟩, event.eventType = "ActionApprovalDenied") := by
  have authorized : Authorized db := reached.authorized
  refine ⟨?_, ?_, ?_⟩
  · intro governed executed
    obtain ⟨decision, member, ofAction, verdict⟩ :=
      authorized.decided id action found governed executed
    refine ⟨decision, member, ofAction, ?_, ?_⟩
    · intro other otherMember otherAction
      exact authorized.single _ otherMember _ member (otherAction.trans ofAction.symm)
    · rcases verdict with ⟨allowed, _⟩ | ⟨required, two⟩
      · exact .inl allowed
      · obtain ⟨execution, isExecution, single | ⟨approval, isApproval, both⟩⟩ :=
          (authorized.course id action found).of_executed executed
        · rw [single] at two
          cases two
        · refine .inr ⟨required, approval, execution, ?_, isApproval.type, isApproval.human,
            isExecution⟩
          rw [approvalsAndExecutions_eq, both]
          simp [isApproval.type, isExecution]
  · intro turned db' later
    have reached' : Reachable checks db' := reached.trans later
    exact reached'.authorized.unexecuted reached'.journal
      (turned.grows (later.grows reached))
  · rintro ⟨⟨approval, approved, isApproval⟩, denial, denied, isDenial⟩
    exact authorized.one_answer found approved isApproval denied isDenial

/-! ## An approved resize -/

def controller : Actor := ⟨"system", "controller", ""⟩

def resizedContext : AttemptContext := ⟨⟨.trainingAttempt, "a"⟩, "r", "n", "e"⟩

def resizePlan : RecoveryPlan :=
  { id := "p", episodeId := "ep", sequence := 1, supersedesPlanId := none
    acceptedThroughSequence := 1, acceptedIncidentIds := ["i"], context := resizedContext
    inputs := "" }

def resizeProposal : OOMResizeProposal :=
  { episodeId := "ep", planId := "p", planSequence := 1, runId := "r", candidateFingerprint := ""
    sourceExecutionStateFingerprint := "", oldMicroBatchSize := 8, oldGradientAccumulation := 1
    microBatchSize := 4, gradientAccumulation := 2 }

/-- The attempt that restores the failed one's checkpoint with half the micro batch. -/
def resizedSuccessor : RunAttempt :=
  { id := "b", runId := "r", attemptNumber := 2, executionFingerprint := some "y"
    checkpointRef := some ⟨"c", ""⟩
    executionOverrides :=
      [⟨"o1", .microBatchResize, .resize 8 4, ["effective_batch_size"], some "resize", ""⟩,
        ⟨"o2", .gradientAccumulationAdjustment, .resize 1 2, ["effective_batch_size"],
          some "resize", ""⟩,
        ⟨"o3", .checkpointRestore, .checkpoint "c", [], some "resize", ""⟩] }

/-- An attempt runs out of memory; its resize requires approval, is approved and is executed. -/
def approvedResize : List Op :=
  [.createExperiment { id := "e" } controller [],
    .transitionExperiment "e" 0 .active controller none [],
    .createNode { id := "n", experimentId := "e", candidateFingerprint := "" } controller [],
    .createRun { id := "r", nodeId := "n", experimentId := "e", candidateFingerprint := "" }
      controller [],
    .transitionRun "r" 0 .active controller none [],
    .createAttemptWithSubmitIntent
      { id := "a", runId := "r", attemptNumber := 1, executionFingerprint := some "x" } "op" ""
      controller [],
    .recordCheckpoint "a" ⟨⟨"c", ""⟩, none, 0, 1, "", ""⟩ controller [],
    .transitionAttempt "a" 0 .failed controller none [] none,
    .recordIncident ⟨"i", "k", resizedContext, "CUDA_OOM", "", 0, 2, ""⟩ controller [],
    .recordRecoveryPlan resizePlan controller []
      (some { id := "ep", context := resizedContext, attemptNumber := 1
              candidateFingerprint := "" }),
    .proposeOOMRecoveryAction resizePlan "" resizeProposal
      { actionId := "resize", spec := resizeProposal.actionSpec, experimentId := "e"
        proposedBy := controller, reason := "oom", capabilities := "" }
      ⟨"", ⟨.requireApproval, "rules", "1", "", ""⟩⟩ "d" [],
    .approveAction "resize" ⟨"human", "operator", ""⟩ "fits" [],
    .recordOOMRecoveryExecution "resize" resizedSuccessor ⟨⟨"c", ""⟩, 1, ""⟩ [] "op2" ""
      controller "" []]

theorem no_unauthorized_execution_resize :
    ∃ db action decision, Reachable .permissive db ∧ db.actions.find? "resize" = some action ∧
      ActionStatus.executed action.status ∧ decision ∈ db.policyDecisions.rows ∧
      decision.actionId = "resize" ∧ (decision.verdict = .allow ∨
        (decision.verdict = .requireApproval ∧ ∃ approval execution,
          db.approvalsAndExecutions "resize" = [approval, execution] ∧
          approval.eventType = "ActionApproved" ∧ approval.actor.type = "human" ∧
          execution.eventType = "ActionExecuting")) := by
  have reached : Reachable .permissive (execAll .permissive approvedResize Db.empty) :=
    reachable_execAll _ approvedResize .start
  have begun : ((execAll .permissive approvedResize Db.empty).actions.find? "resize").map
      (fun action => (action.isCancellation, action.status)) = some (false, .executing) := by
    decide
  generalize execAll .permissive approvedResize Db.empty = db at reached begun
  obtain ⟨action, found, isAction⟩ := Option.map_eq_some_iff.mp begun
  obtain ⟨governed, executing⟩ := Prod.mk.inj isAction
  obtain ⟨decided, _⟩ := no_unauthorized_execution .permissive db reached "resize" action found
  obtain ⟨decision, member, ofAction, _, verdict⟩ := decided governed (.inl executing)
  exact ⟨db, action, decision, reached, found, .inl executing, member, ofAction, verdict⟩

end Xaytune.Storage
