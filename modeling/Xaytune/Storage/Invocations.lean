import Xaytune.Storage.Legality.Repository

/-!
# Planning rounds

A planning round is one experiment, one bound planner and one context. Its attempts
stand in the order they were begun, numbered from one; all but the last are closed
without an answer, so a round that got an answer is never asked again.
-/

namespace Xaytune.Storage

open Xaytune.Core Xaytune.Library

/-! ## The attempts of a round -/

/-- The attempts of a planning round, in the order they were begun. -/
def Db.attemptsOfRound (db : Db) (round : String × String × String) : List AgentInvocation :=
  db.invocations.rows.filter fun invocation => invocation.intent.roundKey = round

/-- Closed without an answer: asking again is safe. -/
def AgentInvocation.isClosed (invocation : AgentInvocation) : Prop :=
  invocation.status = .failed ∨ invocation.status = .outcomeUnknown

/-- How the attempts of a round stand to one another. -/
structure RoundOrdered (attempts : List AgentInvocation) : Prop where
  numbered : attempts.map AgentInvocation.attempt = List.range' 1 attempts.length
  closed : ∀ invocation ∈ attempts.dropLast, invocation.isClosed
  request : ∀ first ∈ attempts, ∀ second ∈ attempts,
    first.intent.requestFingerprint = second.intent.requestFingerprint

section Rounds

variable {db db' : Db} {round : String × String × String}

theorem mem_attemptsOfRound {invocation : AgentInvocation} :
    invocation ∈ db.attemptsOfRound round ↔
      db.invocations.find? invocation.id = some invocation ∧
        invocation.intent.roundKey = round := by
  simp [Db.attemptsOfRound, Table.find?_eq_some_iff, Table.mem_iff]

theorem AgentInvocation.isClosed.terminal {invocation : AgentInvocation}
    (closed : invocation.isClosed) :
    agentInvocationMachine.isTerminal invocation.status = true := by
  rcases closed with failed | unknown
  · rw [failed]
    rfl
  · rw [unknown]
    rfl

/-- A round's latest attempt is the one begun last. -/
theorem latestForRound_eq (ordered : RoundOrdered (db.attemptsOfRound round)) :
    db.latestForRound round = (db.attemptsOfRound round).getLast? := by
  have sorted : (db.attemptsOfRound round).Pairwise fun first second =>
      first.attempt ≤ second.attempt := by
    have numbers : ((db.attemptsOfRound round).map AgentInvocation.attempt).Pairwise (· ≤ ·) := by
      rw [ordered.numbered]
      exact (List.pairwise_lt_range' ..).imp Nat.le_of_lt
    exact List.pairwise_map.mp numbers
  unfold Db.latestForRound sortedBy
  rw [show (db.invocations.rows.filter fun invocation => invocation.intent.roundKey = round) =
    db.attemptsOfRound round from rfl, sorted.insertionSort_eq]

/-- The attempt a round's numbering goes on from. -/
theorem RoundOrdered.next (ordered : RoundOrdered (db.attemptsOfRound round)) :
    ((db.latestForRound round).map AgentInvocation.attempt).getD 0 =
      (db.attemptsOfRound round).length := by
  rw [latestForRound_eq ordered, ← List.getLast?_map, ordered.numbered, List.getLast?_range']
  split
  · rename_i none_
    rw [none_]
    rfl
  · simp

/-- A new attempt follows closed ones of the same request. -/
theorem RoundOrdered.append {invocation : AgentInvocation}
    (ordered : RoundOrdered (db.attemptsOfRound round)) (new : NewInvocation db invocation)
    (ofRound : invocation.intent.roundKey = round) :
    RoundOrdered (db.attemptsOfRound round ++ [invocation]) where
  numbered := by
    have number := new.numbered
    rw [ofRound, ordered.next] at number
    rw [List.map_append, ordered.numbered, List.map_singleton, List.length_append,
      List.length_singleton, List.range'_concat, number]
    simp
  closed := by
    intro other member
    rw [List.dropLast_concat] at member
    obtain ⟨stored, sameRound⟩ := mem_attemptsOfRound.mp member
    exact new.closed other (Table.mem_of_find? stored) (sameRound.trans ofRound.symm)
  request := by
    have asked : ∀ other ∈ db.attemptsOfRound round,
        other.intent.requestFingerprint = invocation.intent.requestFingerprint := by
      intro other member
      rcases new.request with first | ⟨recorded, stored, sameRound, same⟩
      · rw [ofRound, latestForRound_eq ordered, List.getLast?_eq_none_iff] at first
        rw [first] at member
        cases member
      · rw [← same]
        refine ordered.request other member recorded (mem_attemptsOfRound.mpr ⟨?_, ?_⟩)
        · exact Table.find?_of_mem stored
        · exact sameRound.trans ofRound
    intro first inFirst second inSecond
    rcases List.mem_append.mp inFirst with inFirst | isNew
    · rcases List.mem_append.mp inSecond with inSecond | isNew'
      · exact ordered.request first inFirst second inSecond
      · rw [List.mem_singleton.mp isNew']
        exact asked first inFirst
    · rw [List.mem_singleton.mp isNew]
      rcases List.mem_append.mp inSecond with inSecond | isNew'
      · exact (asked second inSecond).symm
      · rw [List.mem_singleton.mp isNew']

/-- An attempt that moves keeps its place, and a closed one does not move. -/
theorem RoundOrdered.replace {attempts : List AgentInvocation} {old new : AgentInvocation}
    (ordered : RoundOrdered attempts) (moved : InvocationMoves old new)
    (only : ∀ invocation ∈ attempts, invocation.id = new.id → invocation = old) :
    RoundOrdered (attempts.map fun stored => if stored.id = new.id then new else stored) := by
  obtain ⟨status, response, failure, proposal, permitted, isNew⟩ := moved
  have asked : ∀ invocation ∈ attempts,
      (if invocation.id = new.id then new else invocation).attempt = invocation.attempt ∧
        (if invocation.id = new.id then new else invocation).intent = invocation.intent := by
    intro invocation member
    split
    · rename_i same
      rw [only invocation member same, isNew]
      exact ⟨rfl, rfl⟩
    · exact ⟨rfl, rfl⟩
  constructor
  · rw [List.map_map, List.length_map, ← ordered.numbered]
    exact List.map_congr_left fun invocation member => (asked invocation member).1
  · intro other member
    rw [← List.map_dropLast] at member
    obtain ⟨invocation, inRound, rfl⟩ := List.mem_map.mp member
    have isClosed := ordered.closed invocation inRound
    by_cases same : invocation.id = new.id
    · rw [only invocation (List.dropLast_subset _ inRound) same] at isClosed
      have ended := isClosed.terminal
      rw [StateMachine.not_terminal_of_can permitted] at ended
      cases ended
    · rw [if_neg same]
      exact isClosed
  · intro first inFirst second inSecond
    obtain ⟨invocation, inRound, rfl⟩ := List.mem_map.mp inFirst
    obtain ⟨invocation', inRound', rfl⟩ := List.mem_map.mp inSecond
    rw [(asked invocation inRound).2, (asked invocation' inRound').2]
    exact ordered.request invocation inRound invocation' inRound'

/-! ## Every round of a reachable record -/

/-- The attempts of every round, in their order. -/
def Rounds (db : Db) : Prop := ∀ round, RoundOrdered (db.attemptsOfRound round)

theorem Rounds.empty : Rounds Db.empty := by
  intro round
  constructor
  · rfl
  · intro _ member
    cases member
  · intro _ member
    cases member

theorem Aside.rounds {L : Licence} {d : Debt} {other : Db} (aside : Aside L d db other)
    (rounds : Rounds db) :
    Rounds (db.withAux other) := by
  intro round
  have ordered := rounds round
  cases aside with
  | invocation row table inserted new =>
      have rows : table.rows = db.invocations.rows ++ [row] := Table.insert?_rows inserted
      change RoundOrdered (table.rows.filter fun invocation => invocation.intent.roundKey = round)
      rw [rows, List.filter_append, List.filter_singleton]
      by_cases ofRound : row.intent.roundKey = round
      · rw [decide_eq_true ofRound, cond_true]
        exact ordered.append new ofRound
      · rw [decide_eq_false ofRound, cond_false, List.append_nil]
        exact ordered
  | moveInvocation old new found moved =>
      have only : ∀ invocation ∈ db.invocations, invocation.id = new.id → invocation = old := by
        intro invocation member same
        refine Table.eq_of_key_eq member (Table.mem_of_find? found) (same.trans ?_)
        obtain ⟨_, _, _, _, _, rfl⟩ := moved
        rfl
      have asked : new.intent = old.intent := by
        obtain ⟨_, _, _, _, _, rfl⟩ := moved
        rfl
      have kept : (db.invocations.replace new).rows.filter
            (fun invocation => invocation.intent.roundKey = round) =
          (db.attemptsOfRound round).map fun stored =>
            if stored.id = new.id then new else stored := by
        unfold Table.replace Db.attemptsOfRound
        rw [List.filter_map]
        congr 1
        refine List.filter_congr ?_
        intro invocation member
        simp only [Function.comp_apply]
        split
        · rename_i same
          rw [asked, only invocation member same]
        · rfl
      change RoundOrdered ((db.invocations.replace new).rows.filter _)
      rw [kept]
      refine ordered.replace moved ?_
      intro invocation member same
      exact only invocation (List.mem_of_mem_filter member) same
  | _ => exact ordered

theorem Write.rounds {L : Licence} {d d' : Debt} (write : Write L d db d' db')
    (rounds : Rounds db) : Rounds db' := by
  cases write with
  | aux other aside => exact aside.rounds rounds
  | _ => exact rounds

theorem ReachableBy.rounds {checks : Checks} {allowed : Db → Op → Prop}
    (reached : ReachableBy checks allowed db) : Rounds db :=
  ReachableBy.invariant reached (I := fun _ db => Rounds db) Rounds.empty
    fun _ _ _ _ _ _ _ _ write rounds => write.rounds rounds

/-! ## What a round's answer settles -/

/-- At most one attempt of a round is not closed, and it is the latest. -/
theorem RoundOrdered.last {attempts : List AgentInvocation} (ordered : RoundOrdered attempts)
    {invocation : AgentInvocation} (member : invocation ∈ attempts)
    (open_ : ¬ invocation.isClosed) :
    attempts.getLast? = some invocation := by
  rcases List.eq_nil_or_concat attempts with rfl | ⟨init, last, rfl⟩
  · cases member
  · have closed := ordered.closed
    rw [List.concat_eq_append] at member closed ⊢
    rw [List.dropLast_concat] at closed
    rw [List.getLast?_concat, Option.some.injEq]
    rcases List.mem_append.mp member with earlier | isLast
    · exact absurd (closed invocation earlier) open_
    · exact (List.mem_singleton.mp isLast).symm

theorem not_closed_of_replayed {invocation : AgentInvocation}
    (replayed : invocation.status.replayed = true) : ¬ invocation.isClosed := by
  rintro (failed | unknown)
  · rw [failed] at replayed
    cases replayed
  · rw [unknown] at replayed
    cases replayed

/-- An attempt with a recorded end keeps one. -/
theorem InvocationLater.replayed {old new : AgentInvocation} (later : InvocationLater old new)
    (replayed : old.status.replayed = true) : new.status.replayed = true := by
  obtain ⟨status, _, _, _, _, isNew, closed, answered⟩ := later
  cases stands : old.status with
  | answered =>
      rw [isNew]
      exact answered stands
  | completed | refused =>
      have kept := closed (by rw [stands]; rfl)
      rw [kept]
      exact replayed
  | intended | failed | outcomeUnknown =>
      rw [stands] at replayed
      cases replayed

theorem InvocationLater.same {old new : AgentInvocation} (later : InvocationLater old new) :
    new.id = old.id ∧ new.attempt = old.attempt ∧ new.intent = old.intent := by
  obtain ⟨_, _, _, _, _, rfl, _⟩ := later
  exact ⟨rfl, rfl, rfl⟩

/-- A round with a recorded end is not asked again: its attempt is replayed, to the request it
recorded and to no other. -/
theorem beginAgentInvocation_of_replayed (ordered : RoundOrdered (db.attemptsOfRound round))
    {invocation : AgentInvocation} (member : invocation ∈ db.attemptsOfRound round)
    (replayed : invocation.status.replayed = true) {intent : AgentInvocationIntent}
    (ofRound : intent.roundKey = round) (freshId : String) :
    beginAgentInvocation intent freshId db =
      if invocation.intent.requestFingerprint = intent.requestFingerprint then
        .ok (invocation, db)
      else .error (.agentInvocationConflict "the planning round recorded another request") := by
  have latest : db.latestForRound intent.roundKey = some invocation := by
    rw [ofRound, latestForRound_eq ordered]
    exact ordered.last member (not_closed_of_replayed replayed)
  unfold beginAgentInvocation
  rw [Transaction.bind_apply, Transaction.read_apply]
  simp only [latest, Transaction.bind_apply, Transaction.require_apply, decide_eq_true_eq]
  by_cases same : invocation.intent.requestFingerprint = intent.requestFingerprint
  · simp only [if_pos same, if_pos replayed, Transaction.pure_apply]
  · simp only [if_neg same]

/-- Nothing is written over a closed attempt. -/
theorem settleAgentInvocation_of_closed {stored answer : AgentInvocation}
    (found : db.invocations.find? answer.id = some stored)
    (closed : agentInvocationMachine.isTerminal stored.status = true) :
    ∃ error, settleAgentInvocation answer db = .error error := by
  have immovable : agentInvocationMachine.can stored.status answer.status = false := by
    rw [StateMachine.can, List.isEmpty_iff.mp closed]
    rfl
  apply Transaction.Ensures.refuses
  unfold settleAgentInvocation updateInvocation
  refine Transaction.ensures_bind.mpr
    (Transaction.ensures_bind.mpr (Transaction.ensures_read.mpr ?_))
  rw [found]
  refine Transaction.ensures_bind.mpr (Transaction.ensures_expect.mpr ?_)
  rintro _ ⟨rfl⟩
  refine Transaction.ensures_bind.mpr (Transaction.ensures_require.mpr fun _ => ?_)
  refine Transaction.ensures_bind.mpr (Transaction.ensures_require.mpr fun _ => ?_)
  refine Transaction.ensures_bind.mpr (Transaction.ensures_require.mpr fun permitted => ?_)
  rw [immovable] at permitted
  cases permitted

/-- Once a round has an answer it is the round's only one, in every later state; every later
beginning replays it, and an attempt closed without one is never answered. -/
theorem round_answered_once {checks : Checks} (reached : Reachable checks db)
    (round : String × String × String) :
    RoundOrdered (db.attemptsOfRound round) ∧
      (∀ first ∈ db.attemptsOfRound round, first.status = .answered ∨ first.status = .completed →
        ∀ db', ReachableFrom checks db db' → ∀ second ∈ db'.attemptsOfRound round,
          second.status = .answered ∨ second.status = .completed → second.id = first.id) ∧
      (∀ first ∈ db.attemptsOfRound round, first.status.replayed = true →
        ∀ db', ReachableFrom checks db db' → ∃ current ∈ db'.attemptsOfRound round,
          current.id = first.id ∧ ∀ intent freshId, intent.roundKey = round →
            (Op.beginAgentInvocation intent freshId).exec checks db' = db' ∧
            (intent.requestFingerprint = first.intent.requestFingerprint →
              beginAgentInvocation intent freshId db' = .ok (current, db')) ∧
            (intent.requestFingerprint ≠ first.intent.requestFingerprint →
              ∃ error, beginAgentInvocation intent freshId db' = .error error)) ∧
      ∀ first ∈ db.attemptsOfRound round, first.isClosed →
        ∀ db', ReachableFrom checks db db' → ∀ answer : AgentInvocation, answer.id = first.id →
          (∃ error, settleAgentInvocation answer db' = .error error) ∧
            (Op.settleAgentInvocation answer).exec checks db' = db' := by
  have ordered := ReachableBy.rounds reached
  have current : ∀ first ∈ db.attemptsOfRound round, ∀ db', ReachableFrom checks db db' →
      ∃ later ∈ db'.attemptsOfRound round, InvocationLater first later := by
    intro first member db' continued
    obtain ⟨stored, ofRound⟩ := mem_attemptsOfRound.mp member
    obtain ⟨later, found, isLater⟩ := (continued.grows reached).invocations _ first stored
    refine ⟨later, mem_attemptsOfRound.mpr ⟨?_, ?_⟩, isLater⟩
    · rw [isLater.same.1]
      exact found
    · rw [isLater.same.2.2]
      exact ofRound
  refine ⟨ordered round, ?_, ?_, ?_⟩
  · intro first member answered db' continued second member' answered'
    obtain ⟨later, inRound, isLater⟩ := current first member db' continued
    have ordered' := ReachableBy.rounds (reached.trans continued) round
    have replayed : later.status.replayed = true := by
      refine isLater.replayed ?_
      rcases answered with stands | stands <;> rw [stands] <;> rfl
    have replayed' : second.status.replayed = true := by
      rcases answered' with stands | stands <;> rw [stands] <;> rfl
    have isLast := ordered'.last inRound (not_closed_of_replayed replayed)
    have isLast' := ordered'.last member' (not_closed_of_replayed replayed')
    rw [isLast, Option.some.injEq] at isLast'
    rw [← isLast', isLater.same.1]
  · intro first member replayed db' continued
    obtain ⟨later, inRound, isLater⟩ := current first member db' continued
    refine ⟨later, inRound, isLater.same.1, ?_⟩
    intro intent freshId ofRound
    have begins := beginAgentInvocation_of_replayed
      (ReachableBy.rounds (reached.trans continued) round) inRound (isLater.replayed replayed)
      ofRound freshId
    rw [isLater.same.2.2] at begins
    refine ⟨?_, ?_, ?_⟩
    · rw [Op.exec, perform, done_settle, Transaction.settle, begins]
      split
      · rename_i same
        split at same
        · cases same
          rfl
        · cases same
      · rfl
    · intro same
      rw [begins, if_pos same.symm]
    · intro other
      rw [begins, if_neg fun same => other same.symm]
      exact ⟨_, rfl⟩
  · intro first member closed db' continued answer sameId
    obtain ⟨later, inRound, isLater⟩ := current first member db' continued
    have stored : db'.invocations.find? answer.id = some later := by
      rw [sameId, ← isLater.same.1]
      exact (mem_attemptsOfRound.mp inRound).1
    have ended : agentInvocationMachine.isTerminal later.status = true := by
      obtain ⟨_, _, _, _, _, _, kept, _⟩ := isLater
      rw [kept closed.terminal]
      exact closed.terminal
    obtain ⟨error, isError⟩ := settleAgentInvocation_of_closed stored ended
    refine ⟨⟨error, isError⟩, ?_⟩
    rw [Op.exec, perform, done_settle, Transaction.settle, isError]

end Rounds

/-- A round begun twice: the first controller stalls, the second closes its attempt and is
answered. -/
def answeredRound : List Op :=
  [.createExperiment { id := "experiment" } ⟨"human", "operator", ""⟩ [],
    .beginAgentInvocation ⟨"experiment", "planner", "context", "request", ""⟩ "stalled",
    .beginAgentInvocation ⟨"experiment", "planner", "context", "request", ""⟩ "asked",
    .settleAgentInvocation
      { id := "asked", attempt := 2
        intent := ⟨"experiment", "planner", "context", "request", ""⟩, status := .answered
        response := some "answer", revision := 1 }]

theorem round_answered_once_replayed :
    let db := execAll .permissive answeredRound Db.empty
    let round := ("experiment", "planner", "context")
    ((db.attemptsOfRound round).map fun attempt => (attempt.id, attempt.status)) =
        [("stalled", .outcomeUnknown), ("asked", .answered)] ∧
      ∀ db', ReachableFrom .permissive db db' → ∀ second ∈ db'.attemptsOfRound round,
        second.status = .answered ∨ second.status = .completed → second.id = "asked" := by
  refine ⟨by decide, ?_⟩
  have once := round_answered_once
    (reachable_execAll .permissive answeredRound .start) ("experiment", "planner", "context")
  refine once.2.1
    { id := "asked", attempt := 2
      intent := ⟨"experiment", "planner", "context", "request", ""⟩, status := .answered
      response := some "answer", revision := 1 } ?_ (.inl rfl)
  decide

end Xaytune.Storage
