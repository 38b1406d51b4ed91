import Xaytune.Ray.RankRecords
import Xaytune.Runtimes.Observations

/-!
# How a worker group ends

The driver reads the ranks' records once every rank has returned, or the group has failed; it
leaves before that only behind a cancellation no rank can overtake. So its record tells failure,
cancellation and success apart, along every run in which the signals are timely.
-/

namespace Xaytune.Ray

open Xaytune.Runtimes
open Xaytune.Library (Reaches)

variable {Record : Type}

/-- Before the group runs no rank is placed. -/
def Rank.Unplaced (rank : Rank) : Prop :=
  rank.Barred ∧ (rank.phase = .waiting ∨ rank.phase = .gone)

def RankPhase.isSignalling : RankPhase → Bool
  | .signalling _ => true
  | _ => false

def GroupState.isFailed : GroupState → Bool
  | .failed _ => true
  | _ => false

instance (rank : Rank) : Decidable rank.Running :=
  decidable_of_iff (rank.child.any fun worker => worker.life = .running) (by
    simp [Rank.Running, Option.any_eq_true])

namespace Group

/-- No signal is sent to a worker that has exited since it was polled, and the group does not
fail while the driver is on its way out for a cancellation. -/
def Timely (group : Group Record) : GroupMove Record → Prop
  | .rank number _ =>
      (group.ranks number).phase.isSignalling = true → (group.ranks number).Running
  | .drive _ => group.driver.phase = .finishingNever → group.group.isFailed = false
  | _ => True

instance (group : Group Record) (move : GroupMove Record) : Decidable (group.Timely move) :=
  match move with
  | .rank _ _ => inferInstanceAs (Decidable (_ → _))
  | .drive _ => inferInstanceAs (Decidable (_ → _))
  | .exit _ _ | .die _ | .requestCancel | .endGroup | .failGroup _ => .isTrue trivial

/-- The records the ranks below a number have written. -/
def recordsBelow (group : Group Record) (size : Nat) : List (Option RankFinished) :=
  (List.range size).map fun number => (group.ranks number).finished

/-- The driver has seen the group end: every rank has returned, or the group failed. -/
def Fate (group : Group Record) : Prop :=
  group.driver.failure = none ∧ group.group = .ended ∨
    group.driver.failure ≠ none ∧ group.failed = true

/-- The driver left for a cancellation that no rank can overtake. -/
structure Early (size : Nat) (group : Group Record) (record : GroupFinished) : Prop where
  record : ∃ generation, record = neverStartedGroup generation
  requested : group.marks.cancelRequest = true
  barred : ∀ number < size, (group.ranks number).Barred
  unfailed : group.failed = false

/-- The driver concluded from the records. -/
def Concluded (size : Nat) (group : Group Record) (record : GroupFinished) : Prop :=
  record.Fails ∧ group.failed = true ∨
    group.group = .ended ∧ ∃ generation, record = outcome (group.recordsBelow size) none generation

/-- What the driver knows of the group's ending at each of its steps. -/
def Ending (size : Nat) (group : Group Record) : Prop :=
  match group.driver.phase with
  | .opening | .checking | .configuring | .launching =>
      group.finished = none ∧ group.driver.failure = none ∧ group.group = .unborn
  | .watching | .lookingStarted false _ | .readying false | .announcing false | .relaying
  | .lookingCancel | .joining => group.finished = none ∧ group.driver.failure = none
  | .lookingSpawning number =>
      group.finished = none ∧ group.driver.failure = none ∧ group.marks.cancelRequest = true ∧
        ∀ below < number, (group.ranks below).Barred
  | .finishingNever =>
      group.finished = none ∧ group.driver.failure = none ∧ group.marks.cancelRequest = true ∧
        ∀ number < size, (group.ranks number).Barred
  | .settling | .lookingStarted true _ | .readying true | .announcing true | .relayingLast
  | .truncating => group.finished = none ∧ group.Fate
  | .aborting | .marking | .awaiting =>
      group.finished = none ∧ group.driver.failure ≠ none ∧ group.failed = true
  | .reading records =>
      group.finished = none ∧ group.Fate ∧ records.length ≤ size ∧
        (group.driver.failure = none → records = group.recordsBelow records.length)
  | .concluding records =>
      group.finished = none ∧ group.Fate ∧
        (group.driver.failure = none → records = group.recordsBelow size)
  | .finishing record => group.finished = none ∧ group.Concluded size record
  | .raised => group.finished = none
  | .returned _ => ∃ record, group.finished = some record ∧
      (group.Early size record ∨ group.Concluded size record)

/-- What a move other than the driver's leaves as it was, or only adds to. -/
structure Frame (size : Nat) (group group' : Group Record) : Prop where
  driver : group'.driver = group.driver
  finished : group'.finished = group.finished
  events : group'.events = group.events
  requested : group.marks.cancelRequest = true → group'.marks.cancelRequest = true
  barred : group.marks.cancelRequest = true → ∀ number, (group.ranks number).Barred →
    (group'.ranks number).Barred
  born : ∀ number, (group.ranks number).child ≠ none → (group'.ranks number).child ≠ none
  unborn : group.group = .unborn → group'.group = .unborn
  ended : group.group = .ended → group'.group = .ended ∧
    ∀ number < size, (group'.ranks number).finished = (group.ranks number).finished
  failed : group.failed = true → group'.failed = true
  settled : group.finished ≠ none → group'.failed = group.failed

namespace Frame

variable {size : Nat} {group group' : Group Record}

theorem recordsBelow {below : Nat} (frame : group.Frame size group') (ended : group.group = .ended)
    (within : below ≤ size) : group'.recordsBelow below = group.recordsBelow below := by
  apply List.map_congr_left
  intro number member
  exact (frame.ended ended).2 number (Nat.lt_of_lt_of_le (List.mem_range.mp member) within)

theorem fate (frame : group.Frame size group') (fate : group.Fate) : group'.Fate := by
  rcases fate with ⟨unfailed, ended⟩ | ⟨failure, failed⟩
  · exact .inl ⟨by rw [frame.driver]; exact unfailed, (frame.ended ended).1⟩
  · exact .inr ⟨by rw [frame.driver]; exact failure, frame.failed failed⟩

theorem concluded {record : GroupFinished} (frame : group.Frame size group')
    (concluded : group.Concluded size record) : group'.Concluded size record := by
  rcases concluded with ⟨fails, failed⟩ | ⟨ended, generation, same⟩
  · exact .inl ⟨fails, frame.failed failed⟩
  · refine .inr ⟨(frame.ended ended).1, generation, ?_⟩
    rw [frame.recordsBelow ended (Nat.le_refl size)]
    exact same

theorem records {records : List (Option RankFinished)} {below : Nat}
    (frame : group.Frame size group') (fate : group.Fate) (within : below ≤ size)
    (read : group.driver.failure = none → records = group.recordsBelow below) :
    group'.driver.failure = none → records = group'.recordsBelow below := by
  intro unfailed
  rw [frame.driver] at unfailed
  rcases fate with ⟨-, ended⟩ | ⟨failure, -⟩
  · rw [frame.recordsBelow ended within]
    exact read unfailed
  · exact absurd unfailed failure

theorem ending (frame : group.Frame size group') (ending : group.Ending size) :
    group'.Ending size := by
  have finished := frame.finished
  unfold Ending at ending ⊢
  rw [frame.driver]
  cases phase : group.driver.phase with
  | opening | checking | configuring | launching =>
      simp only [phase] at ending ⊢
      exact ⟨finished.trans ending.1, ending.2.1, frame.unborn ending.2.2⟩
  | watching | relaying | lookingCancel | joining =>
      simp only [phase] at ending ⊢
      exact ⟨finished.trans ending.1, ending.2⟩
  | lookingStarted last number | readying last | announcing last =>
      cases last with
      | false =>
          simp only [phase] at ending ⊢
          exact ⟨finished.trans ending.1, ending.2⟩
      | true =>
          simp only [phase] at ending ⊢
          exact ⟨finished.trans ending.1, frame.fate ending.2⟩
  | lookingSpawning | finishingNever =>
      simp only [phase] at ending ⊢
      obtain ⟨unfinished, unfailed, requested, barred⟩ := ending
      exact ⟨finished.trans unfinished, unfailed, frame.requested requested,
        fun below less => frame.barred requested below (barred below less)⟩
  | settling | relayingLast | truncating =>
      simp only [phase] at ending ⊢
      exact ⟨finished.trans ending.1, frame.fate ending.2⟩
  | aborting | marking | awaiting =>
      simp only [phase] at ending ⊢
      exact ⟨finished.trans ending.1, ending.2.1, frame.failed ending.2.2⟩
  | reading records =>
      simp only [phase] at ending ⊢
      obtain ⟨unfinished, fate, within, read⟩ := ending
      have kept := frame.records fate within read
      rw [frame.driver] at kept
      exact ⟨finished.trans unfinished, frame.fate fate, within, kept⟩
  | concluding records =>
      simp only [phase] at ending ⊢
      obtain ⟨unfinished, fate, read⟩ := ending
      have kept := frame.records fate (Nat.le_refl size) read
      rw [frame.driver] at kept
      exact ⟨finished.trans unfinished, frame.fate fate, kept⟩
  | finishing record =>
      simp only [phase] at ending ⊢
      exact ⟨finished.trans ending.1, frame.concluded ending.2⟩
  | raised =>
      simp only [phase] at ending ⊢
      exact finished.trans ending
  | returned code =>
      simp only [phase] at ending ⊢
      obtain ⟨record, recorded, early | concluded⟩ := ending
      · refine ⟨record, finished.trans recorded, .inl ⟨early.record,
          frame.requested early.requested, ?_, ?_⟩⟩
        · intro number less
          exact frame.barred early.requested number (early.barred number less)
        · rw [frame.settled (by simp [recorded])]
          exact early.unfailed
      · exact ⟨record, finished.trans recorded, .inr (frame.concluded concluded)⟩

end Frame

/-- The invariant of a timely run. -/
structure Sound (size : Nat) (group : Group Record) : Prop where
  ranks : ∀ number, (group.ranks number).Holds group.marks
  launched : ∀ number, (group.ranks number).Launched
  hushed : ∀ number, (group.ranks number).Hushed
  unplaced : group.group = .unborn → ∀ number, (group.ranks number).Unplaced
  aborted : group.marks.abort = true → group.failed = true ∨
    ∃ number < size, (group.ranks number).Fault
  ended : group.group = .ended → ∀ number < size, (group.ranks number).phase = .done
  failing : ∀ error, group.group = .failed error → group.finished = none → group.failed = true
  failed : group.failed = true → ∃ error, group.group = .failed error
  ending : group.Ending size

variable {size number : Nat} {group : Group Record}

theorem Sound.start (size : Nat) (cancelRequest : Bool) :
    Sound size (start cancelRequest : Group Record) where
  ranks := fun _ => ⟨rfl, rfl, rfl, rfl, rfl⟩
  launched := fun _ told => absurd rfl told
  hushed := fun _ _ => ⟨rfl, rfl, .inl rfl⟩
  unplaced := fun _ _ => ⟨⟨rfl, rfl, trivial⟩, .inl rfl⟩
  aborted := nofun
  ended := nofun
  failing := nofun
  failed := nofun
  ending := ⟨rfl, rfl, rfl⟩

/-- Replacing one rank by what the others see as the same or more. -/
theorem Frame.putRank {rank : Rank} {marks : Marks}
    (requested : group.marks.cancelRequest = true → marks.cancelRequest = true)
    (barred : group.marks.cancelRequest = true → (group.ranks number).Barred → rank.Barred)
    (born : (group.ranks number).child ≠ none → rank.child ≠ none)
    (ended : group.group = .ended → number < size →
      rank.finished = (group.ranks number).finished) :
    group.Frame size ({ group with marks }.putRank number rank) where
  driver := rfl
  finished := rfl
  events := rfl
  requested := requested
  barred := by
    intro requested other shut
    by_cases same : other = number
    · subst same
      simpa [Group.putRank] using barred requested shut
    · simpa [Group.putRank, same] using shut
  born := by
    intro other alive
    by_cases same : other = number
    · subst same
      simpa [Group.putRank] using born alive
    · simpa [Group.putRank, same] using alive
  unborn := id
  ended := by
    intro shut
    refine ⟨shut, ?_⟩
    intro other less
    by_cases same : other = number
    · subst same
      simpa [Group.putRank] using ended shut less
    · simp [Group.putRank, same]
  failed := id
  settled := fun _ => rfl

/-- A statement about every rank, once one rank is replaced. -/
theorem forall_putRank {rank : Rank} {holds : Rank → Prop} (self : holds rank)
    (others : ∀ other, other ≠ number → holds (group.ranks other)) (other : Nat) :
    holds ((group.putRank number rank).ranks other) := by
  by_cases same : other = number
  · subst same
    simpa [putRank] using self
  · simpa [putRank, same] using others other same

/-- A rank that failed has still failed once a rank is replaced by its successor. -/
theorem exists_fault_putRank {rank : Rank}
    (kept : (group.ranks number).Fault → rank.Fault)
    (fault : ∃ other < size, (group.ranks other).Fault) :
    ∃ other < size, ((group.putRank number rank).ranks other).Fault := by
  obtain ⟨other, less, fault⟩ := fault
  refine ⟨other, less, ?_⟩
  by_cases same : other = number
  · subst same
    simpa [putRank] using kept fault
  · simpa [putRank, same] using fault

theorem Frame.refl (group : Group Record) : group.Frame size group :=
  ⟨rfl, rfl, rfl, id, fun _ _ => id, fun _ => id, id, fun ended => ⟨ended, fun _ _ => rfl⟩, id,
    fun _ => rfl⟩

/-- A rank that has returned takes no further step. -/
theorem Sound.returned (sound : group.Sound size) (less : number < size)
    {spawned : Except SpawnError Nat} (ended : group.group = .ended) :
    ((group.ranks number).step spawned group.marks).1 = group.ranks number := by
  simp [Rank.step, sound.ended ended number less]

/-- Every move but the driver's own is one the driver need not notice. -/
theorem Sound.frame (sound : group.Sound size) {move : GroupMove Record}
    (other : ∀ given, move ≠ .drive given) : group.Frame size (group.step size move) := by
  cases move with
  | drive given => exact absurd rfl (other given)
  | rank number spawned =>
      simp only [Group.step, Group.rankStep]
      split_ifs with less unplaced
      · exact .refl group
      · exact .putRank (Rank.step_grows .cancel) (fun requested barred => barred.step requested)
          Rank.step_born (fun ended _ => by rw [sound.returned less ended])
      · exact .refl group
  | exit number code =>
      exact .putRank id (fun _ barred => barred.exit code) (by simp [Rank.exitWorker])
        (fun _ _ => rfl)
  | die number =>
      simp only [Group.step]
      split_ifs
      · exact .refl group
      · exact .putRank id (fun _ barred => ⟨barred.child, barred.spawnError, trivial⟩) id
          (fun _ _ => rfl)
  | requestCancel =>
      exact ⟨rfl, rfl, rfl, fun _ => rfl, fun _ _ => id, fun _ => id, id,
        fun ended => ⟨ended, fun _ _ => rfl⟩, id, fun _ => rfl⟩
  | endGroup =>
      simp only [Group.step, Group.endGroup]
      split_ifs with shut
      · exact ⟨rfl, rfl, rfl, id, fun _ _ => id, fun _ => id, by simp [shut.1], by simp [shut.1],
          id, fun _ => rfl⟩
      · exact .refl group
  | failGroup error =>
      simp only [Group.step, Group.failGroup]
      split_ifs with running
      · refine ⟨rfl, rfl, rfl, id, fun _ _ => id, fun _ => id, by simp [running],
          by simp [running], ?_, ?_⟩
        · intro failed
          simp [failed]
        · intro finished
          obtain ⟨record, finished⟩ := Option.ne_none_iff_exists'.mp finished
          simp [finished]
      · exact .refl group

theorem Sound.rankStep (sound : group.Sound size) (less : number < size)
    {spawned : Except SpawnError Nat} (timely : group.Timely (.rank number spawned)) :
    (group.step size (.rank number spawned)).Sound size := by
  have frame := @Sound.frame _ _ _ sound (.rank number spawned) nofun
  simp only [Group.step, less, if_true, Group.rankStep] at frame ⊢
  split_ifs at frame ⊢ with unplaced
  · exact sound
  · have grows := @Rank.step_grows (group.ranks number) group.marks spawned
    refine ⟨?_, ?_, ?_, ?_, ?_, ?_, sound.failing, sound.failed, Frame.ending frame sound.ending⟩
    · have inTime (reason : Reason) (phase : (group.ranks number).phase = .signalling reason) :
          (group.ranks number).Running := timely (by rw [phase]; rfl)
      exact forall_putRank ((sound.ranks number).step inTime)
        fun other _ => (sound.ranks other).grows grows
    · exact forall_putRank (sound.launched number).step fun other _ => sound.launched other
    · exact forall_putRank (sound.hushed number).step fun other _ => sound.hushed other
    · intro unborn
      have idle : ((group.ranks number).step spawned group.marks).1 = group.ranks number := by
        rcases (sound.unplaced unborn number).2 with waiting | gone
        · exact absurd ⟨waiting, unborn⟩ unplaced
        · simp [Rank.step, gone]
      rw [idle]
      exact forall_putRank (sound.unplaced unborn number) fun other _ => sound.unplaced unborn other
    · intro aborted
      rcases (sound.ranks number).abort_origin aborted with before | fault
      · rcases sound.aborted before with failed | fault
        · exact .inl failed
        · exact .inr (exists_fault_putRank (fun fault => fault.step (sound.ranks number)) fault)
      · exact .inr ⟨number, less, by simpa [Group.putRank] using fault⟩
    · intro ended
      rw [sound.returned less ended]
      intro other below
      by_cases same : other = number
      · subst same
        simpa [Group.putRank] using sound.ended ended other below
      · simpa [Group.putRank, same] using sound.ended ended other below

theorem Sound.exit (sound : group.Sound size) (number : Nat) (code : Int) :
    (group.step size (.exit number code)).Sound size := by
  have frame := @Sound.frame _ _ _ sound (.exit number code) nofun
  refine ⟨?_, ?_, ?_, ?_, ?_, ?_, sound.failing, sound.failed, Frame.ending frame sound.ending⟩
  · exact forall_putRank ((sound.ranks number).exit code) fun other _ => sound.ranks other
  · exact forall_putRank ((sound.launched number).exit code) fun other _ => sound.launched other
  · exact forall_putRank ((sound.hushed number).exit code) fun other _ => sound.hushed other
  · intro unborn
    obtain ⟨barred, phase⟩ := sound.unplaced unborn number
    have kept : ((group.ranks number).exitWorker code).Unplaced := ⟨barred.exit code, phase⟩
    exact forall_putRank kept fun other _ => sound.unplaced unborn other
  · intro aborted
    rcases sound.aborted aborted with failed | fault
    · exact .inl failed
    · exact .inr (exists_fault_putRank (fun fault => fault.exit code) fault)
  · intro ended other below
    by_cases same : other = number
    · subst same
      simpa [Group.step, Group.putRank, Rank.exitWorker] using sound.ended ended other below
    · simpa [Group.step, Group.putRank, same] using sound.ended ended other below

theorem Sound.die (sound : group.Sound size) (number : Nat) :
    (group.step size (.die number)).Sound size := by
  have frame := @Sound.frame _ _ _ sound (.die number) nofun
  simp only [Group.step] at frame ⊢
  split_ifs at frame ⊢ with done
  · exact sound
  · refine ⟨?_, ?_, ?_, ?_, ?_, ?_, sound.failing, sound.failed, Frame.ending frame sound.ending⟩
    · exact forall_putRank trivial fun other _ => sound.ranks other
    · exact forall_putRank (sound.launched number) fun other _ => sound.launched other
    · exact forall_putRank (sound.hushed number).die fun other _ => sound.hushed other
    · intro unborn
      obtain ⟨barred, -⟩ := sound.unplaced unborn number
      have kept : ((group.ranks number).goTo .gone).Unplaced :=
        ⟨⟨barred.child, barred.spawnError, trivial⟩, .inr rfl⟩
      exact forall_putRank kept fun other _ => sound.unplaced unborn other
    · intro aborted
      rcases sound.aborted aborted with failed | fault
      · exact .inl failed
      · exact .inr (exists_fault_putRank id fault)
    · intro ended other below
      by_cases same : other = number
      · subst same
        exact absurd (sound.ended ended other below) done
      · simpa [Group.putRank, same] using sound.ended ended other below

theorem Sound.requestCancel (sound : group.Sound size) :
    (group.step size .requestCancel).Sound size := by
  have frame := @Sound.frame _ _ _ sound .requestCancel nofun
  refine ⟨?_, sound.launched, sound.hushed, sound.unplaced, sound.aborted, sound.ended,
    sound.failing, sound.failed, Frame.ending frame sound.ending⟩
  intro number
  exact (sound.ranks number).grows group.marks.grows_cancel

theorem Sound.endGroup (sound : group.Sound size) : (group.step size .endGroup).Sound size := by
  have frame := @Sound.frame _ _ _ sound .endGroup nofun
  simp only [Group.step, Group.endGroup] at frame ⊢
  split_ifs at frame ⊢ with shut
  · obtain ⟨running, done⟩ := shut
    refine ⟨sound.ranks, sound.launched, sound.hushed, nofun, sound.aborted, fun _ => done,
      nofun, ?_, Frame.ending frame sound.ending⟩
    intro failed
    obtain ⟨error, failing⟩ := sound.failed failed
    cases running.symm.trans failing
  · exact sound

theorem Sound.failGroup (sound : group.Sound size) (error : String) :
    (group.step size (.failGroup error)).Sound size := by
  have frame := @Sound.frame _ _ _ sound (.failGroup error) nofun
  simp only [Group.step, Group.failGroup] at frame ⊢
  split_ifs at frame ⊢ with running
  · refine ⟨sound.ranks, sound.launched, sound.hushed, nofun, ?_, nofun, ?_, fun _ => ⟨error, rfl⟩,
      Frame.ending frame sound.ending⟩
    · intro aborted
      rcases sound.aborted aborted with failed | fault
      · exact .inl (frame.failed failed)
      · exact .inr fault
    · intro _ _ unfinished
      have finished : group.finished = none := unfinished
      simp [finished]
  · exact sound

section emit

variable (payloads : List (Payload Record)) (group : Group Record)

/-- Emitting adds the payloads to the stream, moves the writer on, and does nothing else. -/
theorem emit_same : ∃ added writer, added.map Event.payload = payloads ∧ group.emit payloads =
    { group with events := group.events ++ added, driver := { group.driver with writer } } := by
  induction payloads generalizing group with
  | nil => exact ⟨[], group.driver.writer, rfl, by simp [Group.emit]⟩
  | cons payload rest ih =>
      obtain ⟨added, writer, told, same⟩ := ih
        { group with
          events := emitTo payload group.driver.writer group.events
          driver :=
            { group.driver with
              writer := { group.driver.writer with sequence := group.driver.writer.sequence +
                1 } } }
      refine ⟨⟨group.driver.writer.generation, group.driver.writer.sequence, payload⟩ :: added,
        writer, by simp [told], ?_⟩
      refine Eq.trans same ?_
      simp [emitTo]

end emit

/-- A turn of the relay is a step of the driver, which an exception that leaves it ends. -/
theorem relayObservations_driven {Value : Type} {telemetry : Telemetry Value Record}
    {relay after : Relay Record} (turned : relay.relayObservations telemetry = after) :
    ∃ relayed, Adds relayed relay.files after.files ∧
    ∀ (awaited : Bool) (group : Group Record), group.driver.phase = .relaying →
      let next :=
        group.drive size ⟨relayed, after.reader.pendingBytes, after.watch = .raised, awaited⟩
      next.events.map Event.payload =
          group.events.map Event.payload ++ relayed.map Relayed.payload ∧
        next.driver.phase = if after.watch = .raised then .raised else .lookingCancel := by
  obtain ⟨relayed, adds⟩ : ∃ relayed,
      Adds relayed relay.files (relay.relayObservations telemetry).files :=
    relay.relayObservations_adds
  refine ⟨relayed, turned ▸ adds, ?_⟩
  intro awaited group relaying
  obtain ⟨added, writer, told, same⟩ := emit_same (relayed.map Relayed.payload) group
  simp only [Group.drive, relaying, same, goTo, List.map_append, told, decide_eq_true_eq,
    and_self]

/-- What the driver's step leaves of everything but itself. -/
theorem Sound.driven {group' : Group Record} (sound : group.Sound size)
    (ranks : group'.ranks = group.ranks) (marks : group'.marks = group.marks)
    (state : group'.group = group.group) (failed : group'.failed = group.failed)
    (finished : group'.finished = none → group.finished = none) (ending : group'.Ending size) :
    group'.Sound size := by
  refine ⟨?_, ?_, ?_, ?_, ?_, ?_, ?_, ?_, ending⟩
  · rw [ranks, marks]
    exact sound.ranks
  · rw [ranks]
    exact sound.launched
  · rw [ranks]
    exact sound.hushed
  · rw [ranks, state]
    exact sound.unplaced
  · rw [ranks, marks, failed]
    exact sound.aborted
  · rw [ranks, state]
    exact sound.ended
  · rw [state, failed]
    intro error failing unfinished
    exact sound.failing error failing (finished unfinished)
  · rw [state, failed]
    exact sound.failed

/-- A step that emits on its way. -/
theorem Sound.emitted (sound : group.Sound size) (payloads : List (Payload Record))
    (phase : DriverPhase)
    (ending : ∀ events writer, ({ group with
      events, driver := { group.driver with phase, writer } } : Group Record).Ending size) :
    ((group.emit payloads).goTo phase).Sound size := by
  obtain ⟨added, writer, -, same⟩ := emit_same payloads group
  have next := ending (group.events ++ added) writer
  rw [same]
  exact sound.driven rfl rfl rfl rfl id next

theorem recordsBelow_succ (group : Group Record) (number : Nat) :
    group.recordsBelow (number + 1) =
      group.recordsBelow number ++ [(group.ranks number).finished] := by
  simp [recordsBelow, List.range_succ]

/-- The driver knows what its next step needs, unless it starts the group or marks it aborted. -/
theorem Sound.drive (sound : group.Sound size) {given : DriverGiven Record}
    (timely : group.Timely (.drive given)) : (group.drive size given).Sound size := by
  have ending := sound.ending
  obtain ⟨marks, started, finished, events, ⟨phase, writer, ready, failure⟩, ranks, state,
    failed⟩ := group
  cases phase with
  | opening | configuring | joining => exact sound.driven rfl rfl rfl rfl id ending
  | checking =>
      obtain ⟨unfinished, unfailed, unborn⟩ := ending
      refine sound.driven rfl rfl rfl rfl id ?_
      simp only [Group.drive, goTo]
      split_ifs with requested
      · exact ⟨unfinished, unfailed, requested, fun number _ => (sound.unplaced unborn number).1⟩
      · exact ⟨unfinished, unfailed, unborn⟩
  | launching =>
      obtain ⟨unfinished, unfailed, unborn⟩ := ending
      refine ⟨sound.ranks, sound.launched, sound.hushed, nofun, sound.aborted, nofun, nofun, ?_,
        unfinished, unfailed⟩
      intro failed
      obtain ⟨error, failing⟩ := sound.failed failed
      cases unborn.symm.trans failing
  | watching =>
      obtain ⟨unfinished, unfailed⟩ := ending
      cases state with
      | unborn => exact sound
      | running =>
          refine sound.driven rfl rfl rfl rfl id ?_
          simp only [Group.drive, goTo]
          split_ifs
          · exact ⟨unfinished, unfailed⟩
          · exact ⟨unfinished, unfailed⟩
      | ended => exact sound.driven rfl rfl rfl rfl id ⟨unfinished, .inl ⟨unfailed, rfl⟩⟩
      | failed error =>
          have lost := sound.failing error rfl unfinished
          exact sound.driven rfl rfl rfl rfl id ⟨unfinished, .inr ⟨nofun, lost⟩⟩
  | lookingStarted last number =>
      cases last with
      | false =>
          simp only [Group.drive, notReady, Bool.false_eq_true, if_false]
          split_ifs <;> exact sound.driven rfl rfl rfl rfl id ending
      | true =>
          obtain ⟨unfinished, fate⟩ := ending
          simp only [Group.drive, notReady, if_true]
          split_ifs
          · exact sound.driven rfl rfl rfl rfl id ⟨unfinished, fate⟩
          · exact sound.driven rfl rfl rfl rfl id ⟨unfinished, fate, Nat.zero_le size, fun _ => rfl⟩
          · exact sound.driven rfl rfl rfl rfl id ⟨unfinished, fate⟩
  | readying last | announcing last =>
      refine sound.driven rfl rfl rfl rfl id ?_
      cases last with
      | false => exact ending
      | true => exact ending
  | relaying | relayingLast =>
      refine sound.emitted _ _ fun _ _ => ?_
      split_ifs
      · exact ending.1
      · exact ending
  | lookingCancel =>
      obtain ⟨unfinished, unfailed⟩ := ending
      refine sound.driven rfl rfl rfl rfl id ?_
      simp only [Group.drive, goTo]
      split_ifs with requested
      · exact ⟨unfinished, unfailed, requested, fun _ less => absurd less (Nat.not_lt_zero _)⟩
      · exact ⟨unfinished, unfailed⟩
  | lookingSpawning number =>
      obtain ⟨unfinished, unfailed, requested, barred⟩ := ending
      simp only [Group.drive]
      split_ifs with less spawning
      · exact sound.driven rfl rfl rfl rfl id ⟨unfinished, unfailed⟩
      · refine sound.driven rfl rfl rfl rfl id ⟨unfinished, unfailed, requested, ?_⟩
        intro below within
        rcases Nat.lt_succ_iff_lt_or_eq.mp within with earlier | rfl
        · exact barred below earlier
        · exact (sound.hushed below).barred (by simpa using spawning)
      · exact sound.driven rfl rfl rfl rfl id ⟨unfinished, unfailed, requested,
          fun below within => barred below (Nat.lt_of_lt_of_le within (Nat.not_lt.mp less))⟩
  | finishingNever =>
      obtain ⟨unfinished, unfailed, requested, barred⟩ := ending
      have alive : failed = false := by
        cases lost : failed with
        | false => rfl
        | true =>
            obtain ⟨error, failing⟩ := sound.failed lost
            have unfailed : state.isFailed = false := timely rfl
            have known : state = .failed error := failing
            simp [known, GroupState.isFailed] at unfailed
      exact sound.driven rfl rfl rfl rfl nofun
        ⟨_, rfl, .inl ⟨⟨_, rfl⟩, requested, barred, alive⟩⟩
  | settling =>
      obtain ⟨unfinished, fate⟩ := ending
      refine sound.driven rfl rfl rfl rfl id ?_
      simp only [Group.drive, goTo]
      split_ifs with lost
      · rcases fate with ⟨unfailed, -⟩ | ⟨failure, failed⟩
        · have none : failure = none := unfailed
          simp [none] at lost
        · exact ⟨unfinished, failure, failed⟩
      · exact ⟨unfinished, fate⟩
      · exact ⟨unfinished, fate⟩
  | aborting =>
      refine sound.driven rfl rfl rfl rfl id ?_
      simp only [Group.drive, goTo]
      split_ifs
      · exact ending
      · exact ending
  | marking =>
      obtain ⟨unfinished, failure, lost⟩ := ending
      refine ⟨?_, sound.launched, sound.hushed, sound.unplaced, fun _ => .inl lost, sound.ended,
        sound.failing, sound.failed, unfinished, failure, lost⟩
      intro number
      exact (sound.ranks number).grows (Marks.grows_abort _)
  | awaiting =>
      obtain ⟨unfinished, failure, lost⟩ := ending
      refine sound.driven rfl rfl rfl rfl id ?_
      simp only [Group.drive, goTo]
      split_ifs
      · exact ⟨unfinished, .inr ⟨failure, lost⟩⟩
      · exact ⟨unfinished, .inr ⟨failure, lost⟩⟩
      · exact ⟨unfinished, failure, lost⟩
  | truncating =>
      exact sound.emitted _ _ fun _ _ => ⟨ending.1, ending.2, Nat.zero_le size, fun _ => rfl⟩
  | reading records =>
      obtain ⟨unfinished, fate, within, read⟩ := ending
      simp only [Group.drive]
      split_ifs with less
      · refine sound.driven rfl rfl rfl rfl id ⟨unfinished,
          fate, by rw [List.length_append]; exact less, ?_⟩
        intro unfailed
        rw [List.length_append, List.length_singleton, recordsBelow_succ]
        exact congrArg (· ++ _) (read unfailed)
      · refine sound.driven rfl rfl rfl rfl id ⟨unfinished, fate, ?_⟩
        intro unfailed
        have full : records.length = size := Nat.le_antisymm within (Nat.not_lt.mp less)
        rw [← full]
        exact read unfailed
  | concluding records =>
      obtain ⟨unfinished, fate, read⟩ := ending
      refine sound.emitted _ _ fun _ _ => ⟨unfinished, ?_⟩
      rcases fate with ⟨unfailed, ended⟩ | ⟨lost, failed⟩
      · refine .inr ⟨ended, writer.generation, ?_⟩
        have known : failure = none := unfailed
        subst known
        exact congrArg (fun records => outcome records none writer.generation) (read rfl)
      · exact .inl ⟨outcome_fails (.inr lost), failed⟩
  | finishing record =>
      obtain ⟨unfinished, concluded⟩ := ending
      exact sound.driven rfl rfl rfl rfl nofun ⟨_, rfl, .inr concluded⟩
  | returned | raised => exact sound

theorem Sound.of_reaches {cancelRequest : Bool}
    (reached : Reaches (Group.step size) Timely (Group.start cancelRequest) group) :
    group.Sound size := by
  apply reached.invariant (.start size cancelRequest)
  intro group move sound timely
  cases move with
  | drive given => exact sound.drive timely
  | rank number spawned =>
      by_cases less : number < size
      · exact sound.rankStep less timely
      · simpa only [Group.step, less, if_false] using sound
  | exit number code => exact sound.exit number code
  | die number => exact sound.die number
  | requestCancel => exact sound.requestCancel
  | endGroup => exact sound.endGroup
  | failGroup error => exact sound.failGroup error

end Group

def Announces : Payload Record → Bool
  | .workerReady _ => true
  | _ => false

def Observes : Payload Record → Bool
  | .observed _ => true
  | _ => false

/-- Neither readiness nor an observation is in the stream. -/
def Quiet (events : List (Event Record)) : Prop :=
  ∀ event ∈ events, Announces event.payload = false ∧ Observes event.payload = false

/-- Readiness is announced once, before any observation. -/
def Told (events : List (Event Record)) : Prop :=
  ∃ before event after, events = before ++ event :: after ∧ Quiet before ∧
    Announces event.payload = true ∧ ∀ later ∈ after, Announces later.payload = false

theorem Quiet.append {events added : List (Event Record)} (quiet : Quiet events)
    (further : ∀ payload ∈ added.map Event.payload,
      Announces payload = false ∧ Observes payload = false) : Quiet (events ++ added) := by
  intro event member
  rcases List.mem_append.mp member with earlier | later
  · exact quiet event earlier
  · exact further _ (List.mem_map_of_mem later)

theorem Told.append {events added : List (Event Record)} (told : Told events)
    (further : ∀ payload ∈ added.map Event.payload, Announces payload = false) :
    Told (events ++ added) := by
  obtain ⟨before, event, after, rfl, quiet, announces, once⟩ := told
  refine ⟨before, event, after ++ added, by simp, quiet, announces, ?_⟩
  intro later member
  rcases List.mem_append.mp member with earlier | further'
  · exact once later earlier
  · exact further _ (List.mem_map_of_mem further')

theorem announces_relayed (relayed : List (Relayed Record)) :
    ∀ payload ∈ relayed.map Relayed.payload, Announces payload = false := by
  intro payload member
  obtain ⟨item, -, rfl⟩ := List.mem_map.mp member
  cases item <;> rfl

theorem quiet_outcomeIncidents (records : List (Option RankFinished)) (failure : Option String) :
    ∀ payload ∈ (outcomeIncidents records failure : List (Payload Record)),
      Announces payload = false ∧ Observes payload = false := by
  intro payload member
  unfold outcomeIncidents at member
  split at member
  · obtain rfl := List.mem_singleton.mp member
    exact ⟨rfl, rfl⟩
  · obtain rfl := List.mem_singleton.mp member
    exact ⟨rfl, rfl⟩
  · simp at member

namespace Group

variable {size number : Nat} {group : Group Record}

/-- Every rank below a number has started its worker. -/
def StartedBelow (group : Group Record) (number : Nat) : Prop :=
  ∀ below < number, (group.ranks below).child ≠ none

/-- What is in the stream at each step of the driver. -/
structure Announced (size : Nat) (group : Group Record) : Prop where
  unready : group.driver.ready = false → Quiet group.events
  ready : group.driver.ready = true → Told group.events ∧ group.StartedBelow size
  phase : match group.driver.phase with
    | .lookingStarted _ number => group.driver.ready = false ∧ group.StartedBelow number
    | .readying _ | .announcing _ => group.driver.ready = false ∧ group.StartedBelow size
    | .relaying | .relayingLast | .truncating => group.driver.ready = true
    | _ => True

theorem Announced.frame {group' : Group Record} (announced : group.Announced size)
    (frame : group.Frame size group') : group'.Announced size := by
  have started {number : Nat} (below : group.StartedBelow number) : group'.StartedBelow number :=
    fun other less => frame.born other (below other less)
  obtain ⟨unready, ready, phase⟩ := announced
  refine ⟨?_, ?_, ?_⟩
  · rw [frame.driver, frame.events]
    exact unready
  · rw [frame.driver, frame.events]
    intro isReady
    exact ⟨(ready isReady).1, started (ready isReady).2⟩
  · rw [frame.driver]
    cases known : group.driver.phase with
    | lookingStarted | readying | announcing =>
        simp only [known] at phase ⊢
        exact ⟨phase.1, started phase.2⟩
    | relaying | relayingLast | truncating => simpa only [known] using phase
    | _ => trivial

/-- A step that emits nothing. -/
theorem Announced.silent {group' : Group Record} (announced : group.Announced size)
    (events : group'.events = group.events) (ranks : group'.ranks = group.ranks)
    (ready : group'.driver.ready = group.driver.ready)
    (phase : match group'.driver.phase with
      | .lookingStarted _ number => group'.driver.ready = false ∧ group'.StartedBelow number
      | .readying _ | .announcing _ => group'.driver.ready = false ∧ group'.StartedBelow size
      | .relaying | .relayingLast | .truncating => group'.driver.ready = true
      | _ => True) : group'.Announced size := by
  refine ⟨?_, ?_, phase⟩
  · rw [events, ready]
    exact announced.unready
  · rw [events, ready]
    intro isReady
    refine ⟨(announced.ready isReady).1, ?_⟩
    intro below less
    rw [ranks]
    exact (announced.ready isReady).2 below less

/-- A step that emits something else once the group is ready. -/
theorem Announced.emitted (announced : group.Announced size) {payloads : List (Payload Record)}
    (isReady : group.driver.ready = true)
    (further : ∀ payload ∈ payloads, Announces payload = false) {phase : DriverPhase}
    (fits : match phase with
      | .lookingStarted _ _ | .readying _ | .announcing _ => False
      | _ => True) : ((group.emit payloads).goTo phase).Announced size := by
  obtain ⟨added, writer, told, same⟩ := emit_same payloads group
  obtain ⟨stream, below⟩ := announced.ready isReady
  rw [same]
  refine ⟨?_, fun _ => ⟨stream.append (told ▸ further), below⟩, ?_⟩
  · intro unready
    cases isReady.symm.trans unready
  · cases phase with
    | lookingStarted | readying | announcing => exact fits.elim
    | relaying | relayingLast | truncating => exact isReady
    | _ => trivial

theorem startedBelow_zero : group.StartedBelow 0 := fun _ less => absurd less (Nat.not_lt_zero _)

theorem Announced.drive (announced : group.Announced size)
    (launched : ∀ number, (group.ranks number).Launched) {given : DriverGiven Record} :
    (group.drive size given).Announced size := by
  have known := announced.phase
  obtain ⟨marks, started, finished, events, ⟨phase, writer, ready, failure⟩, ranks, state,
    failed⟩ := group
  cases phase with
  | opening | configuring | launching | joining | marking | finishingNever | finishing _ =>
      exact announced.silent rfl rfl rfl trivial
  | returned | raised => exact announced
  | checking | lookingCancel | aborting =>
      refine announced.silent rfl rfl rfl ?_
      simp only [Group.drive, goTo]
      split_ifs <;> trivial
  | watching =>
      cases state with
      | unborn => exact announced
      | ended => exact announced.silent rfl rfl rfl trivial
      | failed error => exact announced.silent rfl rfl rfl trivial
      | running =>
          refine announced.silent rfl rfl rfl ?_
          cases ready with
          | false => exact ⟨rfl, startedBelow_zero⟩
          | true => exact rfl
  | lookingStarted last number =>
      simp only [Group.drive]
      split_ifs with less told
      · refine announced.silent rfl rfl rfl ⟨known.1, ?_⟩
        intro below within
        rcases Nat.lt_succ_iff_lt_or_eq.mp within with earlier | rfl
        · exact known.2 below earlier
        · exact launched below (Option.isSome_iff_ne_none.mp told)
      · cases last <;> exact announced.silent rfl rfl rfl trivial
      · exact announced.silent rfl rfl rfl ⟨known.1, fun below within => known.2 below
          (Nat.lt_of_lt_of_le within (Nat.not_lt.mp less))⟩
  | readying last => exact announced.silent rfl rfl rfl known
  | announcing last =>
      have quiet := announced.unready known.1
      refine ⟨nofun, ?_, ?_⟩
      · intro _
        refine ⟨⟨events, _, [], rfl, quiet, rfl, ?_⟩, known.2⟩
        intro later member
        simp at member
      · cases last <;> exact rfl
  | relaying | relayingLast =>
      refine announced.emitted known (announces_relayed given.relayed) ?_
      split_ifs <;> trivial
  | truncating =>
      refine announced.emitted known ?_ trivial
      intro payload member
      split_ifs at member
      · simp at member
      · obtain rfl := List.mem_singleton.mp member
        rfl
  | lookingSpawning _ | reading _ =>
      simp only [Group.drive, goTo]
      split_ifs <;> exact announced.silent rfl rfl rfl trivial
  | settling =>
      refine announced.silent rfl rfl rfl ?_
      simp only [Group.drive, goTo]
      split_ifs with lost isReady
      · trivial
      · exact isReady
      · exact ⟨by simpa using isReady, startedBelow_zero⟩
  | awaiting =>
      refine announced.silent rfl rfl rfl ?_
      simp only [Group.drive, goTo]
      split_ifs with shut isReady
      · exact isReady
      · exact ⟨by simpa using isReady, startedBelow_zero⟩
      · trivial
  | concluding records =>
      simp only [Group.drive]
      obtain ⟨added, writer', told, same⟩ := emit_same (outcomeIncidents records failure)
        ⟨marks, started, finished, events, ⟨.concluding records, writer, ready, failure⟩, ranks,
          state, failed⟩
      rw [same]
      refine ⟨?_, ?_, trivial⟩
      · intro unready
        refine (announced.unready unready).append ?_
        rw [told]
        exact quiet_outcomeIncidents records failure
      · intro isReady
        refine ⟨(announced.ready isReady).1.append ?_, (announced.ready isReady).2⟩
        rw [told]
        intro payload member
        exact (quiet_outcomeIncidents records failure payload member).1

theorem Announced.of_reaches {cancelRequest : Bool}
    (reached : Reaches (Group.step size) Timely (Group.start cancelRequest) group) :
    group.Announced size := by
  induction reached with
  | start => exact ⟨fun _ _ member => by simp [Group.start] at member, nofun, trivial⟩
  | @next group move before timely ih =>
      have sound := Sound.of_reaches before
      cases move with
      | drive given => exact ih.drive sound.launched
      | _ => exact ih.frame (sound.frame nofun)

/-- Some rank's worker failed to start or failed by itself, or the group failed. -/
def Faulty (size : Nat) (group : Group Record) : Prop :=
  group.failed = true ∨ ∃ number < size, (group.ranks number).Fault

theorem Sound.described (sound : group.Sound size) (ended : group.group = .ended)
    (less : number < size) : ∃ record, (group.ranks number).finished = some record ∧
      (group.ranks number).Describes group.marks record := by
  have holds := sound.ranks number
  simp only [Rank.Holds, sound.ended ended number less] at holds
  exact holds

theorem mem_recordsBelow {record : RankFinished} :
    some record ∈ group.recordsBelow size ↔
      ∃ number < size, (group.ranks number).finished = some record := by
  simp [recordsBelow]

/-- Once every rank has returned, the records fail the group exactly if it is faulty. -/
theorem Sound.failing_iff (sound : group.Sound size) (ended : group.group = .ended) :
    failingFrom 0 (group.recordsBelow size) ≠ none ↔ group.Faulty size := by
  have unfailed : group.failed ≠ true := by
    intro failed
    obtain ⟨error, failing⟩ := sound.failed failed
    cases ended.symm.trans failing
  constructor
  · intro failing
    obtain ⟨⟨rank, record⟩, found⟩ := Option.ne_none_iff_exists'.mp failing
    obtain ⟨member, fails⟩ := failing_of_failingFrom found
    obtain ⟨number, less, finished⟩ := mem_recordsBelow.mp member
    obtain ⟨written, finished', describes⟩ := sound.described ended less
    obtain rfl := Option.some.inj (finished.symm.trans finished')
    exact .inr ⟨number, less, describes.fault fails⟩
  · rintro (failed | ⟨number, less, fault⟩) none
    · exact unfailed failed
    · obtain ⟨record, finished, describes⟩ := sound.described ended less
      have fails :=
        failingFrom_eq_none.mp none record (mem_recordsBelow.mpr ⟨number, less, finished⟩)
      simp [describes.failing fault] at fails

/-- Only a driver that has returned has written a record. -/
theorem Ending.finished (ending : group.Ending size) {record : GroupFinished}
    (finished : group.finished = some record) :
    (∃ code, group.driver.phase = .returned code) ∧
      (group.Early size record ∨ group.Concluded size record) := by
  have unfinished (none : group.finished = none) : False := by cases none.symm.trans finished
  cases phase : group.driver.phase with
  | returned code =>
      simp only [Ending, phase] at ending
      obtain ⟨written, finished', known⟩ := ending
      obtain rfl := Option.some.inj (finished'.symm.trans finished)
      exact ⟨⟨code, rfl⟩, known⟩
  | lookingStarted last number | readying last | announcing last =>
      cases last with
      | false | true =>
          simp only [Ending, phase] at ending
          exact (unfinished ending.1).elim
  | raised =>
      simp only [Ending, phase] at ending
      exact (unfinished ending).elim
  | _ =>
      simp only [Ending, phase] at ending
      exact (unfinished ending.1).elim

/-- A record stays as it was written. -/
theorem Sound.finished_kept (sound : group.Sound size) {record : GroupFinished}
    (finished : group.finished = some record) (move : GroupMove Record) :
    (group.step size move).finished = some record := by
  cases move with
  | drive given =>
      obtain ⟨⟨code, phase⟩, -⟩ := sound.ending.finished finished
      simpa only [Group.step, Group.drive, phase] using finished
  | _ =>
      refine Eq.trans (sound.frame ?_).finished finished
      exact nofun

theorem Sound.unborn (sound : group.Sound size) {record : GroupFinished}
    (finished : group.finished = some record) (never : record.neverStarted = some true)
    (less : number < size) : (group.ranks number).child = none := by
  rcases (sound.ending.finished finished).2 with early | ⟨fails, -⟩ | ⟨ended, generation, rfl⟩
  · exact (early.barred number less).child
  · cases fails.neverStarted.symm.trans never
  · obtain ⟨record, written, describes⟩ := sound.described ended less
    apply describes.unborn
    by_cases failing : failingFrom 0 (group.recordsBelow size) = none
    · simp only [outcome, failing] at never
      split_ifs at never with cancelled
      · have all : allNeverStarted (group.recordsBelow size) = true := Option.some.inj never
        have mine := List.all_eq_true.mp all _ (mem_recordsBelow.mpr ⟨number, less, written⟩)
        simpa using mine
    · have fails := @outcome_fails _ none generation (.inl failing)
      cases fails.neverStarted.symm.trans never

theorem Sound.failed_of_faulty (sound : group.Sound size) {record : GroupFinished}
    (finished : group.finished = some record) (faulty : group.Faulty size) :
    (finishedStatus record.toFinished).state = .failed := by
  rcases (sound.ending.finished finished).2 with early | ⟨fails, -⟩ | ⟨ended, generation, rfl⟩
  · rcases faulty with failed | ⟨number, less, fault⟩
    · cases early.unfailed.symm.trans failed
    · exact absurd fault (early.barred number less).not_fault
  · exact fails.state
  · exact (outcome_fails (.inl ((sound.failing_iff ended).mpr faulty))).state

theorem Sound.cancelled (sound : group.Sound size) {record : GroupFinished}
    (finished : group.finished = some record) (sane : ¬group.Faulty size) (less : number < size)
    (cancelled : (group.ranks number).CancelledIn) :
    (finishedStatus record.toFinished).state = .cancelled := by
  rcases (sound.ending.finished finished).2 with early | ⟨-, failed⟩ | ⟨ended, generation, rfl⟩
  · obtain ⟨generation, rfl⟩ := early.record
    rfl
  · exact absurd (.inl failed) sane
  · obtain ⟨record, written, describes⟩ := sound.described ended less
    have unfailing : failingFrom 0 (group.recordsBelow size) = none := by
      by_contra failing
      exact sane ((sound.failing_iff ended).mp failing)
    have any : anyCancelled (group.recordsBelow size) = true := by
      refine List.any_eq_true.mpr ⟨some record, mem_recordsBelow.mpr ⟨number, less, written⟩, ?_⟩
      simpa using describes.cancelled cancelled
    simp [outcome, unfailing, any, finishedStatus]

theorem Sound.succeeded (sound : group.Sound size) {record : GroupFinished}
    (finished : group.finished = some record)
    (success : (finishedStatus record.toFinished).state = .succeeded) (less : number < size) :
    ∃ worker, (group.ranks number).child = some worker ∧ worker.life = .reaped 0 ∧
      worker.signals = [] := by
  rcases (sound.ending.finished finished).2 with early | ⟨fails, -⟩ | ⟨ended, generation, rfl⟩
  · obtain ⟨generation, rfl⟩ := early.record
    cases success
  · cases fails.state.symm.trans success
  · obtain ⟨record, written, describes⟩ := sound.described ended less
    have unfailing : failingFrom 0 (group.recordsBelow size) = none := by
      by_contra failing
      have fails := @outcome_fails _ none generation (.inl failing)
      cases fails.state.symm.trans success
    have uncancelled : anyCancelled (group.recordsBelow size) = false := by
      cases any : anyCancelled (group.recordsBelow size) with
      | false => rfl
      | true => simp [outcome, unfailing, any, finishedStatus] at success
    have member := mem_recordsBelow.mpr ⟨number, less, written⟩
    refine describes.succeeded (failingFrom_eq_none.mp unfailing record member) ?_ ?_
    · intro cancelled
      have quiet := List.any_eq_false.mp uncancelled _ member
      simp [cancelled] at quiet
    · intro aborted
      exact (sound.failing_iff ended).mpr (sound.aborted aborted) unfailing

end Group

open Xaytune.Ray.Group

/-- Along every timely run: a group recorded as never started starts no worker then or later;
readiness is announced at most once, after every rank has started its worker and before any
observation of rank 0; and the record says failed if a rank or the group failed, otherwise
cancelled if a cancellation stopped a worker or kept one from starting, and succeeded only if
every worker ran and exited 0 unsignalled. A driver that returns has written it. -/
theorem group_ends_as_its_ranks {size : Nat} {cancelRequest : Bool} {group : Group Record}
    (reached : Reaches (step size) Timely (start cancelRequest) group) :
    (∀ record, group.finished = some record → record.neverStarted = some true →
      ∀ later, Reaches (step size) Timely group later → ∀ number < size,
        (later.ranks number).child = none) ∧
    (Quiet group.events ∨ Told group.events ∧ group.StartedBelow size) ∧
    (∀ record, group.finished = some record →
      (group.Faulty size → (finishedStatus record.toFinished).state = .failed) ∧
      (¬group.Faulty size → (∃ number < size, (group.ranks number).CancelledIn) →
        (finishedStatus record.toFinished).state = .cancelled) ∧
      ((finishedStatus record.toFinished).state = .succeeded → ∀ number < size,
        ∃ worker, (group.ranks number).child = some worker ∧ worker.life = .reaped 0 ∧
          worker.signals = [])) ∧
    ∀ code, group.driver.phase = .returned code → group.finished ≠ none := by
  have sound := Sound.of_reaches reached
  have announced := Announced.of_reaches reached
  refine ⟨?_, ?_, ?_, ?_⟩
  · intro record finished never later further number less
    have kept : later.Sound size ∧ later.finished = some record := by
      induction further with
      | start => exact ⟨sound, finished⟩
      | next before timely ih =>
          exact ⟨Sound.of_reaches ((reached.trans before).next timely),
            ih.1.finished_kept ih.2 _⟩
    exact kept.1.unborn kept.2 never less
  · cases ready : group.driver.ready with
    | false => exact .inl (announced.unready ready)
    | true => exact .inr (announced.ready ready)
  · intro record finished
    refine ⟨sound.failed_of_faulty finished, ?_, ?_⟩
    · rintro sane ⟨number, less, cancelled⟩
      exact sound.cancelled finished sane less cancelled
    · intro success number less
      exact sound.succeeded finished success less
  · intro code returned
    have ending := sound.ending
    simp only [Ending, returned] at ending
    obtain ⟨record, finished, -⟩ := ending
    simp [finished]

def driving (count : Nat) : List (GroupMove String) :=
  List.replicate count (.drive ⟨[], 0, false, true⟩)

def ranking (number count : Nat) : List (GroupMove String) :=
  List.replicate count (.rank number (.ok (40 + number)))

/-- The driver launches two ranks, whose workers start and are polled; the group is ready. -/
def bothStarted : List (GroupMove String) :=
  driving 4 ++ ranking 0 7 ++ ranking 1 7 ++ driving 6

/-- A cancellation is asked for; the workers exit as told, the first before its rank signals it
when `early`. -/
def cancelledGroup (early : Bool) (code : Int) : List (GroupMove String) :=
  bothStarted ++ .requestCancel :: (if early then [.exit 0 code] else []) ++ ranking 0 2 ++
    ranking 1 2 ++ (if early then [] else [.exit 0 code]) ++ .exit 1 (-15) :: ranking 0 3 ++
    ranking 1 3 ++ .endGroup :: driving 13

theorem group_ends_as_its_ranks_cancelled :
    ∃ group : Group String, Reaches (step 2) Timely (start false) group ∧
      (group.ranks 0).CancelledIn ∧ ¬group.Faulty 2 ∧
      ∃ record, group.finished = some record ∧
        (finishedStatus record.toFinished).state = .cancelled := by
  have reached : Reaches (step 2) Timely (start false)
      (Library.follow (step 2) (cancelledGroup false (-15)) (start false)) :=
    Reaches.start.follow _ (by decide)
  have signalled : ((Library.follow (step 2) (cancelledGroup false (-15)) (start false)).ranks
      0).CancelledIn := .inr ⟨by decide, _, rfl, by decide⟩
  have reached_both : ∀ number < 2,
      ((Library.follow (step 2) (cancelledGroup false (-15)) (start false)).ranks
        number).spawnError = none ∧
      ((Library.follow (step 2) (cancelledGroup false (-15)) (start false)).ranks
        number).child.all (fun worker => true ∈ worker.signals) = true := by
    decide
  have sane : ¬(Library.follow (step 2) (cancelledGroup false (-15)) (start false)).Faulty 2 := by
    rintro (failed | ⟨number, less, spawnError | ⟨worker, code, child, ended, -⟩⟩)
    · exact absurd failed (by decide)
    · exact spawnError (reached_both number less).1
    · have all := (reached_both number less).2
      rw [child] at all
      exact ended.2 (by simpa using all)
  obtain ⟨record, finished⟩ : ∃ record,
      (Library.follow (step 2) (cancelledGroup false (-15)) (start false)).finished =
        some record := Option.isSome_iff_exists.mp (by decide +kernel)
  have ends := (group_ends_as_its_ranks reached).2.2.1 record finished
  exact ⟨_, reached, signalled, sane, record, finished, ends.2.1 sane ⟨0, by decide, signalled⟩⟩

/-- A worker that exited with code 1 before its rank's signal makes the group cancelled. -/
theorem cancelled_group_with_a_failed_rank :
    ∃ group : Group String, Reaches (step 2) (fun _ _ => True) (start false) group ∧
      (∃ worker, (group.ranks 0).child = some worker ∧ worker.life = .reaped 1 ∧
        worker.EndedByItself 1) ∧
      group.Faulty 2 ∧
      ∃ record, group.finished = some record ∧
        (finishedStatus record.toFinished).state = .cancelled := by
  have reached : Reaches (step 2) (fun _ _ => True) (start false)
      (Library.follow (step 2) (cancelledGroup true 1) (start false)) :=
    Reaches.start.follow _ (by decide)
  have ended : (⟨40, .reaped 1, [false]⟩ : Worker).EndedByItself 1 := ⟨.inr rfl, by decide⟩
  have child : ((Library.follow (step 2) (cancelledGroup true 1) (start false)).ranks 0).child =
      some ⟨40, .reaped 1, [false]⟩ := by
    decide +kernel
  have state : (Library.follow (step 2) (cancelledGroup true 1) (start false)).finished.map
      (fun record => (finishedStatus record.toFinished).state) = some .cancelled := by
    decide +kernel
  refine ⟨_, reached, ⟨_, child, rfl, ended⟩, ?_, Option.map_eq_some_iff.mp state⟩
  exact .inr ⟨0, by decide, .inr ⟨_, 1, child, ended, by decide⟩⟩

end Xaytune.Ray
