import Xaytune.Ray.WorkerGroup

/-!
# What a rank's record says of its worker

A rank's record describes its worker as long as no signal is sent to a worker that has exited
since it was polled. A rank leaves the marker of abortion only when its worker failed, and one
that announces itself behind a cancellation never starts a worker.
-/

namespace Xaytune.Ray

open Xaytune.Runtimes

/-- The rank's worker could not be started, or failed by itself. -/
def Rank.Fault (rank : Rank) : Prop :=
  rank.spawnError ≠ none ∨ ∃ worker code, rank.child = some worker ∧
    worker.EndedByItself code ∧ code ≠ 0

/-- The rank's worker was signalled while it ran, or kept from starting, for a cancellation. -/
def Rank.CancelledIn (rank : Rank) : Prop :=
  rank.kept = some .cancel ∨ rank.stoppedBy = some .cancel ∧ ∃ worker, rank.child = some worker ∧
    true ∈ worker.signals

def Marks.Has (marks : Marks) : Reason → Prop
  | .cancel => marks.cancelRequest = true
  | .group => marks.abort = true

/-- The rank has not got to the start of a worker. -/
structure Rank.Clear (rank : Rank) : Prop where
  child : rank.child = none
  spawnError : rank.spawnError = none
  kept : rank.kept = none
  stoppedBy : rank.stoppedBy = none
  started : rank.started = none

/-- The worker was kept from starting. -/
structure Rank.Kept (marks : Marks) (rank : Rank) (reason : Reason) : Prop where
  child : rank.child = none
  spawnError : rank.spawnError = none
  kept : rank.kept = some reason
  stoppedBy : rank.stoppedBy = none
  started : rank.started = none
  mark : marks.Has reason

/-- `Popen` raised. -/
structure Rank.Unspawned (rank : Rank) (error : String) : Prop where
  child : rank.child = none
  spawnError : rank.spawnError = some error
  text : error ≠ ""
  kept : rank.kept = none
  stoppedBy : rank.stoppedBy = none
  started : rank.started = none

/-- The worker was started, and signalled as `stoppedBy` says. -/
structure Rank.Ran (marks : Marks) (rank : Rank) (worker : Worker) : Prop where
  child : rank.child = some worker
  spawnError : rank.spawnError = none
  kept : rank.kept = none
  signals : worker.signals = if rank.stoppedBy.isSome then [true] else []
  mark : rank.stoppedBy = some .group → marks.abort = true

/-- What a rank's finished record says of the rank. -/
inductive Rank.Describes (marks : Marks) (rank : Rank) : RankFinished → Prop
  | kept {reason : Reason} {cancelled : Bool} (kept : rank.Kept marks reason)
      (told : reason = .cancel → cancelled = true) :
      Describes marks rank ⟨none, none, some cancelled, some true, none, none⟩
  | unspawned {error : String} (unspawned : rank.Unspawned error) :
      Describes marks rank ⟨none, none, none, none, none, some error⟩
  | ran {worker : Worker} {code : Int} (ran : rank.Ran marks worker)
      (life : worker.life = .reaped code) :
      Describes marks rank (Rank.exitRecord code rank.stoppedBy)

/-- What holds of a rank at each step of `run_rank`. -/
def Rank.Holds (marks : Marks) (rank : Rank) : Prop :=
  match rank.phase with
  | .waiting | .announcing | .checkingCancel | .checkingAbort | .starting => rank.Clear
  | .rechecking => ∃ reason, rank.Kept marks reason
  | .recordingNever cancelled => ∃ reason, rank.Kept marks reason ∧
      (reason = .cancel → cancelled = true)
  | .abortingSpawn | .markingSpawn | .recordingSpawnError => ∃ error, rank.Unspawned error
  | .recordingStart => ∃ worker, rank.Ran marks worker ∧ (∀ code, worker.life ≠ .reaped code) ∧
      rank.stoppedBy = none
  | .polling | .sleeping =>
      ∃ worker, rank.Ran marks worker ∧ ∀ code, worker.life ≠ .reaped code
  | .lookingCancel | .lookingAbort => ∃ worker, rank.Ran marks worker ∧
      (∀ code, worker.life ≠ .reaped code) ∧ rank.stoppedBy = none
  | .signalling reason => ∃ worker, rank.Ran marks worker ∧
      (∀ code, worker.life ≠ .reaped code) ∧ rank.stoppedBy = none ∧ marks.Has reason
  | .aborting code | .marking code => ∃ worker, rank.Ran marks worker ∧
      worker.life = .reaped code ∧ rank.stoppedBy = none ∧ code ≠ 0
  | .recording code => ∃ worker, rank.Ran marks worker ∧ worker.life = .reaped code
  | .done => ∃ record, rank.finished = some record ∧ rank.Describes marks record
  | .gone => True

/-- The rank's worker is running. -/
def Rank.Running (rank : Rank) : Prop :=
  ∃ worker, rank.child = some worker ∧ worker.life = .running

/-- Markers are only added. -/
def Marks.Grows (marks marks' : Marks) : Prop := ∀ reason, marks.Has reason → marks'.Has reason

theorem Marks.Grows.refl (marks : Marks) : marks.Grows marks := fun _ => id

theorem Marks.grows_abort (marks : Marks) : marks.Grows { marks with abort := true } := by
  intro reason has
  cases reason with
  | cancel => exact has
  | group => rfl

theorem Marks.grows_cancel (marks : Marks) : marks.Grows { marks with cancelRequest := true } := by
  intro reason has
  cases reason with
  | cancel => rfl
  | group => exact has

namespace Rank

variable {rank : Rank} {marks marks' : Marks} {spawned : Except SpawnError Nat}

theorem Clear.moved (clear : rank.Clear) (phase : RankPhase) (spawning : Bool)
    (finished : Option RankFinished) : Clear { rank with phase, spawning, finished } :=
  ⟨clear.child, clear.spawnError, clear.kept, clear.stoppedBy, clear.started⟩

theorem Kept.moved {reason : Reason} (kept : rank.Kept marks reason) (phase : RankPhase)
    (finished : Option RankFinished) : Kept marks { rank with phase, finished } reason :=
  ⟨kept.child, kept.spawnError, kept.kept, kept.stoppedBy, kept.started, kept.mark⟩

theorem Unspawned.moved {error : String} (unspawned : rank.Unspawned error) (phase : RankPhase)
    (finished : Option RankFinished) : Unspawned { rank with phase, finished } error :=
  ⟨unspawned.child, unspawned.spawnError, unspawned.text, unspawned.kept, unspawned.stoppedBy,
    unspawned.started⟩

theorem Ran.moved {worker : Worker} (ran : rank.Ran marks worker) (phase : RankPhase)
    (started : Option Nat) (finished : Option RankFinished) :
    Ran marks { rank with phase, started, finished } worker :=
  ⟨ran.child, ran.spawnError, ran.kept, ran.signals, ran.mark⟩

theorem Kept.grows {reason : Reason} (kept : rank.Kept marks reason) (grows : marks.Grows marks') :
    rank.Kept marks' reason :=
  { kept with mark := grows reason kept.mark }

theorem Ran.grows {worker : Worker} (ran : rank.Ran marks worker) (grows : marks.Grows marks') :
    rank.Ran marks' worker :=
  { ran with mark := fun stopped => grows .group (ran.mark stopped) }

theorem Describes.grows {record : RankFinished} (describes : rank.Describes marks record)
    (grows : marks.Grows marks') : rank.Describes marks' record := by
  cases describes with
  | kept kept told => exact .kept (kept.grows grows) told
  | unspawned unspawned => exact .unspawned unspawned
  | ran ran life => exact .ran (ran.grows grows) life

theorem Holds.grows (holds : rank.Holds marks) (grows : marks.Grows marks') :
    rank.Holds marks' := by
  obtain ⟨phase, child, spawnError, kept, stoppedBy, spawning, started, finished⟩ := rank
  cases phase with
  | waiting | announcing | checkingCancel | checkingAbort | starting | abortingSpawn
  | markingSpawn | recordingSpawnError | gone => exact holds
  | rechecking =>
      obtain ⟨reason, kept⟩ := holds
      exact ⟨reason, kept.grows grows⟩
  | recordingNever cancelled =>
      obtain ⟨reason, kept, told⟩ := holds
      exact ⟨reason, kept.grows grows, told⟩
  | recordingStart | polling | sleeping | lookingCancel | lookingAbort | aborting _ | marking _
  | recording _ =>
      obtain ⟨worker, ran, rest⟩ := holds
      exact ⟨worker, ran.grows grows, rest⟩
  | signalling reason =>
      obtain ⟨worker, ran, unreaped, unstopped, mark⟩ := holds
      exact ⟨worker, ran.grows grows, unreaped, unstopped, grows _ mark⟩
  | done =>
      obtain ⟨record, finished, describes⟩ := holds
      exact ⟨record, finished, describes.grows grows⟩

theorem Ran.poll {worker : Worker} (ran : rank.Ran marks worker)
    (unreaped : ∀ code, worker.life ≠ .reaped code) :
    (rank.pollWorker worker).Holds marks := by
  cases life : worker.life with
  | running =>
      have polled : worker.poll = (worker, none) := by simp [Worker.poll, life]
      simp only [pollWorker, polled]
      by_cases unstopped : rank.stoppedBy = none
      · rw [if_pos unstopped]
        exact ⟨worker, { ran with child := rfl }, unreaped, unstopped⟩
      · rw [if_neg unstopped]
        exact ⟨worker, { ran with child := rfl }, unreaped⟩
  | exited code =>
      have polled : worker.poll = ({ worker with life := .reaped code }, some code) := by
        simp [Worker.poll, life]
      have ended : Ran marks { rank with child := some { worker with life := .reaped code } }
          { worker with life := .reaped code } :=
        { ran with child := rfl, signals := ran.signals }
      simp only [pollWorker, polled]
      by_cases failed : code ≠ 0 ∧ rank.stoppedBy = none
      · rw [if_pos failed]
        exact ⟨_, ⟨rfl, ended.spawnError, ended.kept, ended.signals, ended.mark⟩, rfl, failed.2,
          failed.1⟩
      · rw [if_neg failed]
        exact ⟨_, ⟨rfl, ended.spawnError, ended.kept, ended.signals, ended.mark⟩, rfl⟩
  | reaped code => exact absurd life (unreaped code)

theorem Ran.signal {worker : Worker} {reason : Reason} (ran : rank.Ran marks worker)
    (running : worker.life = .running) (unstopped : rank.stoppedBy = none)
    (mark : marks.Has reason) : (rank.signalWorker reason worker).Holds marks := by
  have killed : worker.killpg = ({ worker with signals := worker.signals ++ [true] }, true) := by
    simp [Worker.killpg, running]
  have quiet : worker.signals = [] := by simpa [unstopped] using ran.signals
  simp only [signalWorker, killed, if_true]
  refine ⟨_, ⟨rfl, ran.spawnError, ran.kept, ?_, ?_⟩, ?_⟩
  · simp [quiet]
  · intro stopped
    obtain rfl := Option.some.inj stopped
    exact mark
  · intro code
    simp [running]

theorem Holds.step (holds : rank.Holds marks)
    (timely : ∀ reason, rank.phase = .signalling reason → rank.Running) :
    (rank.step spawned marks).1.Holds (rank.step spawned marks).2 := by
  obtain ⟨phase, child, spawnError, kept, stoppedBy, spawning, started, finished⟩ := rank
  cases phase with
  | waiting => exact holds.moved _ _ _
  | announcing => exact holds.moved _ _ _
  | checkingCancel =>
      simp only [Rank.step]
      split_ifs with requested
      · exact ⟨.cancel, holds.child, holds.spawnError, rfl, holds.stoppedBy, holds.started,
          requested⟩
      · exact holds.moved _ _ _
  | checkingAbort =>
      simp only [Rank.step]
      split_ifs with aborted
      · exact ⟨.group, holds.child, holds.spawnError, rfl, holds.stoppedBy, holds.started, aborted⟩
      · exact holds.moved _ _ _
  | rechecking =>
      obtain ⟨reason, kept⟩ := holds
      refine ⟨reason, kept.moved _ _, ?_⟩
      rintro rfl
      exact kept.mark
  | recordingNever cancelled =>
      obtain ⟨reason, kept, told⟩ := holds
      exact ⟨_, rfl, .kept (kept.moved _ _) told⟩
  | starting =>
      simp only [Rank.step, startWorker]
      split
      · rename_i error
        exact ⟨error.val, holds.child, rfl, error.property, holds.kept, holds.stoppedBy,
          holds.started⟩
      · have unstopped : stoppedBy = none := holds.stoppedBy
        subst unstopped
        exact ⟨_, ⟨rfl, holds.spawnError, holds.kept, rfl, nofun⟩, nofun, rfl⟩
  | abortingSpawn =>
      obtain ⟨error, unspawned⟩ := holds
      simp only [Rank.step]
      split_ifs
      · exact ⟨error, unspawned.moved _ _⟩
      · exact ⟨error, unspawned.moved _ _⟩
  | markingSpawn =>
      obtain ⟨error, unspawned⟩ := holds
      exact ⟨error, unspawned.moved _ _⟩
  | recordingSpawnError =>
      obtain ⟨error, unspawned⟩ := holds
      have text : spawnError = some error := unspawned.spawnError
      subst text
      exact ⟨_, rfl, .unspawned (unspawned.moved _ _)⟩
  | recordingStart =>
      obtain ⟨worker, ran, unreaped, -⟩ := holds
      exact ⟨worker, ran.moved _ _ _, unreaped⟩
  | polling =>
      obtain ⟨worker, ran, unreaped⟩ := holds
      have alive : child = some worker := ran.child
      subst alive
      exact ran.poll unreaped
  | lookingCancel =>
      obtain ⟨worker, ran, unreaped, unstopped⟩ := holds
      simp only [Rank.step, goTo]
      split_ifs with requested
      · exact ⟨worker, ran.moved _ _ _, unreaped, unstopped, requested⟩
      · exact ⟨worker, ran.moved _ _ _, unreaped, unstopped⟩
  | lookingAbort =>
      obtain ⟨worker, ran, unreaped, unstopped⟩ := holds
      simp only [Rank.step, goTo]
      split_ifs with aborted
      · exact ⟨worker, ran.moved _ _ _, unreaped, unstopped, aborted⟩
      · exact ⟨worker, ran.moved _ _ _, unreaped⟩
  | signalling reason =>
      obtain ⟨worker, ran, unreaped, unstopped, mark⟩ := holds
      obtain ⟨other, alive, running⟩ := timely reason rfl
      obtain rfl : worker = other := Option.some.inj (ran.child.symm.trans alive)
      have known : child = some worker := ran.child
      subst known
      exact ran.signal running unstopped mark
  | sleeping =>
      obtain ⟨worker, ran, unreaped⟩ := holds
      exact ⟨worker, ran.moved _ _ _, unreaped⟩
  | aborting code =>
      obtain ⟨worker, ran, life, unstopped, failed⟩ := holds
      simp only [Rank.step, goTo]
      split_ifs
      · exact ⟨worker, ran.moved _ _ _, life⟩
      · exact ⟨worker, ran.moved _ _ _, life, unstopped, failed⟩
  | marking code =>
      obtain ⟨worker, ran, life, -⟩ := holds
      exact ⟨worker, ⟨ran.child, ran.spawnError, ran.kept, ran.signals, fun _ => rfl⟩, life⟩
  | recording code =>
      obtain ⟨worker, ran, life⟩ := holds
      have recorded : Ran marks (Rank.record (exitRecord code stoppedBy)
          ⟨.recording code, child, spawnError, kept, stoppedBy, spawning, started, finished⟩)
          worker := ran.moved _ _ _
      exact ⟨_, rfl, .ran recorded life⟩
  | done => exact holds
  | gone => trivial

theorem step_grows : marks.Grows (rank.step spawned marks).2 := by
  cases phase : rank.phase with
  | checkingCancel | checkingAbort =>
      simp only [Rank.step, phase]
      split_ifs <;> exact .refl marks
  | polling | signalling _ =>
      simp only [Rank.step, phase]
      split <;> exact .refl marks
  | markingSpawn | marking _ =>
      simp only [Rank.step, phase]
      exact marks.grows_abort
  | _ =>
      simp only [Rank.step, phase]
      exact .refl marks

theorem Ran.exit {worker : Worker} (ran : rank.Ran marks worker) (code : Int) :
    (rank.exitWorker code).Ran marks (worker.exit code) :=
  ⟨by simp [exitWorker, ran.child], ran.spawnError, ran.kept,
    by rw [Worker.exit_signals]; exact ran.signals, ran.mark⟩

/-- A worker that has been reaped, or was never started, does not exit again. -/
theorem exitWorker_of_ended {code : Int}
    (ended : ∀ worker, rank.child = some worker → worker.life ≠ .running) :
    rank.exitWorker code = rank := by
  have same : rank.child.map (Worker.exit code) = rank.child := by
    cases child : rank.child with
    | none => rfl
    | some worker => simp [Worker.exit_of_ended (ended worker child)]
  simp only [exitWorker, same]

theorem Ran.exit_of_reaped {worker : Worker} {final : Int} (ran : rank.Ran marks worker)
    (life : worker.life = .reaped final) (code : Int) : rank.exitWorker code = rank := by
  apply exitWorker_of_ended
  intro other child
  obtain rfl : worker = other := Option.some.inj (ran.child.symm.trans child)
  simp [life]

theorem exitWorker_of_none (unborn : rank.child = none) (code : Int) :
    rank.exitWorker code = rank := by
  apply exitWorker_of_ended
  intro worker child
  cases unborn.symm.trans child

theorem Describes.exit {record : RankFinished} (describes : rank.Describes marks record)
    (code : Int) : rank.exitWorker code = rank := by
  cases describes with
  | kept kept told => exact exitWorker_of_none kept.child code
  | unspawned unspawned => exact exitWorker_of_none unspawned.child code
  | ran ran life => exact ran.exit_of_reaped life code

theorem Holds.exit (holds : rank.Holds marks) (code : Int) :
    (rank.exitWorker code).Holds marks := by
  cases phase : rank.phase with
  | waiting | announcing | checkingCancel | checkingAbort | starting =>
      have clear : rank.Clear := by simpa [Holds, phase] using holds
      rw [exitWorker_of_none clear.child code]
      exact holds
  | rechecking =>
      obtain ⟨reason, kept⟩ : ∃ reason, rank.Kept marks reason := by
        simpa [Holds, phase] using holds
      rw [exitWorker_of_none kept.child code]
      exact holds
  | recordingNever cancelled =>
      obtain ⟨reason, kept, -⟩ : ∃ reason, rank.Kept marks reason ∧ _ := by
        simpa only [Holds, phase] using holds
      rw [exitWorker_of_none kept.child code]
      exact holds
  | abortingSpawn | markingSpawn | recordingSpawnError =>
      obtain ⟨error, unspawned⟩ : ∃ error, rank.Unspawned error := by
        simpa [Holds, phase] using holds
      rw [exitWorker_of_none unspawned.child code]
      exact holds
  | recordingStart | polling | sleeping | lookingCancel | lookingAbort | signalling _ =>
      simp only [Holds, phase] at holds
      have same : (rank.exitWorker code).phase = rank.phase := rfl
      simp only [Holds, same, phase]
      obtain ⟨worker, ran, rest⟩ := holds
      refine ⟨worker.exit code, ran.exit code, ?_⟩
      first
        | exact fun final => Worker.exit_unreaped (rest final)
        | exact ⟨fun final => Worker.exit_unreaped (rest.1 final), rest.2⟩
  | aborting final | marking final | recording final =>
      have kept := holds
      simp only [Holds, phase] at kept
      obtain ⟨worker, ran, rest⟩ := kept
      have life : worker.life = .reaped final := by
        first
          | exact rest
          | exact rest.1
      rw [ran.exit_of_reaped life code]
      exact holds
  | done =>
      have kept := holds
      simp only [Holds, phase] at kept
      obtain ⟨record, -, describes⟩ := kept
      rw [describes.exit code]
      exact holds
  | gone =>
      have same : (rank.exitWorker code).phase = rank.phase := rfl
      simp only [Holds, same, phase]

/-- What `step` leaves of a rank's worker: it stays, polled or signalled at most. -/
theorem step_child {worker : Worker} (child : rank.child = some worker)
    (past : rank.phase ≠ .starting) :
    ∃ worker', (rank.step spawned marks).1.child = some worker' ∧
      (worker' = worker ∨ worker' = worker.poll.1 ∨ worker' = worker.killpg.1) := by
  cases phase : rank.phase with
  | starting => exact absurd phase past
  | checkingCancel | checkingAbort =>
      simp only [step, phase]
      split_ifs <;> exact ⟨worker, child, .inl rfl⟩
  | polling =>
      simp only [step, phase, child, pollWorker]
      split
      · rename_i polled eq
        exact ⟨polled, rfl, .inr (.inl (by rw [eq]))⟩
      · rename_i polled code eq
        exact ⟨polled, rfl, .inr (.inl (by rw [eq]))⟩
  | signalling reason =>
      simp only [step, phase, child, signalWorker]
      exact ⟨_, rfl, .inr (.inr rfl)⟩
  | _ =>
      simp only [step, phase]
      exact ⟨worker, child, .inl rfl⟩

theorem step_spawnError {error : String} (told : rank.spawnError = some error)
    (past : rank.phase ≠ .starting) :
    (rank.step spawned marks).1.spawnError = some error := by
  cases phase : rank.phase with
  | starting => exact absurd phase past
  | checkingCancel | checkingAbort =>
      simp only [step, phase]
      split_ifs <;> exact told
  | polling =>
      simp only [step, phase, pollWorker]
      split
      · exact told
      · split <;> exact told
  | signalling reason =>
      simp only [step, phase, signalWorker]
      split <;> exact told
  | _ =>
      simp only [step, phase]
      exact told

theorem Holds.past_of_fault (holds : rank.Holds marks) (fault : rank.Fault) :
    rank.phase ≠ .starting := by
  intro phase
  simp only [Holds, phase] at holds
  rcases fault with told | ⟨worker, code, child, -⟩
  · exact told holds.spawnError
  · cases holds.child.symm.trans child

theorem Fault.step (fault : rank.Fault) (holds : rank.Holds marks) :
    (rank.step spawned marks).1.Fault := by
  have past := holds.past_of_fault fault
  rcases fault with told | ⟨worker, code, child, ended, failed⟩
  · obtain ⟨error, told⟩ := Option.ne_none_iff_exists'.mp told
    exact .inl (by simp [step_spawnError told past])
  · obtain ⟨worker', child', same⟩ := @step_child _ marks spawned _ child past
    refine .inr ⟨worker', code, child', ?_, failed⟩
    rcases same with rfl | rfl | rfl
    · exact ended
    · exact ended.poll
    · exact ended.killpg

theorem Fault.exit (fault : rank.Fault) (code : Int) : (rank.exitWorker code).Fault := by
  rcases fault with told | ⟨worker, final, child, ended, failed⟩
  · exact .inl told
  · exact .inr ⟨worker.exit code, final, by simp [exitWorker, child], ended.exit, failed⟩

/-- A rank leaves the marker only when its worker failed. -/
theorem Holds.abort_origin (holds : rank.Holds marks)
    (aborted : (rank.step spawned marks).2.abort = true) :
    marks.abort = true ∨ (rank.step spawned marks).1.Fault := by
  cases phase : rank.phase with
  | markingSpawn =>
      simp only [Holds, phase] at holds
      obtain ⟨error, unspawned⟩ := holds
      right
      simp only [Rank.step, phase]
      exact .inl (by simp [goTo, unspawned.spawnError])
  | marking code =>
      simp only [Holds, phase] at holds
      obtain ⟨worker, ran, life, unstopped, failed⟩ := holds
      right
      simp only [Rank.step, phase]
      refine .inr ⟨worker, code, ran.child, ⟨.inr life, ?_⟩, failed⟩
      simp [ran.signals, unstopped]
  | checkingCancel | checkingAbort =>
      left
      simp only [Rank.step, phase] at aborted
      split_ifs at aborted <;> exact aborted
  | polling | signalling _ =>
      left
      simp only [Rank.step, phase] at aborted
      split at aborted <;> exact aborted
  | _ =>
      left
      simpa only [Rank.step, phase] using aborted

/-- A rank that has told of its worker has started it. -/
def Launched (rank : Rank) : Prop := rank.started ≠ none → rank.child ≠ none

theorem step_born (born : rank.child ≠ none) : (rank.step spawned marks).1.child ≠ none := by
  obtain ⟨worker, child⟩ := Option.ne_none_iff_exists'.mp born
  by_cases starting : rank.phase = .starting
  · simp only [step, starting, startWorker]
    split
    · exact born
    · simp
  · obtain ⟨worker', child', -⟩ := @step_child _ marks spawned _ child starting
    simp [child']

theorem Launched.step (launched : rank.Launched) : (rank.step spawned marks).1.Launched := by
  intro told
  by_cases born : rank.child = none
  · -- nothing was started, so nothing has been told, and the next step tells of no worker
    have silent : rank.started = none := by
      by_contra started
      exact launched started born
    cases phase : rank.phase with
    | starting =>
        simp only [Rank.step, phase, startWorker] at told ⊢
        split at told
        · exact absurd silent told
        · simp
    | recordingStart => simp [Rank.step, phase, born] at told
    | checkingCancel | checkingAbort =>
        simp only [Rank.step, phase] at told
        split_ifs at told <;> exact absurd silent told
    | polling | signalling _ =>
        simp only [Rank.step, phase, born] at told
        exact absurd silent told
    | _ =>
        simp only [Rank.step, phase] at told
        exact absurd silent told
  · exact step_born born

theorem Launched.exit (launched : rank.Launched) (code : Int) :
    (rank.exitWorker code).Launched := by
  intro told
  have born := launched told
  simpa [exitWorker] using born

/-- The rank starts no worker once the cancellation is there. -/
structure Barred (rank : Rank) : Prop where
  child : rank.child = none
  spawnError : rank.spawnError = none
  phase : match rank.phase with
    | .waiting | .announcing | .checkingCancel | .rechecking | .recordingNever _ | .done
    | .gone => True
    | _ => False

theorem Barred.step (barred : rank.Barred) (requested : marks.cancelRequest = true) :
    (rank.step spawned marks).1.Barred := by
  obtain ⟨unborn, untold, known⟩ := barred
  cases phase : rank.phase with
  | waiting | announcing | rechecking | recordingNever _ =>
      simp only [Rank.step, phase]
      exact ⟨unborn, untold, trivial⟩
  | checkingCancel =>
      simp only [Rank.step, phase, requested, if_true]
      exact ⟨unborn, untold, trivial⟩
  | done | gone =>
      simp only [Rank.step, phase]
      exact ⟨unborn, untold, by simp only [phase]⟩
  | _ => simp only [phase] at known

theorem Barred.exit (barred : rank.Barred) (code : Int) : (rank.exitWorker code).Barred := by
  rw [exitWorker_of_none barred.child code]
  exact barred

/-- A rank that has not announced itself has started nothing. -/
def Hushed (rank : Rank) : Prop :=
  rank.spawning = false → rank.child = none ∧ rank.spawnError = none ∧
    (rank.phase = .waiting ∨ rank.phase = .announcing ∨ rank.phase = .gone)

theorem Hushed.barred (hushed : rank.Hushed) (silent : rank.spawning = false) : rank.Barred := by
  obtain ⟨unborn, untold, phase⟩ := hushed silent
  refine ⟨unborn, untold, ?_⟩
  rcases phase with phase | phase | phase
  · simp only [phase]
  · simp only [phase]
  · simp only [phase]

theorem step_spawning (loud : rank.spawning = true) :
    (rank.step spawned marks).1.spawning = true := by
  cases phase : rank.phase with
  | checkingCancel | checkingAbort =>
      simp only [step, phase]
      split_ifs <;> exact loud
  | starting =>
      simp only [step, phase, startWorker]
      split <;> exact loud
  | polling =>
      simp only [step, phase]
      split
      · exact loud
      · simp only [pollWorker]
        split <;> exact loud
  | signalling reason =>
      simp only [step, phase]
      split <;> exact loud
  | announcing => simp only [step, phase]
  | _ =>
      simp only [step, phase]
      exact loud

theorem Hushed.step (hushed : rank.Hushed) : (rank.step spawned marks).1.Hushed := by
  intro silent
  cases loud : rank.spawning with
  | true => simp [step_spawning loud] at silent
  | false =>
      obtain ⟨unborn, untold, phase⟩ := hushed loud
      rcases phase with phase | phase | phase
      · simp only [Rank.step, phase]
        exact ⟨unborn, untold, .inr (.inl rfl)⟩
      · simp [Rank.step, phase] at silent
      · simp only [Rank.step, phase]
        exact ⟨unborn, untold, by simp⟩

theorem Hushed.exit (hushed : rank.Hushed) (code : Int) : (rank.exitWorker code).Hushed := by
  intro silent
  obtain ⟨unborn, rest⟩ := hushed silent
  exact ⟨by simp [exitWorker, unborn], rest⟩

theorem Hushed.die (hushed : rank.Hushed) : (rank.goTo .gone).Hushed := by
  intro silent
  obtain ⟨unborn, untold, -⟩ := hushed silent
  exact ⟨unborn, untold, .inr (.inr rfl)⟩

theorem Barred.not_fault (barred : rank.Barred) : ¬rank.Fault := by
  rintro (told | ⟨worker, code, child, -⟩)
  · exact told barred.spawnError
  · cases barred.child.symm.trans child

end Rank

theorem failingFrom_eq_none {records : List (Option RankFinished)} {first : Nat} :
    failingFrom first records = none ↔ ∀ record, some record ∈ records →
      record.failing = false := by
  induction records generalizing first with
  | nil => simp [failingFrom]
  | cons head rest ih =>
      cases head with
      | none => simp [failingFrom, ih]
      | some record =>
          by_cases failing : record.failing = true
          · simp only [failingFrom, failing, if_true, reduceCtorEq, false_iff]
            intro none
            have unfailing := none record List.mem_cons_self
            simp [failing] at unfailing
          · have unfailing : record.failing = false := by simpa using failing
            simp only [failingFrom, unfailing, Bool.false_eq_true, if_false, List.mem_cons,
              Option.some.injEq, ih]
            constructor
            · rintro rest other (rfl | member)
              · exact unfailing
              · exact rest other member
            · intro all other member
              exact all other (.inr member)

theorem failing_of_failingFrom {records : List (Option RankFinished)} {first rank : Nat}
    {record : RankFinished} (found : failingFrom first records = some (rank, record)) :
    some record ∈ records ∧ record.failing = true := by
  induction records generalizing first with
  | nil => simp [failingFrom] at found
  | cons head rest ih =>
      cases head with
      | none =>
          obtain ⟨member, failing⟩ := ih found
          exact ⟨List.mem_cons_of_mem _ member, failing⟩
      | some candidate =>
          simp only [failingFrom] at found
          split_ifs at found with failing
          · cases found
            exact ⟨List.mem_cons_self, failing⟩
          · obtain ⟨member, failing⟩ := ih found
            exact ⟨List.mem_cons_of_mem _ member, failing⟩

/-- A record of failure is reported as one, and does not say the group never started. -/
structure GroupFinished.Fails (record : GroupFinished) : Prop where
  state : (finishedStatus record.toFinished).state = .failed
  neverStarted : record.neverStarted = none

theorem outcome_fails {records : List (Option RankFinished)} {failure : Option String}
    {generation : Nat} (fails : failingFrom 0 records ≠ none ∨ failure ≠ none) :
    (outcome records failure generation).Fails := by
  cases found : failingFrom 0 records with
  | some entry =>
      obtain ⟨rank, record⟩ := entry
      obtain ⟨-, failing⟩ := failing_of_failingFrom found
      simp only [outcome, found]
      constructor
      · cases error : record.spawnError with
        | some text => simp [finishedStatus]
        | none =>
            have code : record.exitCode ≠ some 0 := by
              simp only [RankFinished.failing, error, Option.isSome_none, Bool.false_and,
                Bool.or_false, Bool.and_eq_true, bne_iff_ne, ne_eq] at failing
              exact failing.2.2
            simp [finishedStatus, code]
      · rfl
  | none =>
      cases failure with
      | some error =>
          simp only [outcome, found]
          exact ⟨rfl, rfl⟩
      | none => simp [found] at fails

namespace Rank

variable {rank : Rank} {marks : Marks} {record : RankFinished}

theorem Describes.failing (describes : rank.Describes marks record) (fault : rank.Fault) :
    record.failing = true := by
  cases describes with
  | kept kept told =>
      rcases fault with told | ⟨worker, code, child, -⟩
      · exact absurd kept.spawnError told
      · cases kept.child.symm.trans child
  | unspawned unspawned => simp [RankFinished.failing, unspawned.text]
  | @ran worker code ran life =>
      rcases fault with told | ⟨other, final, child, ⟨ended, unsignalled⟩, failed⟩
      · exact absurd ran.spawnError told
      · obtain rfl : worker = other := Option.some.inj (ran.child.symm.trans child)
        have same : code = final := by
          rcases ended with ended | ended
          · cases life.symm.trans ended
          · cases life.symm.trans ended
            rfl
        subst same
        have unstopped : rank.stoppedBy = none := by
          cases stopped : rank.stoppedBy with
          | none => rfl
          | some reason => simp [ran.signals, stopped] at unsignalled
        simp [RankFinished.failing, exitRecord, unstopped, failed]

theorem Describes.fault (describes : rank.Describes marks record)
    (failing : record.failing = true) : rank.Fault := by
  cases describes with
  | kept kept told => simp [RankFinished.failing] at failing
  | unspawned unspawned => exact .inl (by simp [unspawned.spawnError])
  | @ran worker code ran life =>
      have unstopped : rank.stoppedBy = none := by
        simp only [RankFinished.failing, Bool.and_eq_true] at failing
        exact Option.isNone_iff_eq_none.mp failing.1
      refine .inr ⟨worker, code, ran.child, ⟨.inr life, by simp [ran.signals, unstopped]⟩, ?_⟩
      rintro rfl
      simp [RankFinished.failing, exitRecord] at failing

theorem Describes.cancelled (describes : rank.Describes marks record)
    (cancelled : rank.CancelledIn) : record.cancelled = some true := by
  cases describes with
  | kept kept told =>
      rcases cancelled with held | ⟨stopped, -⟩
      · have reason := Option.some.inj (kept.kept.symm.trans held)
        simp [told reason]
      · cases kept.stoppedBy.symm.trans stopped
  | unspawned unspawned =>
      rcases cancelled with held | ⟨stopped, -⟩
      · cases unspawned.kept.symm.trans held
      · cases unspawned.stoppedBy.symm.trans stopped
  | ran ran life =>
      rcases cancelled with held | ⟨stopped, -⟩
      · cases ran.kept.symm.trans held
      · simp [exitRecord, stopped]

/-- A record that neither fails nor cancels the group is of a worker that ran to its end, unless
the group was aborted. -/
theorem Describes.succeeded (describes : rank.Describes marks record)
    (unfailing : record.failing = false) (uncancelled : record.cancelled ≠ some true)
    (unaborted : marks.abort ≠ true) :
    ∃ worker, rank.child = some worker ∧ worker.life = .reaped 0 ∧ worker.signals = [] := by
  cases describes with
  | @kept reason cancelled kept told =>
      cases reason with
      | cancel => simp [told] at uncancelled
      | group => exact absurd kept.mark unaborted
  | unspawned unspawned => simp [RankFinished.failing, unspawned.text] at unfailing
  | @ran worker code ran life =>
      have unstopped : rank.stoppedBy = none := by
        cases stopped : rank.stoppedBy with
        | none => rfl
        | some reason =>
            cases reason with
            | cancel => simp [exitRecord, stopped] at uncancelled
            | group => exact absurd (ran.mark stopped) unaborted
      have ended : code = 0 := by
        simpa [RankFinished.failing, exitRecord, unstopped] using unfailing
      subst ended
      exact ⟨worker, ran.child, life, by simp [ran.signals, unstopped]⟩

theorem Describes.unborn (describes : rank.Describes marks record)
    (never : record.neverStarted = some true) : rank.child = none := by
  cases describes with
  | kept kept told => exact kept.child
  | unspawned unspawned => cases never
  | ran ran life => cases never

end Rank

end Xaytune.Ray
