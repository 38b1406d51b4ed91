import Xaytune.Studio.Restarts

/-!
# What a job's status tells

The status is written by clients and by the job's thread, each under the lock but without looking at
what the other wrote. It tells the last of them: a cancel stands unless the thread starts or fails
after it, and a status that ended the job stands until somebody cancels it.
-/

namespace Xaytune.Studio

open Xaytune.Library

variable {V : Type} {numbers : Numbers V} {jobId : String}

/-- The status a move writes for the job; a training that returns leaves it cancelled if it was. -/
def Move.mark (jobId : String) : Move V → Option JobStatus
  | .submit other .. => if other = jobId then some .pending else none
  | .begin other .. => if other = jobId then some .running else none
  | .finish other .. => if other = jobId then some .completed else none
  | .fail other .. => if other = jobId then some .failed else none
  | .cancel other => if other = jobId then some .cancelled else none
  | .addTag .. | .removeTag .. | .attach _ | .stepEnd .. | .detach _ | .log .. | .restart _ => none

theorem Move.mark_of_ne {move : Move V} (other : move.about ≠ some jobId) :
    move.mark jobId = none := by
  cases move with
  | submit | cancel | begin | finish | fail => simp_all [about, mark]
  | addTag | removeTag | attach | stepEnd | detach | log | restart => rfl

/-- The status was written, and none of the others since. -/
def Stands (jobId : String) (status : JobStatus) (others : List JobStatus)
    (history : List (Move V)) : Prop :=
  Since (fun move => move.mark jobId = some status)
    (fun move => ∃ other ∈ others, move.mark jobId = some other) history

section stands

variable {history : List (Move V)} {move : Move V} {status : JobStatus} {others : List JobStatus}

theorem stands_concat : Stands jobId status others (history ++ [move]) ↔
    move.mark jobId = some status ∨
      (Stands jobId status others history ∧ ∀ other ∈ others, move.mark jobId ≠ some other) := by
  simp [Stands]

/-- A move that writes a status settles what stands. -/
theorem stands_marked {written : JobStatus} (marks : move.mark jobId = some written) :
    Stands jobId status others (history ++ [move]) ↔
      written = status ∨ (Stands jobId status others history ∧ written ∉ others) := by
  simp only [stands_concat, marks, Option.some.injEq, ne_eq, List.forall_mem_ne]

theorem stands_unmarked (unmarked : move.mark jobId = none) :
    Stands jobId status others (history ++ [move]) ↔ Stands jobId status others history := by
  simp [stands_concat, unmarked]

theorem Stands.mono {fewer : List JobStatus} (stands : Stands jobId status others history)
    (subset : fewer ⊆ others) : Stands jobId status fewer history :=
  Since.mono stands (fun _ => id) fun _ ⟨other, member, marks⟩ => ⟨other, subset member, marks⟩

/-- Of two statuses that replace each other only the later stands. -/
theorem Stands.not_both {second : JobStatus} {others' : List JobStatus}
    (first : Stands jobId status others history) (last : Stands jobId second others' history)
    (apart : status ≠ second) (replaced : second ∈ others) (replaced' : status ∈ others') :
    False := by
  refine Since.not_both first last (fun _ marks => ⟨status, replaced', marks⟩)
    (fun _ marks => ⟨second, replaced, marks⟩) fun _ marks marks' => ?_
  exact apart (Option.some.inj (marks.symm.trans marks'))

end stands

/-- What each status of a job says of the moves that led to it. -/
structure Told (jobId : String) (history : List (Move V)) (status : JobStatus) : Prop where
  pending : status = .pending ↔ Stands jobId .pending [.running, .cancelled] history
  running : status = .running ↔ Stands jobId .running [.cancelled, .completed, .failed] history
  completed : status = .completed ↔
    Stands jobId .completed [.cancelled] history ∧ Stands jobId .running [.cancelled] history
  failed : status = .failed ↔ Stands jobId .failed [.cancelled] history
  cancelled : status = .cancelled ↔ Stands jobId .cancelled [.pending, .running, .failed] history

section told

variable {history : List (Move V)} {move : Move V} {status : JobStatus}

theorem Told.unmarked (told : Told jobId history status) (unmarked : move.mark jobId = none) :
    Told jobId (history ++ [move]) status := by
  obtain ⟨pending, running, completed, failed, cancelled⟩ := told
  constructor <;> simpa only [stands_unmarked unmarked]

theorem Told.cancel (marks : move.mark jobId = some .cancelled) :
    Told jobId (history ++ [move]) .cancelled := by
  constructor <;> simp [stands_marked marks]

theorem Told.submit (marks : move.mark jobId = some .pending)
    (never : ∀ status ∈ [JobStatus.running, .completed, .failed],
      ¬ Stands jobId status [] history) :
    Told jobId (history ++ [move]) .pending := by
  have unwritten {status : JobStatus} (member : status ∈ [JobStatus.running, .completed, .failed])
      (others : List JobStatus) : ¬ Stands jobId status others history :=
    fun stands => never status member (stands.mono (List.nil_subset _))
  constructor <;> simp [stands_marked marks, unwritten]

/-- The thread starts, whoever cancelled the job before. -/
theorem Told.begin (told : Told jobId history status) (marks : move.mark jobId = some .running)
    (stage : status = .pending ∨ status = .cancelled)
    (never : ¬ Stands jobId .completed [] history) :
    Told jobId (history ++ [move]) .running := by
  have unfinished : ¬ Stands jobId .completed [.cancelled] history :=
    fun stands => never (stands.mono (List.nil_subset _))
  have unfailed : ¬ Stands jobId .failed [.cancelled] history := by
    rw [← told.failed]
    rcases stage with rfl | rfl <;> nofun
  constructor <;> simp [stands_marked marks, unfinished, unfailed]

/-- A training that returns completes the job, unless it was cancelled since it started. -/
theorem Told.finish (told : Told jobId history status) (marks : move.mark jobId = some .completed)
    (stage : status = .running ∨ status = .cancelled) :
    Told jobId (history ++ [move]) (if status = .cancelled then status else .completed) := by
  have unstarted : ¬ Stands jobId .pending [.running, .cancelled] history := by
    rw [← told.pending]
    rcases stage with rfl | rfl <;> nofun
  have unfailed : ¬ Stands jobId .failed [.cancelled] history := by
    rw [← told.failed]
    rcases stage with rfl | rfl <;> nofun
  rcases stage with rfl | rfl
  · have begun : Stands jobId .running [.cancelled] history :=
      (told.running.mp rfl).mono (by simp)
    have uncancelled : ¬ Stands jobId .cancelled [.pending, .running, .failed] history := by
      rw [← told.cancelled]
      nofun
    constructor <;> simp [stands_marked marks, unstarted, unfailed, begun, uncancelled]
  · have cancelled := told.cancelled.mp rfl
    have stale : ¬ Stands jobId .running [.cancelled] history :=
      fun begun => cancelled.not_both begun (by decide) (by simp) (by simp)
    constructor <;> simp [stands_marked marks, unstarted, unfailed, cancelled, stale]

/-- A training that raises fails the job, cancelled or not. -/
theorem Told.fail (told : Told jobId history status) (marks : move.mark jobId = some .failed)
    (stage : status = .running ∨ status = .cancelled) : Told jobId (history ++ [move]) .failed := by
  have unstarted : ¬ Stands jobId .pending [.running, .cancelled] history := by
    rw [← told.pending]
    rcases stage with rfl | rfl <;> nofun
  have unfinished : ¬ (Stands jobId .completed [.cancelled] history ∧
      Stands jobId .running [.cancelled] history) := by
    rw [← told.completed]
    rcases stage with rfl | rfl <;> nofun
  constructor <;> simp [stands_marked marks, unstarted]
  simpa using unfinished

end told

/-- The status tells the moves, and before a job is made or its thread starts there are none of the
thread's. -/
structure Story (issued : List String) (jobId : String) (history : List (Move V)) (life : Life V) :
    Prop where
  told : ∀ job ∈ life.job, Told jobId history job.status
  early : ∀ worker ∈ life.worker, worker.phase = .started ∨ worker.phase = .attached →
    ¬ Stands jobId .completed [] history
  unborn : jobId ∉ issued → ∀ status ∈ [JobStatus.running, .completed, .failed],
    ¬ Stands jobId status [] history

/-- A status of the thread is written by the thread. -/
theorem Move.fits_of_mark {move : Move V} {status : JobStatus}
    (marks : move.mark jobId = some status)
    (member : status ∈ [JobStatus.running, .completed, .failed]) :
    ∃ phase, move.fits phase = true := by
  cases move with
  | begin name now last => exact ⟨.attached, rfl⟩
  | finish name state now => exact ⟨.training now false, rfl⟩
  | fail name error now => exact ⟨.training now false, rfl⟩
  | submit | cancel =>
      obtain ⟨-, ⟨rfl⟩⟩ := Option.ite_none_right_eq_some.mp marks
      simp at member
  | addTag | removeTag | attach | stepEnd | detach | log | restart => cases marks

theorem Lives.story {history : List (Move V)} {move : Move V} {life later : Life V}
    {issued issued' : List String} (lives : Lives numbers jobId move life later)
    (story : Story issued jobId history life) (saved : life.Saved)
    (coherent : life.Coherent issued jobId)
    (grows : issued ⊆ issued')
    (born : ∀ recipe batchSize now, move = .submit jobId recipe batchSize now →
      jobId ∉ issued ∧ jobId ∈ issued') :
    Story issued' jobId (history ++ [move]) later := by
  obtain ⟨told, early, unborn⟩ := story
  have earlier (missing : jobId ∉ issued') := unborn fun known => missing (grows known)
  have unmarked (marks : move.mark jobId = none) (status : JobStatus) (others : List JobStatus) :
      Stands jobId status others (history ++ [move]) ↔ Stands jobId status others history :=
    stands_unmarked marks
  cases lives with
  | elsewhere other _ =>
      have marks := Move.mark_of_ne other
      refine ⟨fun job isJob => (told job isJob).unmarked marks, ?_, ?_⟩
      · simpa only [unmarked marks] using early
      · simpa only [unmarked marks] using earlier
  | unknown missing unfit _ _ =>
      refine ⟨fun job isJob => ?_, fun worker works _ => ?_, fun new status member stands => ?_⟩
      · cases missing.symm.trans isJob
      · have known := coherent.staffed (Option.isSome_iff_exists.mpr ⟨worker, works⟩)
        rw [missing] at known
        cases known
      · rcases stands_concat.mp stands with marks | ⟨stands, -⟩
        · obtain ⟨phase, fits⟩ := Move.fits_of_mark marks member
          exact unfit phase fits
        · exact earlier new status member stands
  | submit recipe batchSize now dir =>
      obtain ⟨fresh, known⟩ := born _ _ _ rfl
      have marks : (Move.submit jobId recipe batchSize now).mark jobId = some .pending := if_pos rfl
      refine ⟨?_, fun _ _ _ => ?_, fun missing => absurd known missing⟩
      · rintro job ⟨rfl⟩
        exact Told.submit marks (unborn fresh)
      · rw [stands_marked marks]
        simpa using unborn fresh .completed (by simp)
  | @edit _ job edited worker dir edits =>
      refine ⟨?_, fun worker works phase stands => ?_,
        fun missing => absurd (grows coherent.born) missing⟩
      · rintro _ ⟨rfl⟩
        cases edits with
        | cancel => exact Told.cancel (if_pos rfl)
        | addTag tag => exact (told job rfl).unmarked rfl
        | removeTag tag => exact (told job rfl).unmarked rfl
      · rcases stands_concat.mp stands with marks | ⟨stands, -⟩
        · obtain ⟨phase, fits⟩ := Move.fits_of_mark marks (by simp)
          cases edits <;> cases fits
        · exact early worker works phase stands
  | attach job batchSize dir =>
      refine ⟨?_, fun _ _ _ => ?_, fun missing => absurd (grows coherent.born) missing⟩
      · rintro _ ⟨rfl⟩
        exact (told job rfl).unmarked rfl
      · rw [unmarked rfl]
        exact early _ rfl (.inl rfl)
  | begin job batchSize dir now last =>
      refine ⟨?_, ?_, fun missing => absurd (grows coherent.born) missing⟩
      · rintro _ ⟨rfl⟩
        exact (told job rfl).begin (if_pos rfl) (saved.stage job rfl) (early _ rfl (.inr rfl))
      · rintro worker ⟨rfl⟩ (started | attached)
        · cases started
        · cases attached
  | stepEnd job | detach job =>
      refine ⟨?_, ?_, fun missing => absurd (grows coherent.born) missing⟩
      · rintro _ ⟨rfl⟩
        exact (told job rfl).unmarked rfl
      · rintro worker ⟨rfl⟩ (started | attached)
        · cases started
        · cases attached
  | @finish job ended batchSize last stopping dir state now ends =>
      refine ⟨?_, ?_, fun missing => absurd (grows coherent.born) missing⟩
      · rintro _ ⟨rfl⟩
        rw [ends]
        exact (told job rfl).finish (if_pos rfl) (saved.stage job rfl)
      · rintro worker ⟨rfl⟩ (started | attached)
        · cases started
        · cases attached
  | @fail job ended batchSize last stopping dir error now ends =>
      refine ⟨?_, ?_, fun missing => absurd (grows coherent.born) missing⟩
      · rintro _ ⟨rfl⟩
        rw [ends]
        exact (told job rfl).fail (if_pos rfl) (saved.stage job rfl)
      · rintro worker ⟨rfl⟩ (started | attached)
        · cases started
        · cases attached
  | @log job logged worker dir line appends =>
      refine ⟨?_, ?_, fun missing => absurd (grows coherent.born) missing⟩
      · rintro _ ⟨rfl⟩
        rw [appends]
        exact (told job rfl).unmarked rfl
      · simpa only [unmarked rfl] using early
  | restart listing life =>
      refine ⟨fun listed isListed => ?_, nofun, ?_⟩
      · obtain ⟨dir, isDir, isListed⟩ := Option.bind_eq_some_iff.mp isListed
        obtain ⟨job, isJob, -, d, -, rfl⟩ := saved.listed isDir isListed
        exact (told job isJob).unmarked rfl
      · simpa only [unmarked rfl] using earlier

theorem Lives.stops {history : List (Move V)} {life later : Life V} {issued : List String}
    {state : TrainState V} {gpu : Dict V} {now : V}
    (lives : Lives numbers jobId (.stepEnd jobId state gpu now) life later)
    (story : Story issued jobId history life) (saved : life.Saved) :
    ∃ batchSize stopping, later.worker = some ⟨jobId, batchSize, .training now stopping⟩ ∧
      (stopping = true ↔ Stands jobId .cancelled [.running] history) := by
  cases lives with
  | elsewhere other _ => exact absurd rfl other
  | unknown _ unfit _ _ => exact absurd rfl (unfit (.training now false))
  | edit worker dir edits => cases edits
  | stepEnd job batchSize last stopping dir _ _ _ =>
      refine ⟨batchSize, decide (job.status = .cancelled), rfl, ?_⟩
      have told := story.told job rfl
      rw [decide_eq_true_iff]
      constructor
      · intro cancelled
        exact (told.cancelled.mp cancelled).mono (by simp)
      · intro stands
        rcases saved.stage job rfl with running | cancelled
        · exact ((told.running.mp running).not_both stands (by decide) (by simp) (by simp)).elim
        · exact cancelled

namespace JobManager

theorem story_of_permits {persists : Bool} {history : List (Move V)}
    (permitted : Permits (step numbers) Allowed history (new persists)) (jobId : String) :
    (follow (step numbers) history (new persists)).Sound ∧
      Story (follow (step numbers) history (new persists)).issued jobId history
        ((follow (step numbers) history (new persists)).life jobId) := by
  refine permitted.along
    (I := fun history manager =>
      manager.Sound ∧ Story manager.issued jobId history (manager.life jobId))
    ⟨sound_new persists, nofun, nofun, fun _ _ _ => Since.not_nil⟩ ?_
  rintro history manager move ⟨sound, story⟩ allowed
  refine ⟨sound.step allowed, ?_⟩
  apply (lives_step sound.coherent allowed jobId).story story (sound.saved jobId)
    (sound.coherent jobId) (issued_step move)
  rintro recipe batchSize now rfl
  exact ⟨allowed, List.mem_cons_self⟩

/-- In every run a job's status tells which of the moves about it came last: it is cancelled exactly
when a cancel came that neither the start nor the failure of its thread followed, failed exactly
when it raised with no cancel after it, and completed exactly when training returned with no cancel
since its thread started. -/
theorem status_tells_history {persists : Bool} {history : List (Move V)}
    (permitted : Permits (step numbers) Allowed history (new persists)) {jobId : String}
    {job : JobInfo V}
    (isJob : (follow (step numbers) history (new persists)).jobs.find? jobId = some job) :
    Told jobId history job.status :=
  (story_of_permits permitted jobId).2.told job isJob

/-- A job cancelled while it trained and tagged, whose training stops and returns. -/
def cancelledRun : List (Move Nat) :=
  [.submit "a" "sft" 4 0, .attach "a", .begin "a" 1 1, .cancel "a", .stepEnd "a" (atStep 1) [] 3,
    .finish "a" (atStep 1) 4]

theorem cancelledRun_is_cancelled :
    Stands "a" .cancelled [.pending, .running, .failed] cancelledRun := by
  obtain ⟨job, isJob, cancelled⟩ : ∃ job,
      (follow (step counting) cancelledRun (new true)).jobs.find? "a" = some job ∧
        job.status = .cancelled := ⟨_, rfl, rfl⟩
  have permitted : Permits (step counting) Allowed cancelledRun (new true) := by decide
  exact (status_tells_history permitted isJob).cancelled.mp cancelled

end JobManager

end Xaytune.Studio
