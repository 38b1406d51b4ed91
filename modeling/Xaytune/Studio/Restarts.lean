import Xaytune.Library.Histories
import Xaytune.Studio.Lives

/-!
# What a new manager finds

While a manager runs, a job's directory tells all of it but the state of a training under way. So a
new manager lists the jobs that are over, as they were, and a job that ended stays as it ended.
-/

namespace Xaytune.Studio

open Xaytune.Library

variable {V : Type} {numbers : Numbers V} {jobId : String}

/-- No thread trains the job any more. -/
def Life.Settled (life : Life V) : Prop :=
  ∀ worker ∈ life.worker, worker.phase = .ending ∨ worker.phase = .ended

/-- How far a job can be in each phase of its thread. -/
def Stage (status : JobStatus) : Option (Phase V) → Prop
  | some .started | some .attached => status = .pending ∨ status = .cancelled
  | some (.training ..) => status = .running ∨ status = .cancelled
  | some .ending | some .ended | none => status.isOver = true

/-- The directory tells the job, but for the state of a training under way. -/
structure JobDir.Tells (dir : JobDir V) (job : JobInfo V) (settled : Prop) : Prop where
  metrics : dir.metrics = job.metricsHistory
  pending : dir.metadata = none → job.status = .pending
  metadata : ∀ d ∈ dir.metadata,
    d = { job.toDict with state := d.state } ∧ (settled → d.state = job.state)

/-- What the directory tells of the job, whether it is known or was lost. -/
structure Life.Saved (life : Life V) : Prop where
  stage : ∀ job ∈ life.job, Stage job.status (life.worker.map Worker.phase)
  tells : ∀ job ∈ life.job, ∀ dir ∈ life.dir, dir.Tells job life.Settled
  lost : life.job = none → ∀ dir ∈ life.dir, dir.reload = none

/-- The job as a new manager lists it: its log is read from the file. -/
def JobInfo.listed (job : JobInfo V) (state : Option (TrainState V)) : JobInfo V :=
  { job with state := state, logBuffer := [] }

theorem JobDir.reload_of_tells {dir : JobDir V} {job : JobInfo V} {settled : Prop} {d : JobDict V}
    (tells : dir.Tells job settled) (isMetadata : dir.metadata = some d) :
    dir.reload = if job.status.isOver then some (job.listed d.state) else none := by
  have same := (tells.metadata d isMetadata).1
  have status : d.status = job.status.value := by rw [same]; rfl
  unfold reload
  rw [isMetadata, Option.bind_some]
  cases isStatus : job.status with
  | pending => simp [status, isStatus, JobStatus.value, JobStatus.isOver]
  | running => simp [status, isStatus, JobStatus.value, JobStatus.isOver]
  | completed | failed | cancelled =>
      rw [if_neg (by simp [status, isStatus, JobStatus.value]), JobInfo.fromDict, status,
        JobStatus.ofValue?_value, tells.metrics, same]
      rfl

/-- Only a job that is over is listed, as the directory tells it. -/
theorem Life.Saved.listed {life : Life V} (saved : life.Saved) {listed : JobInfo V} {dir : JobDir V}
    (isDir : life.dir = some dir) (isListed : dir.reload = some listed) :
    ∃ job, life.job = some job ∧ job.status.isOver = true ∧ ∃ d, dir.metadata = some d ∧
      listed = job.listed d.state := by
  cases isJob : life.job with
  | none => cases (saved.lost isJob dir isDir).symm.trans isListed
  | some job =>
      have tells := saved.tells job isJob dir isDir
      cases isMetadata : dir.metadata with
      | none => simp [JobDir.reload, isMetadata] at isListed
      | some d =>
          rw [JobDir.reload_of_tells tells isMetadata] at isListed
          split at isListed
          · next isOver => exact ⟨job, rfl, isOver, d, rfl, (Option.some.inj isListed).symm⟩
          · cases isListed

theorem Life.Saved.isOver {life : Life V} (saved : life.Saved) {job : JobInfo V}
    (isJob : life.job = some job) (settled : life.Settled) : job.status.isOver = true := by
  have stage := saved.stage job isJob
  cases works : life.worker with
  | none => simpa [works, Stage] using stage
  | some worker =>
      rw [works, Option.map_some] at stage
      rcases settled worker works with ending | ended
      · rwa [ending] at stage
      · rwa [ended] at stage

/-- A job that is over is listed. -/
theorem Life.Saved.reload {life : Life V} (saved : life.Saved) {job : JobInfo V} {dir : JobDir V}
    (isJob : life.job = some job) (isDir : life.dir = some dir)
    (isOver : job.status.isOver = true) :
    ∃ d, dir.metadata = some d ∧ dir.reload = some (job.listed d.state) := by
  have tells := saved.tells job isJob dir isDir
  cases isMetadata : dir.metadata with
  | none =>
      rw [tells.pending isMetadata] at isOver
      cases isOver
  | some d => exact ⟨d, rfl, by rw [JobDir.reload_of_tells tells isMetadata, if_pos isOver]⟩

theorem stage_cancelled (phase : Option (Phase V)) : Stage .cancelled phase := by
  cases phase with
  | none => rfl
  | some phase =>
      cases phase with
      | started | attached | training => exact .inr rfl
      | ending | ended => rfl

theorem JobDir.tells_saved {dir : JobDir V} {job : JobInfo V}
    (metrics : dir.metrics = job.metricsHistory) (settled : Prop) :
    (dir.saved job).Tells job settled := by
  refine ⟨metrics, nofun, ?_⟩
  rintro d ⟨rfl⟩
  exact ⟨rfl, fun _ => rfl⟩

theorem JobDir.tells_closed {dir : JobDir V} {job : JobInfo V}
    (metrics : dir.metrics = job.metricsHistory) (settled : Prop) :
    (dir.closed job).Tells job settled := by
  refine ⟨metrics, nofun, ?_⟩
  rintro d ⟨rfl⟩
  exact ⟨rfl, fun _ => rfl⟩

theorem Life.Saved.metrics {life : Life V} (saved : life.Saved) {job : JobInfo V} {dir : JobDir V}
    (isJob : life.job = some job) (isDir : life.dir = some dir) :
    dir.metrics = job.metricsHistory :=
  (saved.tells job isJob dir isDir).metrics

/-- Every move keeps what the directory tells. -/
theorem Lives.saved {move : Move V} {life later : Life V}
    (lives : Lives numbers jobId move life later)
    (saved : life.Saved)
    (fresh : ∀ recipe batchSize now, move = .submit jobId recipe batchSize now →
      ∀ dir ∈ life.dir, dir = .blank jobId) : later.Saved := by
  cases lives with
  | elsewhere _ _ => exact saved
  | unknown _ _ _ _ => exact saved
  | submit recipe batchSize now dir =>
      refine ⟨?_, ?_, nofun⟩
      · rintro job ⟨rfl⟩
        exact .inl rfl
      · rintro job ⟨rfl⟩ dir isDir
        rw [fresh _ _ _ rfl dir isDir]
        exact ⟨rfl, fun _ => rfl, nofun⟩
  | @edit move job edited worker dir edits =>
      refine ⟨?_, ?_, nofun⟩
      · rintro _ ⟨rfl⟩
        have stage := saved.stage job rfl
        cases edits with
        | cancel => exact stage_cancelled _
        | addTag tag => exact stage
        | removeTag tag => exact stage
      · rintro _ ⟨rfl⟩ written isDir
        obtain ⟨before, stored, rfl⟩ := Option.map_eq_some_iff.mp isDir
        refine JobDir.tells_saved ?_ _
        rw [saved.metrics rfl stored]
        cases edits <;> rfl
  | attach job batchSize dir =>
      refine ⟨saved.stage, ?_, nofun⟩
      intro job isJob dir isDir
      obtain ⟨metrics, pending, metadata⟩ := saved.tells job isJob dir isDir
      refine ⟨metrics, pending, fun d isMetadata => ⟨(metadata d isMetadata).1, fun settled => ?_⟩⟩
      simp [Life.Settled] at settled
  | begin job batchSize dir now last =>
      refine ⟨?_, ?_, nofun⟩
      · rintro _ ⟨rfl⟩
        exact .inl rfl
      · rintro _ ⟨rfl⟩ written isDir
        obtain ⟨before, stored, rfl⟩ := Option.map_eq_some_iff.mp isDir
        have metrics := saved.metrics rfl stored
        exact JobDir.tells_saved (by exact metrics) _
  | stepEnd job batchSize last stopping dir state gpu now =>
      have stage := saved.stage job rfl
      refine ⟨?_, ?_, nofun⟩
      · rintro _ ⟨rfl⟩
        exact stage
      · rintro _ ⟨rfl⟩ written isDir
        obtain ⟨before, stored, rfl⟩ := Option.map_eq_some_iff.mp isDir
        obtain ⟨metrics, pending, metadata⟩ := saved.tells job rfl before stored
        refine ⟨by rw [metrics], ?_, fun d isMetadata => ⟨?_, fun settled => ?_⟩⟩
        · intro missing
          have started := pending missing
          rcases stage with running | cancelled
          · cases started.symm.trans running
          · cases started.symm.trans cancelled
        · rw [(metadata d isMetadata).1]
          rfl
        · simp [Life.Settled] at settled
  | @finish job ended batchSize last stopping dir state now ends =>
      refine ⟨?_, ?_, nofun⟩
      · rintro _ ⟨rfl⟩
        rw [ends]
        dsimp only
        split_ifs with cancelled
        · rw [cancelled]
          rfl
        · rfl
      · rintro _ ⟨rfl⟩ written isDir
        obtain ⟨before, stored, rfl⟩ := Option.map_eq_some_iff.mp isDir
        refine JobDir.tells_closed ?_ _
        rw [saved.metrics rfl stored, ends]
  | @fail job ended batchSize last stopping dir error now ends =>
      refine ⟨?_, ?_, nofun⟩
      · rintro _ ⟨rfl⟩
        rw [ends]
        rfl
      · rintro _ ⟨rfl⟩ written isDir
        obtain ⟨before, stored, rfl⟩ := Option.map_eq_some_iff.mp isDir
        refine JobDir.tells_closed ?_ _
        rw [saved.metrics rfl stored, ends]
  | detach job batchSize dir =>
      refine ⟨saved.stage, ?_, nofun⟩
      intro job isJob dir isDir
      obtain ⟨metrics, pending, metadata⟩ := saved.tells job isJob dir isDir
      refine ⟨metrics, pending, fun d isMetadata => ⟨(metadata d isMetadata).1, fun _ => ?_⟩⟩
      exact (metadata d isMetadata).2 (by simp [Life.Settled])
  | @log job logged worker dir line appends =>
      have status : logged.status = job.status := by rw [appends]
      have toDict : logged.toDict = job.toDict := by simp [JobInfo.toDict, appends]
      refine ⟨?_, ?_, nofun⟩
      · rintro _ ⟨rfl⟩
        rw [status]
        exact saved.stage job rfl
      · rintro _ ⟨rfl⟩ dir isDir
        obtain ⟨metrics, pending, metadata⟩ := saved.tells job rfl dir isDir
        refine ⟨by rw [metrics, appends], status ▸ pending, fun d isMetadata => ?_⟩
        obtain ⟨same, settled⟩ := metadata d isMetadata
        rw [toDict]
        exact ⟨same, fun isSettled => by rw [settled isSettled, appends]⟩
  | restart listing life =>
      cases isDir : life.dir with
      | none => constructor <;> simp
      | some dir =>
          refine ⟨?_, ?_, ?_⟩
          · intro listed isListed
            obtain ⟨job, -, isOver, state, -, rfl⟩ := saved.listed isDir isListed
            exact isOver
          · rintro listed isListed _ ⟨rfl⟩
            obtain ⟨job, isJob, isOver, d, isMetadata, rfl⟩ := saved.listed isDir isListed
            have tells := saved.tells job isJob dir isDir
            refine ⟨tells.metrics, fun missing => ?_, fun other isOther => ?_⟩
            · cases isMetadata.symm.trans missing
            · cases isMetadata.symm.trans isOther
              exact ⟨(tells.metadata d isMetadata).1, fun _ => rfl⟩
          · rintro missing _ ⟨rfl⟩
            exact missing

namespace JobManager

/-- Along a run every directory names its job and tells it. -/
structure Sound (manager : JobManager V) : Prop where
  coherent : manager.Coherent
  saved : ∀ jobId, (manager.life jobId).Saved

theorem sound_new (persists : Bool) : (new persists : JobManager V).Sound := by
  refine ⟨coherent_new persists, fun jobId => ⟨nofun, nofun, fun _ dir isDir => ?_⟩⟩
  cases persists with
  | false => cases isDir
  | true =>
      cases isDir
      rfl

theorem Sound.step {manager : JobManager V} (sound : manager.Sound) {move : Move V}
    (allowed : Allowed manager move) : (JobManager.step numbers move manager).Sound := by
  refine ⟨sound.coherent.step allowed, fun jobId => ?_⟩
  apply (lives_step sound.coherent allowed jobId).saved (sound.saved jobId)
  rintro recipe batchSize now rfl
  exact ((sound.coherent jobId).unborn allowed).2

end JobManager

/-! ## A job that ended -/

/-- What a call makes of the job's tags. -/
def retag (jobId : String) (tags : List String) : Move V → List String
  | .addTag other tag => if other = jobId ∧ tag ∉ tags then tags ++ [tag] else tags
  | .removeTag other tag => if other = jobId then tags.erase tag else tags
  | _ => tags

def Move.cancels (jobId : String) : Move V → Bool
  | .cancel other => other = jobId
  | _ => false

theorem Move.cancels_of_ne {move : Move V} (other : move.about ≠ some jobId) :
    move.cancels jobId = false := by
  cases move with
  | cancel name => simpa [cancels, about] using other
  | submit | addTag | removeTag | attach | begin | stepEnd | finish | fail | detach | log
  | restart => rfl

theorem retag_of_ne {move : Move V} (tags : List String) (other : move.about ≠ some jobId) :
    retag jobId tags move = tags := by
  cases move with
  | addTag name tag => simp_all [retag, Move.about]
  | removeTag name tag => simp_all [retag, Move.about]
  | submit | cancel | attach | begin | stepEnd | finish | fail | detach | log | restart => rfl

/-- What is left of a job whose thread had ended, behind later moves. -/
structure Survives (jobId : String) (job : JobInfo V) (logs : Option String) (later : List (Move V))
    (life : Life V) : Prop where
  settled : life.Settled
  job : ∃ kept, life.job = some kept ∧
    kept = { job with
      status := if later.any (Move.cancels jobId) then .cancelled else job.status
      tags := later.foldl (retag jobId) job.tags
      logBuffer := kept.logBuffer } ∧
    ((∃ listing, .restart listing ∈ later) → life.worker = none ∧ kept.logBuffer = [])
  logs : ∃ dir, life.dir = some dir ∧ dir.logs = logs

theorem Survives.start {job : JobInfo V} {life : Life V} (isJob : life.job = some job)
    (settled : life.Settled) {logs : Option String}
    (saved : ∃ dir, life.dir = some dir ∧ dir.logs = logs) :
    Survives jobId job logs [] life := by
  refine ⟨settled, ⟨job, isJob, rfl, ?_⟩, saved⟩
  rintro ⟨listing, member⟩
  cases member

/-- A thread that ended makes only its last moves, and the job changes by what clients ask for. -/
theorem Survives.next {job : JobInfo V} {logs : Option String} {later : List (Move V)}
    {move : Move V} {life after : Life V} (survives : Survives jobId job logs later life)
    (saved : life.Saved)
    (lives : Lives numbers jobId move life after) :
    Survives jobId job logs (later ++ [move]) after := by
  obtain ⟨settled, ⟨kept, isKept, same, restarted⟩, log⟩ := survives
  have running (here : move.about ≠ none) :
      (∃ listing, .restart listing ∈ later ++ [move]) →
        life.worker = none ∧ kept.logBuffer = [] := by
    rintro ⟨listing, member⟩
    rcases List.mem_append.mp member with earlier | last
    · exact restarted ⟨listing, earlier⟩
    · rw [← List.mem_singleton.mp last] at here
      exact absurd rfl here
  have neutral (quiet : move.cancels jobId = false) (keeps : ∀ tags, retag jobId tags move = tags) :
      kept = { job with
        status := if (later ++ [move]).any (Move.cancels jobId) then .cancelled else job.status
        tags := (later ++ [move]).foldl (retag jobId) job.tags
        logBuffer := kept.logBuffer } := by
    rw [List.any_append, List.foldl_append]
    simpa [quiet, keeps] using same
  cases lives with
  | elsewhere other here =>
      exact ⟨settled, ⟨kept, isKept,
        neutral (Move.cancels_of_ne other) fun _ => retag_of_ne _ other, running here⟩, log⟩
  | unknown missing _ _ _ => cases missing.symm.trans isKept
  | submit recipe batchSize now dir => cases isKept
  | @edit move before edited worker dir edits =>
      cases isKept
      have here : move.about ≠ none := by cases edits <;> nofun
      refine ⟨settled, ⟨edited, rfl, ?_, fun earlier => ?_⟩, ?_⟩
      · rw [List.any_append, List.foldl_append]
        cases edits with
        | cancel | removeTag =>
            rw [same]
            simp [Move.cancels, retag]
        | addTag tag =>
            rw [same]
            by_cases known : tag ∈ later.foldl (retag jobId) job.tags <;>
              simp [Move.cancels, retag, known]
      · obtain ⟨gone, empty⟩ := running here earlier
        exact ⟨gone, by cases edits <;> exact empty⟩
      · obtain ⟨stored, isDir, same⟩ := log
        cases isDir
        exact ⟨stored.saved edited, rfl, same⟩
  | attach | begin | stepEnd | finish | fail => simp [Life.Settled] at settled
  | detach before batchSize dir =>
      cases isKept
      refine ⟨by simp [Life.Settled], ⟨kept, rfl, neutral rfl fun _ => rfl, fun earlier => ?_⟩, log⟩
      exact (nomatch (running nofun earlier).1)
  | @log before logged worker dir line appends =>
      cases isKept
      refine ⟨settled, ⟨logged, rfl, ?_, fun earlier => ?_⟩, log⟩
      · rw [appends, neutral rfl fun _ => rfl]
      · exact (nomatch (running nofun earlier).1)
  | restart listing =>
      obtain ⟨stored, isDir, sameLogs⟩ := log
      obtain ⟨d, isMetadata, isListed⟩ := saved.reload isKept isDir (saved.isOver isKept settled)
      have state : d.state = kept.state :=
        ((saved.tells kept isKept stored isDir).metadata d isMetadata).2 settled
      refine ⟨nofun, ⟨kept.listed d.state, by rw [isDir]; exact isListed, ?_, fun _ => ⟨rfl, rfl⟩⟩,
        stored, isDir, sameLogs⟩
      rw [state, JobInfo.listed, neutral rfl fun _ => rfl]

namespace JobManager

/-- What `logs.txt` of the job holds. -/
def savedLogs (manager : JobManager V) (jobId : String) : Option String :=
  (manager.persistDir.bind fun dirs => dirs.find? jobId).bind JobDir.logs

/-- The thread of the job, if it has one, is behind its last locked section. -/
def Settled (manager : JobManager V) (jobId : String) : Prop :=
  ∀ worker ∈ manager.workers.find? jobId, worker.phase = .ending ∨ worker.phase = .ended

theorem getLogs_of_empty {manager : JobManager V} {job : JobInfo V}
    (isJob : manager.jobs.find? jobId = some job) (empty : job.logBuffer = []) :
    manager.getLogs jobId = some ((manager.savedLogs jobId).getD "") := by
  rw [getLogs, isJob, Option.map_some, empty]
  rfl

theorem savedLogs_eq {manager : JobManager V} {dir : JobDir V}
    (isDir : (manager.life jobId).dir = some dir) : manager.savedLogs jobId = dir.logs := by
  obtain ⟨dirs, isDirs, rfl⟩ := Option.map_eq_some_iff.mp isDir
  rw [savedLogs, isDirs, Option.bind_some]
  cases dirs.find? jobId <;> rfl

end JobManager

theorem Lives.persists {move : Move V} {life later : Life V}
    (lives : Lives numbers jobId move life later) :
    later.dir.isSome = life.dir.isSome := by
  cases lives with
  | elsewhere | unknown | submit | attach | detach | log | restart => rfl
  | edit | begin | stepEnd | finish | fail => exact Option.isSome_map

namespace JobManager

/-- A manager over a directory is sound, and never without it. -/
theorem sound_of_permits {history : List (Move V)}
    (permitted : Permits (step numbers) Allowed history (new true)) :
    (follow (step numbers) history (new true)).Sound ∧
      ∀ jobId, ((follow (step numbers) history (new true)).life jobId).dir.isSome = true :=
  permitted.along
    (I := fun _ manager => manager.Sound ∧ ∀ jobId, (manager.life jobId).dir.isSome = true)
    ⟨sound_new true, fun _ => rfl⟩ fun _ _ _ ⟨sound, persists⟩ allowed =>
      ⟨sound.step allowed, fun jobId =>
        (lives_step sound.coherent allowed jobId).persists.trans (persists jobId)⟩

/-- A new manager lists the jobs that were over, and no others: as they were, but for a log that is
read from the file, and for the state of a training that the earlier process had not ended. -/
theorem new_manager_lists_jobs_over {history : List (Move V)} {listing : List String}
    (permitted : Permits (step numbers) Allowed (history ++ [.restart listing]) (new true))
    (jobId : String) :
    (∀ job, (follow (step numbers) history (new true)).jobs.find? jobId = some job →
      job.status.isOver = true → ∃ state,
        (follow (step numbers) (history ++ [.restart listing]) (new true)).jobs.find? jobId =
          some (job.listed state) ∧
        ((follow (step numbers) history (new true)).Settled jobId → state = job.state)) ∧
    ∀ listed, (follow (step numbers) (history ++ [.restart listing]) (new true)).jobs.find? jobId =
      some listed → ∃ job, (follow (step numbers) history (new true)).jobs.find? jobId = some job ∧
        job.status.isOver = true ∧ ∃ state, listed = job.listed state := by
  obtain ⟨permitted, last⟩ := permits_append.mp permitted
  obtain ⟨sound, persists⟩ := sound_of_permits permitted
  obtain ⟨dir, isDir⟩ := Option.isSome_iff_exists.mp (persists jobId)
  have saved := sound.saved jobId
  have after : (follow (step numbers) (history ++ [.restart listing]) (new true)).jobs.find? jobId =
      dir.reload := by
    rw [follow_append]
    have restarted := life_restart sound.coherent.filed last.1 jobId
    rw [isDir] at restarted
    exact congrArg Life.job restarted
  rw [after]
  constructor
  · intro job isJob isOver
    obtain ⟨d, isMetadata, isListed⟩ := saved.reload isJob isDir isOver
    exact ⟨d.state, isListed, ((saved.tells job isJob dir isDir).metadata d isMetadata).2⟩
  · intro listed isListed
    obtain ⟨job, isJob, isOver, d, -, same⟩ := saved.listed isDir isListed
    exact ⟨job, isJob, isOver, d.state, same⟩

/-- Numbers that count, for runs on fixed inputs. -/
def counting : Numbers Nat :=
  ⟨id, fun batchSize last now => if last < now then some (batchSize / (now - last), 1) else none⟩

def atStep (step : Nat) : TrainState Nat := ⟨step, 0, step, 1, -1, [("loss", 7)], false⟩

/-- A job is trained for one step and completes. -/
def completedRun : List (Move Nat) :=
  [.submit "a" "sft" 4 0, .attach "a", .begin "a" 1 1, .stepEnd "a" (atStep 1) [] 3,
    .log "a" "step", .finish "a" (atStep 1) 4]

theorem completedRun_completes :
    ∃ job, (follow (step counting) completedRun (new true)).jobs.find? "a" = some job ∧
      job.status = .completed := ⟨_, rfl, rfl⟩

theorem new_manager_lists_completedRun :
    ∃ job state, (follow (step counting) completedRun (new true)).jobs.find? "a" = some job ∧
      (follow (step counting) (completedRun ++ [.restart ["a"]]) (new true)).jobs.find? "a" =
        some (job.listed state) := by
  obtain ⟨job, isJob, completed⟩ := completedRun_completes
  have permitted : Permits (step counting) Allowed
      (completedRun ++ [.restart ["a"]]) (new true) := by decide
  have isOver : job.status.isOver = true := by
    rw [completed]
    rfl
  obtain ⟨state, isListed, -⟩ := (new_manager_lists_jobs_over permitted "a").1 job isJob isOver
  exact ⟨job, state, isJob, isListed⟩

/-- A job whose thread has ended is kept by every later move and every new manager: all of it stays
but the tags, a status that only a later `cancel` changes, and the log lines of this process. -/
theorem ended_job_survives {history later : List (Move V)}
    (permitted : Permits (step numbers) Allowed (history ++ later) (new true)) {jobId : String}
    {job : JobInfo V}
    (isJob : (follow (step numbers) history (new true)).jobs.find? jobId = some job)
    (settled : (follow (step numbers) history (new true)).Settled jobId) :
    ∃ kept, (follow (step numbers) (history ++ later) (new true)).jobs.find? jobId = some kept ∧
      kept = { job with
        status := if later.any (Move.cancels jobId) then .cancelled else job.status
        tags := later.foldl (retag jobId) job.tags
        logBuffer := kept.logBuffer } ∧
      (follow (step numbers) (history ++ later) (new true)).savedLogs jobId =
        (follow (step numbers) history (new true)).savedLogs jobId ∧
      ((∃ listing, .restart listing ∈ later) →
        (follow (step numbers) (history ++ later) (new true)).getLogs jobId =
          some (((follow (step numbers) history (new true)).savedLogs jobId).getD "")) := by
  obtain ⟨permitted, rest⟩ := permits_append.mp permitted
  obtain ⟨sound, persists⟩ := sound_of_permits permitted
  obtain ⟨dir, isDir⟩ := Option.isSome_iff_exists.mp (persists jobId)
  have ended : ((follow (step numbers) history (new true)).life jobId).Settled := settled
  have starts : Survives jobId job dir.logs [] _ := .start isJob ended ⟨dir, isDir, rfl⟩
  rw [follow_append, savedLogs_eq isDir]
  have survives := rest.along
    (I := fun later manager =>
      manager.Sound ∧ Survives jobId job dir.logs later (manager.life jobId))
    ⟨sound, starts⟩ fun _ _ _ ⟨sound, survives⟩ allowed =>
      ⟨sound.step allowed,
        survives.next (sound.saved jobId) (lives_step sound.coherent allowed jobId)⟩
  obtain ⟨-, -, ⟨kept, isKept, same, restarted⟩, stored, isStored, logs⟩ := survives
  have text := (savedLogs_eq isStored).trans logs
  refine ⟨kept, isKept, same, text, fun new => ?_⟩
  have read := getLogs_of_empty isKept (restarted new).2
  rwa [text] at read

/-- A completed job is tagged, listed by a new manager and cancelled there. -/
theorem completedRun_survives :
    ∃ kept, (follow (step counting)
        (completedRun ++ [.addTag "a" "best", .restart ["a"], .cancel "a"])
          (new true)).jobs.find? "a" = some kept ∧
      kept.status = .cancelled ∧ kept.tags = ["best"] := by
  obtain ⟨job, isJob, -⟩ := completedRun_completes
  have permitted : Permits (step counting) Allowed
      (completedRun ++ [.addTag "a" "best", .restart ["a"], .cancel "a"]) (new true) := by decide
  have settled : (follow (step counting) completedRun (new true)).Settled "a" := by
    rintro worker ⟨rfl⟩
    exact .inl rfl
  obtain ⟨kept, isKept, same, -⟩ := ended_job_survives permitted isJob settled
  refine ⟨kept, isKept, ?_, ?_⟩
  · rw [same]
    rfl
  · rw [same]
    cases isJob
    rfl

end JobManager

end Xaytune.Studio
