import Xaytune.Studio.Jobs

/-!
# The life of one job

No move touches two jobs, a new manager apart. What a move does to one job, to its thread and to
its directory is said once, as a relation; every invariant is then a case analysis on it.
-/

namespace Xaytune.Studio

open Xaytune.Library

variable {V : Type} {numbers : Numbers V}

/-- The job a move is about. -/
def Move.about : Move V → Option String
  | .submit jobId .. | .cancel jobId | .addTag jobId _ | .removeTag jobId _ | .attach jobId
  | .begin jobId .. | .stepEnd jobId .. | .finish jobId .. | .fail jobId .. | .detach jobId
  | .log jobId _ => some jobId
  | .restart _ => none

/-- Whether a thread in this phase makes this move next. -/
def Move.fits : Move V → Phase V → Bool
  | .attach _, .started => true
  | .begin .., .attached => true
  | .stepEnd .., .training .. => true
  | .finish .., .training .. => true
  | .fail .., .training .. => true
  | .detach _, .ending => true
  | .log .., .attached => true
  | .log .., .training .. => true
  | .log .., .ending => true
  | _, _ => false

/-- `uuid4` makes no id twice, a thread makes its own moves in order, and a directory is listed
whole. -/
def Allowed (manager : JobManager V) (move : Move V) : Prop :=
  match move with
  | .submit jobId .. => jobId ∉ manager.issued
  | .cancel _ | .addTag .. | .removeTag .. => True
  | .restart listing => ∀ dirs ∈ manager.persistDir, listing.Perm (dirs.rows.map JobDir.jobId)
  | .attach jobId | .begin jobId .. | .stepEnd jobId .. | .finish jobId .. | .fail jobId ..
  | .detach jobId | .log jobId _ =>
      (manager.workers.find? jobId).any (fun worker => move.fits worker.phase) = true

instance (manager : JobManager V) : (move : Move V) → Decidable (Allowed manager move)
  | .submit jobId .. => inferInstanceAs (Decidable (jobId ∉ manager.issued))
  | .cancel _ | .addTag .. | .removeTag .. => .isTrue trivial
  | .restart listing =>
      inferInstanceAs
        (Decidable (∀ dirs ∈ manager.persistDir, listing.Perm (dirs.rows.map JobDir.jobId)))
  | .attach _ | .begin .. | .stepEnd .. | .finish .. | .fail .. | .detach _ | .log .. =>
      inferInstanceAs (Decidable (_ = true))

/-- A job, its thread and its directory, each where there is one. -/
structure Life (V : Type) where
  job : Option (JobInfo V)
  worker : Option (Worker V)
  dir : Option (JobDir V)

/-- A directory nothing was written to; one that does not exist reads the same. -/
def JobDir.blank (jobId : String) : JobDir V := ⟨jobId, none, [], none⟩

namespace JobManager

/-- What the manager, its threads and its directory hold of one job. -/
def life (manager : JobManager V) (jobId : String) : Life V :=
  ⟨manager.jobs.find? jobId, manager.workers.find? jobId,
    manager.persistDir.map fun dirs => (dirs.find? jobId).getD (.blank jobId)⟩

variable {manager : JobManager V} {jobId : String} {job : JobInfo V} {worker : Worker V}

theorem life_putJob_self : (manager.putJob job).life job.jobId =
    { manager.life job.jobId with job := some job } := by
  simp [putJob, life, Table.find?_put_self]

theorem life_putJob_of_ne (differs : jobId ≠ job.jobId) :
    (manager.putJob job).life jobId = manager.life jobId := by
  simp [putJob, life, Table.find?_put_of_ne differs]

theorem life_goTo_self (phase : Phase V) : (manager.goTo worker phase).life worker.jobId =
    { manager.life worker.jobId with worker := some { worker with phase := phase } } := by
  have put := @Table.find?_put_self _ _ _ _ manager.workers { worker with phase := phase }
  simp only [goTo, life] at put ⊢
  rw [put]

theorem life_goTo_of_ne (differs : jobId ≠ worker.jobId) (phase : Phase V) :
    (manager.goTo worker phase).life jobId = manager.life jobId := by
  have put :=
    @Table.find?_put_of_ne _ _ _ _ manager.workers { worker with phase := phase } _ differs
  simp only [goTo, life] at put ⊢
  rw [put]

theorem life_writeDir_self (edit : JobDir V → JobDir V) :
    (manager.writeDir jobId edit).life jobId = { manager.life jobId with
      dir := (manager.life jobId).dir.map fun dir => { (edit dir) with jobId := jobId } } := by
  simp only [writeDir, life, Option.map_map]
  congr 2
  funext dirs
  have put := @Table.find?_put_self _ _ _ _ dirs
    { (edit ((dirs.find? jobId).getD (.blank jobId))) with jobId := jobId }
  simp only [Function.comp, JobDir.blank] at put ⊢
  rw [put, Option.getD_some]

theorem life_writeDir_of_ne {other : String} (differs : jobId ≠ other)
    (edit : JobDir V → JobDir V) :
    (manager.writeDir other edit).life jobId = manager.life jobId := by
  simp only [writeDir, life, Option.map_map]
  congr 2
  funext dirs
  rw [Function.comp, Table.find?_put_of_ne differs]

end JobManager

/-! ## Loading -/

/-- The job a new manager lists for a directory, if it lists one. -/
def JobDir.reload (dir : JobDir V) : Option (JobInfo V) :=
  dir.metadata.bind fun d =>
    if d.status ∈ ["running", "pending"] then none else JobInfo.fromDict d dir.metrics

/-- The metadata is that of the directory's job. -/
def JobDir.Filed (dir : JobDir V) : Prop :=
  ∀ d ∈ dir.metadata, d.jobId = dir.jobId ∧ ∃ status : JobStatus, d.status = status.value

theorem JobDir.jobId_of_reload {dir : JobDir V} {job : JobInfo V} (filed : dir.Filed)
    (listed : dir.reload = some job) : job.jobId = dir.jobId := by
  obtain ⟨d, isMetadata, listed⟩ := Option.bind_eq_some_iff.mp listed
  split at listed
  · cases listed
  · obtain ⟨status, -, rfl⟩ := Option.map_eq_some_iff.mp listed
    exact (filed d isMetadata).1

namespace JobManager

/-- A directory whose job is not listed yet. -/
theorem loadDir_eq {jobs : Table (@JobInfo.jobId V)} {dir : JobDir V} (filed : dir.Filed)
    (fresh : jobs.find? dir.jobId = none) :
    loadDir jobs dir = some (dir.reload.elim jobs jobs.put) := by
  unfold loadDir JobDir.reload
  cases isMetadata : dir.metadata with
  | none => rfl
  | some d =>
      obtain ⟨same, status, isStatus⟩ := filed d isMetadata
      simp only [Option.bind_some]
      split_ifs with left known
      · rfl
      · simp [same, fresh] at known
      · simp [JobInfo.fromDict, isStatus]

theorem loadPersistedJobs_spec (dirs : List (JobDir V)) (filed : ∀ dir ∈ dirs, dir.Filed)
    (nodup : (dirs.map JobDir.jobId).Nodup) (jobs : Table (@JobInfo.jobId V))
    (fresh : ∀ dir ∈ dirs, jobs.find? dir.jobId = none) :
    ∃ jobs', loadPersistedJobs dirs jobs = some jobs' ∧
      (∀ dir ∈ dirs, jobs'.find? dir.jobId = dir.reload) ∧
      ∀ jobId ∉ dirs.map JobDir.jobId, jobs'.find? jobId = jobs.find? jobId := by
  induction dirs generalizing jobs with
  | nil => exact ⟨jobs, rfl, by simp, fun _ _ => rfl⟩
  | cons dir rest ih =>
      rw [List.forall_mem_cons] at filed fresh
      rw [List.map_cons, List.nodup_cons] at nodup
      have loads := loadDir_eq filed.1 fresh.1
      have others (jobId : String) (differs : jobId ≠ dir.jobId) :
          (dir.reload.elim jobs jobs.put).find? jobId = jobs.find? jobId := by
        cases listed : dir.reload with
        | none => rfl
        | some job =>
            exact Table.find?_put_of_ne (by rwa [JobDir.jobId_of_reload filed.1 listed])
      have itself : (dir.reload.elim jobs jobs.put).find? dir.jobId = dir.reload := by
        cases listed : dir.reload with
        | none => exact fresh.1
        | some job =>
            rw [← JobDir.jobId_of_reload filed.1 listed]
            exact Table.find?_put_self
      obtain ⟨jobs', loaded, listed, kept⟩ := ih filed.2 nodup.2 _ fun other member => by
        rw [others _ fun same => nodup.1 (List.mem_map.mpr ⟨other, member, same⟩)]
        exact fresh.2 other member
      refine ⟨jobs', by rw [loadPersistedJobs, loads, Option.bind_some, loaded], ?_, ?_⟩
      · rw [List.forall_mem_cons]
        exact ⟨(kept _ nodup.1).trans itself, listed⟩
      · intro jobId missing
        rw [List.map_cons, List.mem_cons, not_or] at missing
        rw [kept jobId missing.2, others jobId missing.1]

theorem map_filterMap_find? {dirs : Table (@JobDir.jobId V)} (names : List String)
    (known : ∀ name ∈ names, ∃ dir ∈ dirs, dir.jobId = name) :
    (names.filterMap dirs.find?).map JobDir.jobId = names := by
  induction names with
  | nil => rfl
  | cons name rest ih =>
      rw [List.forall_mem_cons] at known
      obtain ⟨dir, member, rfl⟩ := known.1
      rw [List.filterMap_cons_some (Table.find?_of_mem member), List.map_cons, ih known.2]

/-- A new manager lists each job from its directory alone. -/
theorem life_restart {manager : JobManager V} {listing : List String}
    (filed : ∀ dirs ∈ manager.persistDir, ∀ dir ∈ dirs, dir.Filed)
    (whole : Allowed manager (.restart listing)) (jobId : String) :
    (manager.restart listing).life jobId =
      ⟨(manager.life jobId).dir.bind JobDir.reload, none, (manager.life jobId).dir⟩ := by
  unfold life restart
  cases isDir : manager.persistDir with
  | none => rfl
  | some dirs =>
      have listed := whole dirs isDir
      have names : (listing.filterMap dirs.find?).map JobDir.jobId = listing :=
        map_filterMap_find? listing fun name member => List.mem_map.mp (listed.mem_iff.mp member)
      have stored : ∀ dir ∈ listing.filterMap dirs.find?, dir ∈ dirs := by
        intro dir member
        obtain ⟨name, -, found⟩ := List.mem_filterMap.mp member
        exact Table.mem_of_find? found
      obtain ⟨jobs, loads, each, others⟩ := loadPersistedJobs_spec (listing.filterMap dirs.find?)
        (fun dir member => filed dirs isDir dir (stored dir member))
        (by rw [names]; exact listed.nodup_iff.mpr dirs.nodup) (.empty _) (fun _ _ => rfl)
      have job : jobs.find? jobId = ((dirs.find? jobId).getD (.blank jobId)).reload := by
        cases found : dirs.find? jobId with
        | none =>
            rw [others jobId, Option.getD_none]
            · rfl
            · rw [names, listed.mem_iff, List.mem_map]
              rintro ⟨dir, member, same⟩
              exact Table.find?_eq_none_iff.mp found dir member same
        | some dir =>
            obtain ⟨member, rfl⟩ := Table.find?_eq_some_iff.mp found
            refine each dir (List.mem_filterMap.mpr ⟨dir.jobId, ?_, found⟩)
            exact listed.mem_iff.mpr (List.mem_map_of_mem member)
      simp only [Option.map_some, Option.getD_some, loads, job, Option.bind_some]
      rfl

end JobManager

/-! ## What a move does to one job -/

/-- `metadata.json` is written from the job. -/
def JobDir.saved (job : JobInfo V) (dir : JobDir V) : JobDir V :=
  ⟨job.jobId, some job.toDict, dir.metrics, dir.logs⟩

/-- `metadata.json` and `logs.txt` are written from the job. -/
def JobDir.closed (job : JobInfo V) (dir : JobDir V) : JobDir V :=
  ⟨job.jobId, some job.toDict, dir.metrics, some ("\n".intercalate (job.logBuffer.rtake 2000))⟩

/-- Calls about a job the manager knows, with what they make of it. -/
inductive Edits (jobId : String) (job : JobInfo V) : Move V → JobInfo V → Prop
  | cancel : Edits jobId job (.cancel jobId) { job with status := .cancelled }
  | addTag (tag : String) : Edits jobId job (.addTag jobId tag)
      { job with tags := if tag ∈ job.tags then job.tags else job.tags ++ [tag] }
  | removeTag (tag : String) : Edits jobId job (.removeTag jobId tag)
      { job with tags := job.tags.erase tag }

variable (numbers) in
/-- What a move does to one job: nothing when it is about another one or the job is unknown. -/
inductive Lives (jobId : String) : Move V → Life V → Life V → Prop
  | elsewhere {move : Move V} {life : Life V} (other : move.about ≠ some jobId)
      (running : move.about ≠ none) : Lives jobId move life life
  | unknown {move : Move V} {life : Life V} (missing : life.job = none)
      (kept : ∀ phase, ¬ move.fits phase)
      (late : ∀ recipe batchSize now, move ≠ .submit jobId recipe batchSize now)
      (running : move.about ≠ none) : Lives jobId move life life
  | submit (recipe : String) (batchSize : Nat) (now : V) (dir : Option (JobDir V)) :
      Lives jobId (.submit jobId recipe batchSize now) ⟨none, none, dir⟩
        ⟨some ⟨jobId, .pending, recipe, now, none, none, none, none, [], [], []⟩,
          some ⟨jobId, batchSize, .started⟩, dir⟩
  | edit {move : Move V} {job edited : JobInfo V} (worker : Option (Worker V))
      (dir : Option (JobDir V))
      (edits : Edits jobId job move edited) :
      Lives jobId move ⟨some job, worker, dir⟩ ⟨some edited, worker, dir.map (.saved edited)⟩
  | attach (job : JobInfo V) (batchSize : Nat) (dir : Option (JobDir V)) :
      Lives jobId (.attach jobId) ⟨some job, some ⟨jobId, batchSize, .started⟩, dir⟩
        ⟨some job, some ⟨jobId, batchSize, .attached⟩, dir⟩
  | begin (job : JobInfo V) (batchSize : Nat) (dir : Option (JobDir V)) (now last : V) :
      Lives jobId (.begin jobId now last) ⟨some job, some ⟨jobId, batchSize, .attached⟩, dir⟩
        ⟨some { job with status := .running, startedAt := some now },
          some ⟨jobId, batchSize, .training last false⟩,
          dir.map (.saved { job with status := .running, startedAt := some now })⟩
  | stepEnd (job : JobInfo V) (batchSize : Nat) (last : V) (stopping : Bool)
      (dir : Option (JobDir V)) (state : TrainState V) (gpu : Dict V) (now : V) :
      Lives jobId (.stepEnd jobId state gpu now)
        ⟨some job, some ⟨jobId, batchSize, .training last stopping⟩, dir⟩
        ⟨some { job with
            state := some state
            metricsHistory :=
              job.metricsHistory ++ [stepEntry numbers batchSize last state gpu now] },
          some ⟨jobId, batchSize, .training now (job.status = .cancelled)⟩,
          dir.map fun dir => { dir with
            jobId := jobId
            metrics := dir.metrics ++ [stepEntry numbers batchSize last state gpu now] }⟩
  | finish {job ended : JobInfo V} (batchSize : Nat) (last : V) (stopping : Bool)
      (dir : Option (JobDir V)) (state : TrainState V) (now : V)
      (ends : ended = { job with
        state := some state
        status := if job.status = .cancelled then job.status else .completed
        completedAt := some now }) :
      Lives jobId (.finish jobId state now)
        ⟨some job, some ⟨jobId, batchSize, .training last stopping⟩, dir⟩
        ⟨some ended, some ⟨jobId, batchSize, .ending⟩, dir.map (.closed ended)⟩
  | fail {job ended : JobInfo V} (batchSize : Nat) (last : V) (stopping : Bool)
      (dir : Option (JobDir V)) (error : String) (now : V)
      (ends : ended = { job with
        status := .failed, error := some error, completedAt := some now }) :
      Lives jobId (.fail jobId error now)
        ⟨some job, some ⟨jobId, batchSize, .training last stopping⟩, dir⟩
        ⟨some ended, some ⟨jobId, batchSize, .ending⟩, dir.map (.closed ended)⟩
  | detach (job : JobInfo V) (batchSize : Nat) (dir : Option (JobDir V)) :
      Lives jobId (.detach jobId) ⟨some job, some ⟨jobId, batchSize, .ending⟩, dir⟩
        ⟨some job, some ⟨jobId, batchSize, .ended⟩, dir⟩
  | log {job logged : JobInfo V} (worker : Worker V) (dir : Option (JobDir V)) (line : String)
      (appends : logged = { job with logBuffer := appendLine job.logBuffer line }) :
      Lives jobId (.log jobId line) ⟨some job, some worker, dir⟩ ⟨some logged, some worker, dir⟩
  | restart (listing : List String) (life : Life V) :
      Lives jobId (.restart listing) life ⟨life.dir.bind JobDir.reload, none, life.dir⟩

/-- A thread's job is known, a directory names its job, and nothing is kept of an id not made. -/
structure Life.Coherent (issued : List String) (jobId : String) (life : Life V) : Prop where
  staffed : life.worker.isSome → life.job.isSome
  filed : ∀ dir ∈ life.dir, dir.jobId = jobId ∧ dir.Filed
  unborn : jobId ∉ issued → life.job = none ∧ ∀ dir ∈ life.dir, dir = .blank jobId

def JobManager.Coherent (manager : JobManager V) : Prop :=
  ∀ jobId, (manager.life jobId).Coherent manager.issued jobId

namespace JobManager

variable {manager : JobManager V} {jobId other : String} {job : JobInfo V} {worker : Worker V}

theorem life_saveMetadata (own : job.jobId = jobId) : (manager.saveMetadata job).life jobId =
    { manager.life jobId with dir := (manager.life jobId).dir.map (.saved job) } := by
  subst own
  exact life_writeDir_self _

theorem life_closed (own : job.jobId = jobId) :
    ((manager.saveMetadata job).saveLogs job).life jobId =
      { manager.life jobId with dir := (manager.life jobId).dir.map (.closed job) } := by
  subst own
  rw [saveLogs, life_writeDir_self, life_saveMetadata rfl]
  simp only [Option.map_map]
  rfl

theorem life_putJob (own : job.jobId = jobId) :
    (manager.putJob job).life jobId = { manager.life jobId with job := some job } := by
  subst own
  exact life_putJob_self

theorem life_goTo (own : worker.jobId = jobId) (phase : Phase V) :
    (manager.goTo worker phase).life jobId =
      { manager.life jobId with worker := some { worker with phase := phase } } := by
  subst own
  exact life_goTo_self phase

theorem life_change_of_ne {edit : JobInfo V → JobInfo V}
    (keeps : ∀ job, (edit job).jobId = job.jobId) (differs : jobId ≠ other) :
    (manager.change other edit).life jobId = manager.life jobId := by
  unfold change
  cases found : manager.jobs.find? other with
  | none => rfl
  | some job =>
      have own : (edit job).jobId = other := (keeps job).trans (Table.key_of_find? found)
      dsimp only
      rw [saveMetadata, own, life_writeDir_of_ne differs, life_putJob_of_ne (own ▸ differs)]

theorem life_change_self {edit : JobInfo V → JobInfo V}
    (keeps : ∀ job, (edit job).jobId = job.jobId) (found : manager.jobs.find? jobId = some job) :
    (manager.change jobId edit).life jobId = ⟨some (edit job), (manager.life jobId).worker,
      (manager.life jobId).dir.map (.saved (edit job))⟩ := by
  have own : (edit job).jobId = jobId := (keeps job).trans (Table.key_of_find? found)
  rw [change, found]
  dsimp only
  rw [life_saveMetadata own, life_putJob own]

theorem change_unknown {edit : JobInfo V → JobInfo V} (missing : manager.jobs.find? jobId = none) :
    manager.change jobId edit = manager := by
  rw [change, missing]

theorem life_work_of_ne {locked : JobInfo V → Worker V → JobManager V}
    (frame : ∀ job worker, job.jobId = other → worker.jobId = other →
      (locked job worker).life jobId = manager.life jobId) :
    (manager.work other locked).life jobId = manager.life jobId := by
  unfold work
  cases found : manager.jobs.find? other with
  | none => rfl
  | some job =>
      cases works : manager.workers.find? other with
      | none => rfl
      | some worker => exact frame job worker (Table.key_of_find? found) (Table.key_of_find? works)

theorem work_eq {locked : JobInfo V → Worker V → JobManager V}
    (found : manager.jobs.find? jobId = some job)
    (works : manager.workers.find? jobId = some worker) :
    manager.work jobId locked = locked job worker := by
  rw [work, found, works]

/-- A move about one job leaves the others as they are. -/
theorem life_step_of_ne {move : Move V} (about : move.about = some other)
    (differs : jobId ≠ other) :
    (step numbers move manager).life jobId = manager.life jobId := by
  have saves {manager : JobManager V} {job : JobInfo V} (own : job.jobId = other) :
      ((manager.putJob job).saveMetadata job).life jobId = manager.life jobId := by
    rw [saveMetadata, own, life_writeDir_of_ne differs, life_putJob_of_ne (own ▸ differs)]
  have closes {manager : JobManager V} {job : JobInfo V} (own : job.jobId = other) :
      (((manager.putJob job).saveMetadata job).saveLogs job).life jobId = manager.life jobId := by
    rw [saveLogs, own, life_writeDir_of_ne differs, saves own]
  have goes {manager : JobManager V} {worker : Worker V} (own : worker.jobId = other)
      (phase : Phase V) : (manager.goTo worker phase).life jobId = manager.life jobId :=
    life_goTo_of_ne (own ▸ differs) phase
  cases move with
  | submit name recipe batchSize now =>
      cases about
      simp [step, submit, life, putJob, Table.find?_put_of_ne, differs]
  | cancel | addTag | removeTag =>
      cases about
      exact life_change_of_ne (fun _ => rfl) differs
  | attach | detach =>
      cases about
      exact life_work_of_ne fun _ _ _ own => goes own _
  | begin name now last =>
      cases about
      exact life_work_of_ne fun _ _ own works => (goes works _).trans (saves own)
  | stepEnd name state gpu now =>
      cases about
      refine life_work_of_ne fun job worker own works => ?_
      split
      · rw [trackState, goes works, appendMetrics, life_writeDir_of_ne (own ▸ differs),
          life_putJob_of_ne (own ▸ differs)]
      · rfl
  | finish | fail =>
      cases about
      exact life_work_of_ne fun _ _ own works => (goes works _).trans (closes own)
  | log name line =>
      cases about
      exact life_work_of_ne fun _ _ own _ => life_putJob_of_ne (own ▸ differs)
  | restart listing => cases about

/-- A thread's move finds the job and the thread, in a phase the move fits. -/
theorem exists_of_fits (coherent : manager.Coherent) {move : Move V}
    (allowed : (manager.workers.find? jobId).any (fun worker => move.fits worker.phase) = true) :
    ∃ job batchSize phase, manager.jobs.find? jobId = some job ∧ move.fits phase = true ∧
      manager.workers.find? jobId = some ⟨jobId, batchSize, phase⟩ := by
  cases works : manager.workers.find? jobId with
  | none => simp [works] at allowed
  | some worker =>
      rw [works, Option.any_some] at allowed
      have known := (coherent jobId).staffed (by simp [life, works])
      obtain ⟨job, found⟩ := Option.isSome_iff_exists.mp known
      obtain rfl := Table.key_of_find? works
      exact ⟨job, worker.batchSize, worker.phase, found, allowed, rfl⟩

theorem life_eq {phase : Phase V} {batchSize : Nat} (found : manager.jobs.find? jobId = some job)
    (works : manager.workers.find? jobId = some ⟨jobId, batchSize, phase⟩) :
    manager.life jobId = ⟨some job, some ⟨jobId, batchSize, phase⟩, (manager.life jobId).dir⟩ := by
  rw [← found, ← works]
  rfl

/-- A call about a job does what it is to do, or the job is unknown. -/
theorem lives_change {move : Move V} {edit : JobInfo V → JobInfo V}
    (about : move.about = some jobId) (call : ∀ phase, ¬ move.fits phase = true)
    (late : ∀ recipe batchSize now, move ≠ .submit jobId recipe batchSize now)
    (keeps : ∀ job, (edit job).jobId = job.jobId) (edits : ∀ job, Edits jobId job move (edit job)) :
    Lives numbers jobId move (manager.life jobId) ((manager.change jobId edit).life jobId) := by
  cases found : manager.jobs.find? jobId with
  | none =>
      rw [change_unknown found]
      exact .unknown found call late (by simp [about])
  | some job =>
      rw [life_change_self keeps found]
      have before : manager.life jobId =
          ⟨some job, (manager.life jobId).worker, (manager.life jobId).dir⟩ := by
        rw [← found]
        rfl
      rw [before]
      exact .edit _ _ (edits job)

theorem lives_own (coherent : manager.Coherent) {move : Move V} (about : move.about = some jobId)
    (allowed : Allowed manager move) :
    Lives numbers jobId move (manager.life jobId) ((step numbers move manager).life jobId) := by
  cases move with
  | submit name recipe batchSize now =>
      cases about
      obtain ⟨missing, -⟩ := (coherent jobId).unborn allowed
      have idle : (manager.life jobId).worker = none := by
        by_contra works
        have := (coherent jobId).staffed (Option.isSome_iff_ne_none.mpr works)
        simp [missing] at this
      have before : manager.life jobId = ⟨none, none, (manager.life jobId).dir⟩ := by
        rw [← missing, ← idle]
      rw [before]
      have job := @Table.find?_put_self _ _ _ _ manager.jobs
        ⟨jobId, .pending, recipe, now, none, none, none, none, [], [], []⟩
      have worker := @Table.find?_put_self _ _ _ _ manager.workers ⟨jobId, batchSize, .started⟩
      have after : (step numbers (.submit jobId recipe batchSize now) manager).life jobId =
          ⟨some ⟨jobId, .pending, recipe, now, none, none, none, none, [], [], []⟩,
            some ⟨jobId, batchSize, .started⟩, (manager.life jobId).dir⟩ := by
        rw [← job, ← worker]
        rfl
      rw [after]
      exact .submit recipe batchSize now _
  | cancel name =>
      cases about
      exact lives_change rfl (by simp [Move.fits]) (by simp) (fun _ => rfl) fun _ => .cancel
  | addTag name tag =>
      cases about
      exact lives_change rfl (by simp [Move.fits]) (by simp) (fun _ => rfl) fun _ => .addTag tag
  | removeTag name tag =>
      cases about
      exact lives_change rfl (by simp [Move.fits]) (by simp) (fun _ => rfl) fun _ => .removeTag tag
  | attach name =>
      cases about
      obtain ⟨job, batchSize, phase, found, fits, works⟩ := exists_of_fits coherent allowed
      cases phase with
      | started =>
          rw [step, work_eq found works, life_goTo rfl, life_eq found works]
          exact .attach job batchSize _
      | attached | training | ending | ended => simp [Move.fits] at fits
  | begin name now last =>
      cases about
      obtain ⟨job, batchSize, phase, found, fits, works⟩ := exists_of_fits coherent allowed
      have own := Table.key_of_find? found
      cases phase with
      | attached =>
          rw [step, work_eq found works, JobManager.begin]
          generalize updated :
            ({ job with status := .running, startedAt := some now } : JobInfo V) = begun
          have own' : begun.jobId = jobId := updated ▸ own
          rw [life_goTo rfl, life_saveMetadata own', life_putJob own', life_eq found works,
            ← updated]
          exact .begin job batchSize _ now last
      | started | training | ending | ended => simp [Move.fits] at fits
  | stepEnd name state gpu now =>
      cases about
      obtain ⟨job, batchSize, phase, found, fits, works⟩ := exists_of_fits coherent allowed
      have own := Table.key_of_find? found
      cases phase with
      | training last stopping =>
          rw [step, work_eq found works]
          dsimp only
          rw [trackState]
          generalize updated : ({ job with
            state := some state
            metricsHistory :=
              job.metricsHistory ++ [stepEntry numbers batchSize last state gpu now] } :
                JobInfo V) = tracked
          have own' : tracked.jobId = jobId := updated ▸ own
          have same : stops tracked = decide (job.status = .cancelled) := updated ▸ rfl
          rw [life_goTo rfl, appendMetrics, own', life_writeDir_self, life_putJob own',
            life_eq found works, same, ← updated]
          exact .stepEnd job batchSize last stopping _ state gpu now
      | started | attached | ending | ended => simp [Move.fits] at fits
  | finish name state now =>
      cases about
      obtain ⟨job, batchSize, phase, found, fits, works⟩ := exists_of_fits coherent allowed
      have own := Table.key_of_find? found
      cases phase with
      | training last stopping =>
          rw [step, work_eq found works, finish]
          generalize updated : ({ job with
            state := some state
            status := if job.status = .cancelled then job.status else .completed
            completedAt := some now } : JobInfo V) = finished
          have own' : finished.jobId = jobId := updated ▸ own
          rw [life_goTo rfl, life_closed own', life_putJob own', life_eq found works]
          exact .finish batchSize last stopping _ state now updated.symm
      | started | attached | ending | ended => simp [Move.fits] at fits
  | fail name error now =>
      cases about
      obtain ⟨job, batchSize, phase, found, fits, works⟩ := exists_of_fits coherent allowed
      have own := Table.key_of_find? found
      cases phase with
      | training last stopping =>
          rw [step, work_eq found works, fail]
          generalize updated : ({ job with
            status := .failed, error := some error, completedAt := some now } : JobInfo V) = failed
          have own' : failed.jobId = jobId := updated ▸ own
          rw [life_goTo rfl, life_closed own', life_putJob own', life_eq found works]
          exact .fail batchSize last stopping _ error now updated.symm
      | started | attached | ending | ended => simp [Move.fits] at fits
  | detach name =>
      cases about
      obtain ⟨job, batchSize, phase, found, fits, works⟩ := exists_of_fits coherent allowed
      cases phase with
      | ending =>
          rw [step, work_eq found works, life_goTo rfl, life_eq found works]
          exact .detach job batchSize _
      | started | attached | training | ended => simp [Move.fits] at fits
  | log name line =>
      cases about
      obtain ⟨job, batchSize, phase, found, fits, works⟩ := exists_of_fits coherent allowed
      have own := Table.key_of_find? found
      rw [step, work_eq found works]
      generalize updated :
        ({ job with logBuffer := appendLine job.logBuffer line } : JobInfo V) = logged
      have own' : logged.jobId = jobId := updated ▸ own
      rw [life_putJob own', life_eq found works]
      exact .log ⟨jobId, batchSize, phase⟩ _ line updated.symm
  | restart listing => cases about

theorem Coherent.filed (coherent : manager.Coherent) :
    ∀ dirs ∈ manager.persistDir, ∀ dir ∈ dirs, dir.Filed := by
  intro dirs isDir dir member
  refine ((coherent dir.jobId).filed dir ?_).2
  simp [life, Option.mem_def.mp isDir, Table.find?_of_mem member]

/-- Every allowed move is one step in the life of every job. -/
theorem lives_step (coherent : manager.Coherent) {move : Move V} (allowed : Allowed manager move)
    (jobId : String) :
    Lives numbers jobId move (manager.life jobId) ((step numbers move manager).life jobId) := by
  cases about : move.about with
  | none =>
      cases move with
      | restart listing =>
          rw [step, life_restart coherent.filed allowed]
          exact .restart listing _
      | submit | cancel | addTag | removeTag | attach | begin | stepEnd | finish | fail | detach
      | log => cases about
  | some other =>
      by_cases same : other = jobId
      · subst same
        exact lives_own coherent about allowed
      · rw [life_step_of_ne about (Ne.symm same)]
        exact .elsewhere (by simp [about, same]) (by simp [about])

end JobManager

/-! ## Coherence -/

section coherence

variable {jobId : String} {move : Move V} {life later : Life V} {issued issued' : List String}

theorem JobDir.filed_saved (job : JobInfo V) (dir : JobDir V) : (dir.saved job).Filed := by
  rintro d ⟨rfl⟩
  exact ⟨rfl, job.status, rfl⟩

theorem JobDir.filed_closed (job : JobInfo V) (dir : JobDir V) : (dir.closed job).Filed := by
  rintro d ⟨rfl⟩
  exact ⟨rfl, job.status, rfl⟩

theorem Life.Coherent.born {job : JobInfo V} {worker : Option (Worker V)} {dir : Option (JobDir V)}
    (coherent : Life.Coherent issued jobId ⟨some job, worker, dir⟩) : jobId ∈ issued := by
  by_contra missing
  cases (coherent.unborn missing).1

theorem Lives.coherent (lives : Lives numbers jobId move life later)
    (coherent : life.Coherent issued jobId) (grows : issued ⊆ issued')
    (named : ∀ job ∈ later.job, job.jobId = jobId)
    (born : ∀ recipe batchSize now, move = .submit jobId recipe batchSize now → jobId ∈ issued') :
    later.Coherent issued' jobId := by
  have unborn (missing : jobId ∉ issued') := coherent.unborn fun member => missing (grows member)
  cases lives with
  | elsewhere _ _ => exact ⟨coherent.staffed, coherent.filed, unborn⟩
  | unknown _ _ _ _ => exact ⟨coherent.staffed, coherent.filed, unborn⟩
  | submit recipe batchSize now dir =>
      exact ⟨fun _ => rfl, coherent.filed, fun missing => absurd (born _ _ _ rfl) missing⟩
  | edit worker dir edits =>
      refine ⟨fun _ => rfl, ?_, fun missing => absurd (grows coherent.born) missing⟩
      intro dir' isDir
      obtain ⟨dir, -, rfl⟩ := Option.map_eq_some_iff.mp isDir
      exact ⟨named _ rfl, JobDir.filed_saved _ dir⟩
  | attach | detach | log =>
      exact ⟨fun _ => rfl, coherent.filed, fun missing => absurd (grows coherent.born) missing⟩
  | begin job batchSize dir now last =>
      refine ⟨fun _ => rfl, ?_, fun missing => absurd (grows coherent.born) missing⟩
      intro dir' isDir
      obtain ⟨dir, -, rfl⟩ := Option.map_eq_some_iff.mp isDir
      have own := named _ rfl
      exact ⟨own, JobDir.filed_saved _ dir⟩
  | stepEnd job batchSize last stopping dir state gpu now =>
      refine ⟨fun _ => rfl, ?_, fun missing => absurd (grows coherent.born) missing⟩
      intro dir' isDir
      obtain ⟨written, stored, rfl⟩ := Option.map_eq_some_iff.mp isDir
      obtain ⟨rfl, filed⟩ := coherent.filed written stored
      exact ⟨rfl, filed⟩
  | finish _ _ _ dir | fail _ _ _ dir =>
      refine ⟨fun _ => rfl, ?_, fun missing => absurd (grows coherent.born) missing⟩
      intro dir' isDir
      obtain ⟨dir, -, rfl⟩ := Option.map_eq_some_iff.mp isDir
      exact ⟨named _ rfl, JobDir.filed_closed _ dir⟩
  | restart listing life =>
      refine ⟨fun works => (nomatch works), coherent.filed, fun missing => ?_⟩
      obtain ⟨-, blank⟩ := unborn missing
      refine ⟨?_, blank⟩
      cases isDir : life.dir with
      | none => rfl
      | some dir =>
          rw [blank dir isDir]
          rfl

end coherence

namespace JobManager

variable {manager : JobManager V}

theorem coherent_new (persists : Bool) : (new persists : JobManager V).Coherent := by
  intro jobId
  cases persists with
  | false =>
      exact ⟨fun works => (nomatch works), fun _ isDir => (nomatch isDir), fun _ => ⟨rfl, nofun⟩⟩
  | true =>
      refine ⟨fun works => (nomatch works), ?_, fun _ => ⟨rfl, ?_⟩⟩
      · rintro dir ⟨rfl⟩
        exact ⟨rfl, fun d isMetadata => (nomatch isMetadata)⟩
      · rintro dir ⟨rfl⟩
        rfl

theorem issued_step (move : Move V) : manager.issued ⊆ (step numbers move manager).issued := by
  have called (jobId : String) (edit : JobInfo V → JobInfo V) :
      manager.issued ⊆ (manager.change jobId edit).issued := by
    unfold change
    split <;> exact List.Subset.refl _
  have worked (jobId : String) {locked : JobInfo V → Worker V → JobManager V}
      (keeps : ∀ job worker, (locked job worker).issued = manager.issued) :
      manager.issued ⊆ (manager.work jobId locked).issued := by
    unfold work
    split
    · rw [keeps]
      exact List.Subset.refl _
    · exact List.Subset.refl _
  cases move with
  | submit jobId recipe batchSize now => exact List.subset_cons_self _ _
  | cancel jobId => exact called jobId _
  | addTag jobId tag => exact called jobId _
  | removeTag jobId tag => exact called jobId _
  | attach jobId | begin jobId | finish jobId | fail jobId | detach jobId | log jobId =>
      exact worked jobId fun _ _ => rfl
  | stepEnd jobId state gpu now =>
      refine worked jobId fun _ worker => ?_
      split <;> rfl
  | restart listing => exact List.Subset.refl _

theorem Coherent.step (coherent : manager.Coherent) {move : Move V}
    (allowed : Allowed manager move) :
    (step numbers move manager).Coherent := by
  intro jobId
  refine (lives_step coherent allowed jobId).coherent (coherent jobId) (issued_step move) ?_ ?_
  · intro job found
    exact Table.key_of_find? found
  · rintro recipe batchSize now rfl
    exact List.mem_cons_self

end JobManager

end Xaytune.Studio
