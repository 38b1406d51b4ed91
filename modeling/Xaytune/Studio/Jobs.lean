import Mathlib.Data.List.DropRight
import Xaytune.Library.System
import Xaytune.Library.Table

/-!
# Studio jobs

`JobManager` keeps its jobs in memory and mirrors them in one directory each; every job is trained
by a thread of its own. Each locked section of the manager or of `_run_job` is one move, and so is
a new manager over the same directory, whose process runs none of the earlier threads.
-/

namespace Xaytune.Studio

open Xaytune.Library

inductive JobStatus where
  | pending | running | completed | failed | cancelled
  deriving DecidableEq

def JobStatus.value : JobStatus → String
  | .pending => "pending"
  | .running => "running"
  | .completed => "completed"
  | .failed => "failed"
  | .cancelled => "cancelled"

/-- `JobStatus(value)`; `none` is its `ValueError`. -/
def JobStatus.ofValue? (value : String) : Option JobStatus :=
  [pending, running, completed, failed, cancelled].find? fun status => status.value = value

/-- A status a new manager lists. -/
def JobStatus.isOver : JobStatus → Bool
  | .pending | .running => false
  | .completed | .failed | .cancelled => true

@[simp] theorem JobStatus.ofValue?_value (status : JobStatus) :
    ofValue? status.value = some status := by
  cases status <;> decide

variable {V : Type}

abbrev Dict (V : Type) := List (String × V)

/-- `dict[name] = value`. -/
def setItem (name : String) (value : V) : Dict V → Dict V
  | [] => [(name, value)]
  | entry :: rest =>
      if entry.1 = name then (name, value) :: rest else entry :: setItem name value rest

/-- `{**dict, **others}`. -/
def merged (dict others : Dict V) : Dict V :=
  others.foldl (fun dict entry => setItem entry.1 entry.2 dict) dict

structure TrainState (V : Type) where
  step : Nat
  epoch : Nat
  globalStep : Nat
  numEpochs : Nat
  maxSteps : Int
  metrics : Dict V
  shouldStop : Bool

/-- What a step's entry needs of numbers: `rates` is `batch_size / dt` and `1.0 / dt` for the time
`dt` between two readings of the clock, where it is positive. -/
structure Numbers (V : Type) where
  ofNat : Nat → V
  rates : Nat → V → V → Option (V × V)

variable (numbers : Numbers V)

/-- The metrics of a step with those of the GPU, if there is one. -/
def stepMetrics (state : TrainState V) (gpu : Dict V) : Dict V :=
  let reading := fun name => (gpu.lookup name).getD (numbers.ofNat 0)
  if gpu.isEmpty then state.metrics
  else
    setItem "gpu_utilization" (reading "gpu_utilization")
      (setItem "gpu_memory_peak_mb" (reading "gpu_memory_peak_mb")
        (setItem "gpu_memory_mb" (reading "gpu_memory_allocated_mb") state.metrics))

/-- The entry `_track_state` appends. -/
def stepEntry (batchSize : Nat) (last : V) (state : TrainState V) (gpu : Dict V) (now : V) :
    Dict V :=
  let entry := merged [("step", numbers.ofNat state.globalStep), ("timestamp", now)]
    (stepMetrics numbers state gpu)
  match numbers.rates batchSize last now with
  | none => entry
  | some (samples, steps) => setItem "steps_per_sec" steps (setItem "samples_per_sec" samples entry)

/-- `LogBuffer(maxlen=5000).append`. -/
def appendLine (lines : List String) (line : String) : List String := (lines ++ [line]).rtake 5000

structure JobInfo (V : Type) where
  jobId : String
  status : JobStatus
  recipe : String
  createdAt : V
  startedAt : Option V
  completedAt : Option V
  error : Option String
  state : Option (TrainState V)
  tags : List String
  logBuffer : List String
  metricsHistory : List (Dict V)

/-- What `metadata.json` holds. -/
structure JobDict (V : Type) where
  jobId : String
  status : String
  recipe : String
  createdAt : V
  startedAt : Option V
  completedAt : Option V
  error : Option String
  state : Option (TrainState V)
  tags : List String

def JobInfo.toDict (job : JobInfo V) : JobDict V :=
  ⟨job.jobId, job.status.value, job.recipe, job.createdAt, job.startedAt, job.completedAt,
    job.error, job.state, job.tags⟩

def JobInfo.fromDict (d : JobDict V) (metricsHistory : List (Dict V)) : Option (JobInfo V) :=
  (JobStatus.ofValue? d.status).map fun status =>
    ⟨d.jobId, status, d.recipe, d.createdAt, d.startedAt, d.completedAt, d.error, d.state, d.tags,
      [], metricsHistory⟩

/-- A job's directory: `metadata.json`, the lines of `metrics.jsonl` and `logs.txt`. -/
structure JobDir (V : Type) where
  jobId : String
  metadata : Option (JobDict V)
  metrics : List (Dict V)
  logs : Option String

/-- Where `_run_job` stands; while it trains, with the last step's time and whether training was
told to stop. -/
inductive Phase (V : Type) where
  | started
  | attached
  | training (last : V) (stopping : Bool)
  | ending
  | ended

structure Worker (V : Type) where
  jobId : String
  batchSize : Nat
  phase : Phase V

/-- A manager, its threads, its directory, and the job ids ever made. -/
structure JobManager (V : Type) where
  jobs : Table (@JobInfo.jobId V)
  workers : Table (@Worker.jobId V)
  persistDir : Option (Table (@JobDir.jobId V))
  issued : List String

inductive Move (V : Type) where
  | submit (jobId recipe : String) (batchSize : Nat) (now : V)
  | cancel (jobId : String)
  | addTag (jobId tag : String)
  | removeTag (jobId tag : String)
  | attach (jobId : String)
  | begin (jobId : String) (now last : V)
  | stepEnd (jobId : String) (state : TrainState V) (gpu : Dict V) (now : V)
  | finish (jobId : String) (state : TrainState V) (now : V)
  | fail (jobId error : String) (now : V)
  | detach (jobId : String)
  | log (jobId line : String)
  | restart (listing : List String)

namespace JobManager

variable (manager : JobManager V)

/-- A manager over an empty directory, or over none. -/
def new (persists : Bool) : JobManager V :=
  ⟨.empty _, .empty _, if persists then some (.empty _) else none, []⟩

/-- Change a job's directory, making it where it is missing. -/
def writeDir (jobId : String) (edit : JobDir V → JobDir V) : JobManager V :=
  let written := fun dirs : Table (@JobDir.jobId V) =>
    dirs.put { (edit ((dirs.find? jobId).getD ⟨jobId, none, [], none⟩)) with jobId := jobId }
  { manager with persistDir := manager.persistDir.map written }

def saveMetadata (job : JobInfo V) : JobManager V :=
  manager.writeDir job.jobId fun dir => { dir with metadata := some job.toDict }

def appendMetrics (jobId : String) (entry : Dict V) : JobManager V :=
  manager.writeDir jobId fun dir => { dir with metrics := dir.metrics ++ [entry] }

def saveLogs (job : JobInfo V) : JobManager V :=
  manager.writeDir job.jobId fun dir =>
    { dir with logs := some ("\n".intercalate (job.logBuffer.rtake 2000)) }

def putJob (job : JobInfo V) : JobManager V := { manager with jobs := manager.jobs.put job }

def goTo (worker : Worker V) (phase : Phase V) : JobManager V :=
  { manager with workers := manager.workers.put { worker with phase := phase } }

def submit (jobId recipe : String) (batchSize : Nat) (now : V) : JobManager V :=
  { manager.putJob ⟨jobId, .pending, recipe, now, none, none, none, none, [], [], []⟩ with
    workers := manager.workers.put ⟨jobId, batchSize, .started⟩
    issued := jobId :: manager.issued }

/-- A call about a job; of an unknown one it raises `KeyError` and changes nothing. -/
def change (jobId : String) (edit : JobInfo V → JobInfo V) : JobManager V :=
  match manager.jobs.find? jobId with
  | none => manager
  | some job => (manager.putJob (edit job)).saveMetadata (edit job)

def cancel (jobId : String) : JobManager V :=
  manager.change jobId fun job => { job with status := .cancelled }

def addTag (jobId tag : String) : JobManager V :=
  manager.change jobId fun job =>
    { job with tags := if tag ∈ job.tags then job.tags else job.tags ++ [tag] }

def removeTag (jobId tag : String) : JobManager V :=
  manager.change jobId fun job => { job with tags := job.tags.erase tag }

def getLogs (jobId : String) : Option String :=
  (manager.jobs.find? jobId).map fun job =>
    match job.logBuffer with
    | [] =>
        ((manager.persistDir.bind fun dirs => dirs.find? jobId).bind JobDir.logs).getD ""
    | lines => "\n".intercalate lines

/-- The first locked section of `_run_job`. -/
def begin (job : JobInfo V) (worker : Worker V) (now last : V) : JobManager V :=
  let job := { job with status := .running, startedAt := some now }
  ((manager.putJob job).saveMetadata job).goTo worker (.training last false)

/-- Whether the locked section of `_track_state` stops the training. -/
def stops (job : JobInfo V) : Bool := job.status = .cancelled

/-- The locked section of `_track_state`. -/
def trackState (job : JobInfo V) (worker : Worker V) (last : V) (state : TrainState V)
    (gpu : Dict V) (now : V) : JobManager V :=
  let entry := stepEntry numbers worker.batchSize last state gpu now
  let job :=
    { job with state := some state, metricsHistory := job.metricsHistory ++ [entry] }
  ((manager.putJob job).appendMetrics job.jobId entry).goTo worker (.training now (stops job))

/-- The locked section behind a training that returned. -/
def finish (job : JobInfo V) (worker : Worker V) (state : TrainState V) (now : V) : JobManager V :=
  let status := if job.status = .cancelled then job.status else .completed
  let job := { job with state := some state, status := status, completedAt := some now }
  (((manager.putJob job).saveMetadata job).saveLogs job).goTo worker .ending

/-- The locked section behind one that raised. -/
def fail (job : JobInfo V) (worker : Worker V) (error : String) (now : V) : JobManager V :=
  let job := { job with status := .failed, error := some error, completedAt := some now }
  (((manager.putJob job).saveMetadata job).saveLogs job).goTo worker .ending

/-- One directory of `_load_persisted_jobs`; `none` is a `ValueError`. -/
def loadDir (jobs : Table (@JobInfo.jobId V)) (dir : JobDir V) :
    Option (Table (@JobInfo.jobId V)) :=
  match dir.metadata with
  | none => some jobs
  | some d =>
      if d.status ∈ ["running", "pending"] then some jobs
      else if (jobs.find? d.jobId).isSome then some jobs
      else (JobInfo.fromDict d dir.metrics).map jobs.put

/-- `_load_persisted_jobs`, over the directories as they are listed. -/
def loadPersistedJobs :
    List (JobDir V) → Table (@JobInfo.jobId V) → Option (Table (@JobInfo.jobId V))
  | [], jobs => some jobs
  | dir :: rest, jobs => (loadDir jobs dir).bind (loadPersistedJobs rest)

/-- A new manager over the directory; its process has none of the threads. -/
def restart (listing : List String) : JobManager V :=
  let dirs := (manager.persistDir.map fun dirs => listing.filterMap dirs.find?).getD []
  { manager with jobs := (loadPersistedJobs dirs (.empty _)).getD (.empty _), workers := .empty _ }

/-- A move of a job's thread, made with the job it holds. -/
def work (jobId : String) (locked : JobInfo V → Worker V → JobManager V) : JobManager V :=
  match manager.jobs.find? jobId, manager.workers.find? jobId with
  | some job, some worker => locked job worker
  | _, _ => manager

def step : Move V → JobManager V → JobManager V
  | .submit jobId recipe batchSize now, manager => manager.submit jobId recipe batchSize now
  | .cancel jobId, manager => manager.cancel jobId
  | .addTag jobId tag, manager => manager.addTag jobId tag
  | .removeTag jobId tag, manager => manager.removeTag jobId tag
  | .attach jobId, manager => manager.work jobId fun _ worker => manager.goTo worker .attached
  | .begin jobId now last, manager =>
      manager.work jobId fun job worker => manager.begin job worker now last
  | .stepEnd jobId state gpu now, manager =>
      manager.work jobId fun job worker =>
        match worker.phase with
        | .training last _ => manager.trackState numbers job worker last state gpu now
        | _ => manager
  | .finish jobId state now, manager =>
      manager.work jobId fun job worker => manager.finish job worker state now
  | .fail jobId error now, manager =>
      manager.work jobId fun job worker => manager.fail job worker error now
  | .detach jobId, manager => manager.work jobId fun _ worker => manager.goTo worker .ended
  | .log jobId line, manager =>
      manager.work jobId fun job _ =>
        manager.putJob { job with logBuffer := appendLine job.logBuffer line }
  | .restart listing, manager => manager.restart listing

end JobManager

end Xaytune.Studio
