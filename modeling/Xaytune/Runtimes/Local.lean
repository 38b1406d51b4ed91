import Xaytune.Runtimes.Registry
import Xaytune.Runtimes.Supervision

/-!
# The local runtime

`submit_or_get` and `cancel` as any number of controllers call them, and the launchers they
start, a step at a time: each registry transaction, each file read or written and each process
started is one step, and any process may stop for ever between two of its steps.
-/

namespace Xaytune.Runtimes

/-- What the runtime computes from a plan alone, and the digest a cancellation is recorded under. -/
structure Backend (Op Plan Digest : Type) where
  requestDigest : Plan → Digest
  refuse : Plan → Option String
  cancelDigest : Op → Digest

inductive SubmitError where
  | unsupported (detail : String)
  | idempotencyConflict (differing : List String)
  | integrityError
  | assertion
  deriving DecidableEq

/-- Where a call of `submit_or_get` stands; the last three stages but two are `_spawn`. -/
inductive SubmitStage where
  | recording
  | rereading
  | readingWorkload
  | readingStarted
  | makingDirectory
  | writingPlan
  | spawning
  | recordingPid (pid : Nat)
  | returned
  | raised (error : SubmitError)
  deriving DecidableEq

inductive CancelError where
  | unknownWorkload
  | idempotencyConflict (differing : List String)
  deriving DecidableEq

inductive CancelStage where
  | requiring
  | claiming
  | noting
  | makingDirectory
  | writing
  | returned
  | raised (error : CancelError)
  deriving DecidableEq

inductive LaunchStage where
  | readingPlan
  | claiming
  | supervising (supervisor : Supervisor)
  | exited (code : Int)
  deriving DecidableEq

inductive Task (Op Plan : Type) where
  | submit (op : Op) (plan : Plan) (stage : SubmitStage)
  | cancel (externalId : Op) (op : Op) (stage : CancelStage)
  | launch (externalId : Op) (stage : LaunchStage)
  deriving DecidableEq

structure Process (Op Plan : Type) where
  task : Task Op Plan
  alive : Bool
  deriving DecidableEq

/-- The root directory, with the operation of every worker process started so far. -/
structure Root (Op Plan Digest Record : Type) where
  registry : Registry Op Digest
  directories : Op → Bool
  plans : Op → Option Plan
  files : Op → Files Record
  workers : List Op

structure Host (Op Plan Digest Record : Type) where
  root : Root Op Plan Digest Record
  processes : Nat → Option (Process Op Plan)

variable {Op Plan Digest Record : Type} [DecidableEq Op] [DecidableEq Digest]

namespace Root

def empty : Root Op Plan Digest Record :=
  ⟨.empty, fun _ => false, fun _ => none, fun _ => .fresh false, []⟩

def makeDirectory (op : Op) (root : Root Op Plan Digest Record) : Root Op Plan Digest Record :=
  { root with directories := Function.update root.directories op true }

def writePlan (op : Op) (plan : Plan) (root : Root Op Plan Digest Record) :
    Root Op Plan Digest Record :=
  { root with plans := Function.update root.plans op (some plan) }

def writeFiles (op : Op) (files : Files Record) (root : Root Op Plan Digest Record) :
    Root Op Plan Digest Record :=
  { root with files := Function.update root.files op files }

def requestCancel (op : Op) (root : Root Op Plan Digest Record) : Root Op Plan Digest Record :=
  root.writeFiles op { root.files op with cancelRequest := true }

end Root

/-- What a call goes on with after its claim of the operation id. -/
def SubmitStage.ofRecord (record : OperationRecord Op Digest) : SubmitStage :=
  match record.effect with
  | .rejected detail => .raised (.unsupported detail)
  | .workload _ => .readingWorkload

def SubmitStage.ofClaimed : Claimed Op Digest → SubmitStage
  | .recorded => .rereading
  | .existing record => .ofRecord record
  | .conflict fields => .raised (.idempotencyConflict fields)
  | .integrityError => .raised .integrityError

/-- The end of a refused call: the refusal is raised, recorded before or not. -/
def SubmitStage.ofRefused (detail : String) : Claimed Op Digest → SubmitStage
  | .conflict fields => .raised (.idempotencyConflict fields)
  | _ => .raised (.unsupported detail)

/-- The transaction `submit_or_get` begins with. -/
def recordSubmission (backend : Backend Op Plan Digest) (op : Op) (plan : Plan)
    (registry : Registry Op Digest) : SubmitStage × Registry Op Digest :=
  match backend.refuse plan with
  | some detail =>
      (.ofRefused detail
          (registry.recordRejection op (backend.requestDigest plan) detail).2,
        (registry.recordRejection op (backend.requestDigest plan) detail).1)
  | none =>
      (.ofClaimed (registry.claimSubmission op (backend.requestDigest plan)).2,
        (registry.claimSubmission op (backend.requestDigest plan)).1)

def submitStep (backend : Backend Op Plan Digest) (op : Op) (plan : Plan) (stage : SubmitStage)
    (root : Root Op Plan Digest Record) : SubmitStage × Root Op Plan Digest Record :=
  match stage with
  | .recording =>
      ((recordSubmission backend op plan root.registry).1,
        { root with registry := (recordSubmission backend op plan root.registry).2 })
  | .rereading =>
      match root.registry.operations op with
      | none => (.raised .assertion, root)
      | some record => (.ofRecord record, root)
  | .readingWorkload =>
      match root.registry.workloads op with
      | none => (.raised .assertion, root)
      | some record => (if record.launcherPid = none then .readingStarted else .returned, root)
  | .readingStarted =>
      (if (root.files op).started = none then .makingDirectory else .returned, root)
  | .makingDirectory => (.writingPlan, root.makeDirectory op)
  | .writingPlan => (.spawning, root.writePlan op plan)
  | .spawning => (.spawning, root)
  | .recordingPid pid =>
      (.returned, { root with registry := root.registry.recordSpawnedPid op pid })
  | .returned => (.returned, root)
  | .raised error => (.raised error, root)

def CancelStage.ofClaimed : Claimed Op Digest → CancelStage
  | .conflict fields => .raised (.idempotencyConflict fields)
  | _ => .noting

def cancelStep (backend : Backend Op Plan Digest) (externalId op : Op) (stage : CancelStage)
    (root : Root Op Plan Digest Record) : CancelStage × Root Op Plan Digest Record :=
  match stage with
  | .requiring =>
      match root.registry.workloads externalId with
      | none => (.raised .unknownWorkload, root)
      | some _ => (.claiming, root)
  | .claiming =>
      (.ofClaimed
          (root.registry.claimCancellation op (backend.cancelDigest externalId) externalId).2,
        { root with
          registry :=
            (root.registry.claimCancellation op (backend.cancelDigest externalId) externalId).1 })
  | .noting =>
      (.makingDirectory,
        { root with registry := root.registry.recordCancellationRequest externalId })
  | .makingDirectory => (.writing, root.makeDirectory externalId)
  | .writing => (.returned, root.requestCancel externalId)
  | .returned => (.returned, root)
  | .raised error => (.raised error, root)

def superviseStep (given : Given Record) (op : Op) (supervisor : Supervisor)
    (root : Root Op Plan Digest Record) : Supervisor × Root Op Plan Digest Record :=
  ((supervisor.step given (root.files op)).1,
    { root.writeFiles op (supervisor.step given (root.files op)).2 with
      workers := if starts given supervisor then op :: root.workers else root.workers })

/-- `run` of the launcher: own the workload, then supervise it. -/
def launchStep (given : Given Record) (pid : Nat) (op : Op) (stage : LaunchStage)
    (root : Root Op Plan Digest Record) : LaunchStage × Root Op Plan Digest Record :=
  match stage with
  | .readingPlan =>
      match root.plans op with
      | none => (.exited 1, root)
      | some _ => (.claiming, root)
  | .claiming =>
      (if (root.registry.claimLauncherOwnership op pid).2 then .supervising (.begin pid)
        else .exited 0,
        { root with registry := (root.registry.claimLauncherOwnership op pid).1 })
  | .supervising supervisor =>
      (.supervising (superviseStep given op supervisor root).1,
        (superviseStep given op supervisor root).2)
  | .exited code => (.exited code, root)

/-- What happens next on the machine. A new process takes an unused number. -/
inductive Happening (Op Plan Record : Type) where
  | submit (pid : Nat) (op : Op) (plan : Plan)
  | cancel (pid : Nat) (externalId op : Op)
  | act (pid : Nat) (given : Given Record) (launcher : Nat)
  | exit (pid : Nat) (code : Int)
  | crash (pid : Nat)

namespace Host

def put (pid : Nat) (process : Process Op Plan) (host : Host Op Plan Digest Record) :
    Host Op Plan Digest Record :=
  { host with processes := Function.update host.processes pid (some process) }

/-- Starts a process under a number no process has had. -/
def start (pid : Nat) (task : Task Op Plan) (host : Host Op Plan Digest Record) :
    Host Op Plan Digest Record :=
  match host.processes pid with
  | none => host.put pid ⟨task, true⟩
  | some _ => host

/-- `Popen` of a launcher by the call running as `pid`. -/
def spawn (pid launcher : Nat) (op : Op) (plan : Plan) (host : Host Op Plan Digest Record) :
    Host Op Plan Digest Record :=
  match host.processes launcher with
  | none =>
      (host.put pid ⟨.submit op plan (.recordingPid launcher), true⟩).put launcher
        ⟨.launch op .readingPlan, true⟩
  | some _ => host

/-- One step of a process that is alive. -/
def advance (backend : Backend Op Plan Digest) (pid : Nat) (given : Given Record) (launcher : Nat)
    (task : Task Op Plan) (host : Host Op Plan Digest Record) : Host Op Plan Digest Record :=
  match task with
  | .submit op plan .spawning => host.spawn pid launcher op plan
  | .submit op plan stage =>
      { host with root := (submitStep backend op plan stage host.root).2 }.put pid
        ⟨.submit op plan (submitStep backend op plan stage host.root).1, true⟩
  | .cancel externalId op stage =>
      { host with root := (cancelStep backend externalId op stage host.root).2 }.put pid
        ⟨.cancel externalId op (cancelStep backend externalId op stage host.root).1, true⟩
  | .launch op stage =>
      { host with root := (launchStep given pid op stage host.root).2 }.put pid
        ⟨.launch op (launchStep given pid op stage host.root).1, true⟩

def exitWorker (code : Int) (process : Process Op Plan) : Process Op Plan :=
  match process.task with
  | .launch op (.supervising supervisor) =>
      { process with task := .launch op (.supervising (supervisor.exitWorker code)) }
  | _ => process

def step (backend : Backend Op Plan Digest) :
    Happening Op Plan Record → Host Op Plan Digest Record → Host Op Plan Digest Record
  | .submit pid op plan, host => host.start pid (.submit op plan .recording)
  | .cancel pid externalId op, host => host.start pid (.cancel externalId op .requiring)
  | .act pid given launcher, host =>
      match host.processes pid with
      | some ⟨task, true⟩ => host.advance backend pid given launcher task
      | _ => host
  | .exit pid code, host =>
      match host.processes pid with
      | some process => host.put pid (exitWorker code process)
      | none => host
  | .crash pid, host =>
      match host.processes pid with
      | some process => host.put pid { process with alive := false }
      | none => host

def empty : Host Op Plan Digest Record := ⟨.empty, fun _ => none⟩

end Host

end Xaytune.Runtimes
