import Mathlib.Logic.Function.Basic
import Xaytune.Runtimes.Supervision

/-!
# Workloads on Ray

`submit_or_get`, `lookup_operation`, `get_status` and `cancel` as any number of controllers call
them over one shared state root, and the supervisors Ray runs, a step at a time: each question to
Ray, each file read or written and each process started is one step. Ray refuses a submission id it
holds, may forget a job, may run its entrypoint more than once once it shows the job running, and
shows an end of it when every run is gone. A supervisor that has not installed its handler dies of
`SIGTERM`, and one that raises of itself; its worker does not.
-/

namespace Xaytune.Ray.Jobs

open Xaytune.Runtimes (Files Given Started Finished Supervisor RuntimeStatus finishedStatus starts)

/-- What a job is submitted for, as its metadata and `accepted.json` have it. -/
structure Identity (Digest : Type) where
  requestDigest : Digest
  environmentDigest : Digest
  placement : Option Digest
  deriving DecidableEq

/-- A call's plan: why this runtime refuses it, or why the backend cannot express it. -/
structure Request (Digest : Type) where
  identity : Identity Digest
  refusal : Option String
  unsendable : Option String
  deriving DecidableEq

inductive JobStatus where
  | pending
  | running
  | stopped
  | failed
  | succeeded
  deriving DecidableEq

def JobStatus.ended : JobStatus → Bool
  | .pending | .running => false
  | .stopped | .failed | .succeeded => true

structure RayJob (Digest : Type) where
  number : Nat
  identity : Identity Digest
  status : JobStatus
  exitCode : Option Int
  deriving DecidableEq

/-- An operation's directory and job. `jobs` counts the jobs Ray has accepted under the id, `shut`
tells that it has shown an end of one, `warned`, once Ray has run the entrypoint, that
`cancel.request` was there before, and `workers` counts the workers that have been started. -/
structure Site (Digest Record : Type) where
  directory : Bool
  rejected : Option (Digest × String)
  accepted : Option (Identity Digest)
  claim : Option Nat
  plan : Option Digest
  files : Files Record
  job : Option (RayJob Digest)
  stopping : Bool
  jobs : Nat
  shut : Bool
  warned : Option Bool
  workers : Nat

variable {Op Digest Record : Type}

def Site.empty : Site Digest Record :=
  ⟨false, none, none, none, none, .fresh false, none, false, 0, false, none, 0⟩

/-- What shows that Ray had the job. -/
def Site.evidence (site : Site Digest Record) : List String :=
  (if site.accepted.isSome then ["accepted.json"] else []) ++
    (if site.claim.isSome then ["supervisor.claim"] else []) ++
    (if site.files.started.isSome then ["started.json"] else []) ++
    if site.files.events.isEmpty then [] else ["events.jsonl"]

/-! ## What a workload is -/

inductive OperationOutcome where
  | rejected (detail : String)
  | accepted (status : RuntimeStatus)
  | completed (status : RuntimeStatus)
  deriving DecidableEq

/-- The states a workload does not leave. -/
def terminal (status : RuntimeStatus) : Bool :=
  match status.state with
  | .succeeded | .failed | .cancelled | .preempted => true
  | _ => false

def forgottenStatus (evidence : List String) : RuntimeStatus :=
  ⟨.unknown, none, some ("Ray has no record of this job, but " ++ ", ".intercalate evidence ++
    " shows it accepted the job; it is not re-submitted, and how it ended is unknown")⟩

/-- `_status` of a job whose supervisor has recorded no ending. -/
def jobStatus (job : RayJob Digest) (cancelRequested neverStarted : Bool) : RuntimeStatus :=
  match job.status with
  | .pending =>
      ⟨.pending, none,
        if cancelRequested then
          some "cancellation requested; Ray has not started the job" else none⟩
  | .running => ⟨if neverStarted then .starting else .running, none, none⟩
  | .stopped => ⟨.cancelled, none, some "Ray stopped the job"⟩
  | .failed =>
      if cancelRequested ∧ neverStarted then
        ⟨.cancelled, none, some "cancelled before it started; Ray then ended the job"⟩
      else
        ⟨.failed, job.exitCode, some "the job failed before its supervisor recorded an ending"⟩
  | .succeeded =>
      ⟨.unknown, none,
        some ("Ray reports the job SUCCEEDED but its supervisor recorded no ending: " ++
        "is shared_state_root mounted on the Ray node?")⟩

/-- Where `_status` stands, with what Ray said. -/
inductive Observation (Digest : Type) where
  | readingFinished (job : Option (RayJob Digest))
  | readingCancel (job : RayJob Digest)
  | readingStarted (job : RayJob Digest) (cancelRequested : Bool)
  | observed (status : RuntimeStatus)
  deriving DecidableEq

def observeStep (stage : Observation Digest) (site : Site Digest Record) : Observation Digest :=
  match stage with
  | .readingFinished job =>
      match site.files.finished, job with
      | some finished, _ => .observed (finishedStatus finished)
      | none, none =>
          .observed ⟨.unknown, none,
            some "Ray has no record of this job: the cluster forgot it, or never had it"⟩
      | none, some job => .readingCancel job
  | .readingCancel job => .readingStarted job site.files.cancelRequest
  | .readingStarted job cancelRequested =>
      .observed (jobStatus job cancelRequested site.files.started.isNone)
  | .observed status => .observed status

/-! ## The calls of a controller -/

inductive CallError where
  | idempotencyConflict (differing : List String)
  | unsupported (detail : String)
  | unavailable
  deriving DecidableEq

/-- Whether a question reaches Ray and its answer comes back. -/
inductive Link where
  | answered
  | lost
  | unreachable

inductive SubmitStage where
  | readingClaims
  | readingRejected
  | rejecting (detail : String)
  | asking
  | readingAccepted
  | readingFinished
  | weighing
  | makingDirectory
  | readingPlan
  | writingPlan
  | submitting
  | confirming
  | noting
  | writingAccepted
  | returned
  | raised (error : CallError)
  deriving DecidableEq

inductive LookupStage (Digest : Type) where
  | readingRejected
  | asking
  | readingFinished
  | weighing
  | observing (observation : Observation Digest)
  | answered (outcome : Option OperationOutcome)
  | raised (error : CallError)
  deriving DecidableEq

inductive StatusStage (Digest : Type) where
  | readingFinished
  | asking
  | observing (observation : Observation Digest)
  | answered (status : RuntimeStatus)
  deriving DecidableEq

inductive CancelStage where
  | checkingId
  | claiming
  | readingCancel
  | writingCancel
  | readingStarted
  | asking
  | stopping
  | returned
  | raised (error : CallError)
  deriving DecidableEq

inductive RunStage where
  | claiming
  | readingPlan
  | supervising (supervisor : Supervisor)
  | exited (code : Int)
  deriving DecidableEq

variable [DecidableEq Digest]

/-- `_require_same`: the fields in which a recorded job differs from this call. -/
def differing (recorded expected : Identity Digest) : List String :=
  (if recorded.requestDigest = expected.requestDigest then [] else ["request_digest"]) ++
    (if recorded.environmentDigest = expected.environmentDigest then [] else ["runtime_env"]) ++
    if recorded.placement = expected.placement then [] else ["placement"]

/-- Goes on when the recorded job is this call's, and raises otherwise. -/
def SubmitStage.requireSame (recorded expected : Identity Digest) (next : SubmitStage) :
    SubmitStage :=
  match differing recorded expected with
  | [] => next
  | fields => .raised (.idempotencyConflict fields)

/-- Ray takes a job under an id it does not hold. -/
def Site.accept (identity : Identity Digest) (site : Site Digest Record) : Site Digest Record :=
  { site with
    job := some ⟨site.jobs + 1, identity, .pending, none⟩
    jobs := site.jobs + 1 }

def submitStep (claimed : Bool) (request : Request Digest) (link : Link) (stage : SubmitStage)
    (site : Site Digest Record) : SubmitStage × Site Digest Record :=
  match stage with
  | .readingClaims =>
      (if claimed then
        .raised (.idempotencyConflict ["operation_type"]) else .readingRejected, site)
  | .readingRejected =>
      match site.rejected, request.refusal with
      | some (digest, detail), _ =>
          (if digest = request.identity.requestDigest then .raised (.unsupported detail)
            else .raised (.idempotencyConflict ["request_digest"]), site)
      | none, some detail => (.rejecting detail, site)
      | none, none => (.asking, site)
  | .rejecting detail =>
      (.raised (.unsupported detail),
        { site with
          directory := true
          rejected := some (request.identity.requestDigest, detail) })
  | .asking =>
      match link, site.job with
      | .answered, some job => (.requireSame job.identity request.identity .noting, site)
      | .answered, none => (.readingAccepted, site)
      | _, _ => (.raised .unavailable, site)
  | .readingAccepted =>
      match site.accepted with
      | some identity => (.requireSame identity request.identity .readingFinished, site)
      | none => (.readingFinished, site)
  | .readingFinished => (if site.files.finished.isSome then .returned else .weighing, site)
  | .weighing => (if site.evidence = [] then .makingDirectory else .returned, site)
  | .makingDirectory => (.readingPlan, { site with directory := true })
  | .readingPlan =>
      match site.plan with
      | none => (.writingPlan, site)
      | some digest =>
          (if digest = request.identity.requestDigest then .submitting
            else .raised (.idempotencyConflict ["request_digest"]), site)
  | .writingPlan => (.submitting, { site with plan := some request.identity.requestDigest })
  | .submitting =>
      match request.unsendable, link, site.job with
      | some detail, _, _ => (.rejecting detail, site)
      | none, .answered, none => (.noting, site.accept request.identity)
      | none, .lost, none => (.confirming, site.accept request.identity)
      | none, _, _ => (.confirming, site)
  | .confirming =>
      match link, site.job with
      | .answered, some job => (.requireSame job.identity request.identity .noting, site)
      | _, _ => (.raised .unavailable, site)
  | .noting => (if site.accepted.isNone then .writingAccepted else .returned, site)
  | .writingAccepted =>
      (.returned, { site with directory := true, accepted := some request.identity })
  | .returned => (.returned, site)
  | .raised error => (.raised error, site)

omit [DecidableEq Digest] in
/-- What `lookup_operation` answers from a status. -/
def OperationOutcome.ofStatus (status : RuntimeStatus) : OperationOutcome :=
  if terminal status then .completed status else .accepted status

omit [DecidableEq Digest] in
def lookupStep (link : Link) (stage : LookupStage Digest) (site : Site Digest Record) :
    LookupStage Digest :=
  match stage with
  | .readingRejected =>
      match site.rejected with
      | some (_, detail) => .answered (some (.rejected detail))
      | none => .asking
  | .asking =>
      match link, site.job with
      | .answered, some job => .observing (.readingFinished (some job))
      | .answered, none => .readingFinished
      | _, _ => .raised .unavailable
  | .readingFinished =>
      match site.files.finished with
      | some finished => .answered (some (.completed (finishedStatus finished)))
      | none => .weighing
  | .weighing =>
      match site.evidence with
      | [] => .answered none
      | evidence => .answered (some (.accepted (forgottenStatus evidence)))
  | .observing (.observed status) => .answered (some (.ofStatus status))
  | .observing observation => .observing (observeStep observation site)
  | .answered outcome => .answered outcome
  | .raised error => .raised error

omit [DecidableEq Digest] in
def statusStep (link : Link) (stage : StatusStage Digest) (site : Site Digest Record) :
    StatusStage Digest :=
  match stage with
  | .readingFinished =>
      match site.files.finished with
      | some finished => .answered (finishedStatus finished)
      | none => .asking
  | .asking =>
      match link with
      | .answered => .observing (.readingFinished site.job)
      | _ => .answered ⟨.unknown, none, some "Ray could not be asked"⟩
  | .observing (.observed status) => .answered status
  | .observing observation => .observing (observeStep observation site)
  | .answered status => .answered status

omit [DecidableEq Digest] in
/-- `cancel`, but for the claim of its own id. -/
def cancelStep (link : Link) (stage : CancelStage) (site : Site Digest Record) :
    CancelStage × Site Digest Record :=
  match stage with
  | .readingCancel =>
      (if site.files.cancelRequest then .readingStarted else .writingCancel, site)
  | .writingCancel =>
      (.readingStarted,
        { site with directory := true, files := { site.files with cancelRequest := true } })
  | .readingStarted => (if site.files.started.isSome then .returned else .asking, site)
  | .asking =>
      match link, site.job with
      | .answered, some job => (if job.status = .pending then .stopping else .returned, site)
      | .answered, none => (.returned, site)
      | _, _ => (.raised .unavailable, site)
  | .stopping =>
      match link with
      | .answered => (.returned, { site with stopping := site.stopping || site.job.isSome })
      | .lost => (.raised .unavailable, { site with stopping := site.stopping || site.job.isSome })
      | .unreachable => (.raised .unavailable, site)
  | stage => (stage, site)

omit [DecidableEq Digest] in
/-- `run` of the supervisor: claim the directory, read the plan, supervise. -/
def runStep (given : Given Record) (pid : Nat) (stage : RunStage) (site : Site Digest Record) :
    RunStage × Site Digest Record :=
  match stage with
  | .claiming =>
      match site.claim with
      | some _ => (.exited 0, site)
      | none => (.readingPlan, { site with claim := some pid })
  | .readingPlan =>
      match site.plan with
      | none => (.exited 1, site)
      | some _ => (.supervising (.begin pid), site)
  | .supervising supervisor =>
      (.supervising (supervisor.step given site.files).1,
        { site with
          files := (supervisor.step given site.files).2
          workers := if starts given supervisor then site.workers + 1 else site.workers })
  | .exited code => (.exited code, site)

/-! ## The controllers, Ray and its supervisors -/

/-- What a process does. `late` tells of a call that a worker had been started before it began. -/
inductive Task (Op Digest : Type) where
  | submit (op : Op) (request : Request Digest) (late : Bool) (stage : SubmitStage)
  | lookup (op : Op) (late : Bool) (stage : LookupStage Digest)
  | status (op : Op) (stage : StatusStage Digest)
  | cancel (target : Op) (op : Op) (stage : CancelStage)
  | run (op : Op) (job : Nat) (stage : RunStage)
  deriving DecidableEq

/-- The operation whose site a task works on. -/
def Task.op : Task Op Digest → Op
  | .submit op _ _ _ | .lookup op _ _ | .status op _ | .cancel op _ _ | .run op _ _ => op

structure Process (Op Digest : Type) where
  task : Task Op Digest
  alive : Bool
  deriving DecidableEq

/-- A supervisor that has exited or been killed. -/
def Process.gone (process : Process Op Digest) : Bool :=
  match process.alive, process.task with
  | false, _ => true
  | true, .run _ _ (.exited _) => true
  | true, .run _ _ (.supervising supervisor) => supervisor.exited
  | true, _ => false

/-- The shared state root and Ray's jobs, the claimed cancellations, and the processes. -/
structure Cluster (Op Digest Record : Type) where
  sites : Op → Site Digest Record
  claims : Op → Option Op
  processes : Nat → Option (Process Op Digest)

inductive Move (Op Digest Record : Type) where
  | submit (pid : Nat) (op : Op) (request : Request Digest)
  | lookup (pid : Nat) (op : Op)
  | getStatus (pid : Nat) (op : Op)
  | cancel (pid : Nat) (target op : Op)
  | act (pid : Nat) (given : Given Record) (link : Link)
  | crash (pid : Nat)
  | launch (pid : Nat) (op : Op)
  | report (op : Op) (status : JobStatus) (exitCode : Option Int)
  | terminate (pid : Nat)
  | forget (op : Op)
  | exit (pid : Nat) (code : Int)

variable [DecidableEq Op]

namespace Cluster

def empty : Cluster Op Digest Record := ⟨fun _ => .empty, fun _ => none, fun _ => none⟩

def put (pid : Nat) (process : Process Op Digest) (cluster : Cluster Op Digest Record) :
    Cluster Op Digest Record :=
  { cluster with processes := Function.update cluster.processes pid (some process) }

def write (op : Op) (site : Site Digest Record) (cluster : Cluster Op Digest Record) :
    Cluster Op Digest Record :=
  { cluster with sites := Function.update cluster.sites op site }

/-- Starts a process under a number no process has had. -/
def start (pid : Nat) (task : Task Op Digest) (cluster : Cluster Op Digest Record) :
    Cluster Op Digest Record :=
  match cluster.processes pid with
  | none => cluster.put pid ⟨task, true⟩
  | some _ => cluster

/-- `_claim_cancellation`: the id must name no submission, and no other workload's cancellation. -/
def claimStep (target op : Op) (stage : CancelStage) (cluster : Cluster Op Digest Record) :
    CancelStage × (Op → Option Op) :=
  match stage with
  | .checkingId =>
      (if (cluster.sites op).directory then .raised (.idempotencyConflict ["operation_type"])
        else .claiming, cluster.claims)
  | .claiming =>
      match cluster.claims op with
      | none => (.readingCancel, Function.update cluster.claims op (some target))
      | some bound =>
          (if bound = target then .readingCancel
            else .raised (.idempotencyConflict ["request_digest"]), cluster.claims)
  | stage => (stage, cluster.claims)

/-- One step of a process that is alive. -/
def advance (pid : Nat) (given : Given Record) (link : Link) (task : Task Op Digest)
    (cluster : Cluster Op Digest Record) : Cluster Op Digest Record :=
  match task with
  | .submit op request late stage =>
      let next := submitStep (cluster.claims op).isSome request link stage (cluster.sites op)
      (cluster.write op next.2).put pid ⟨.submit op request late next.1, true⟩
  | .lookup op late stage =>
      cluster.put pid ⟨.lookup op late (lookupStep link stage (cluster.sites op)), true⟩
  | .status op stage => cluster.put pid ⟨.status op (statusStep link stage (cluster.sites op)),
      true⟩
  | .cancel target op stage =>
      let claimed := cluster.claimStep target op stage
      let next := cancelStep link stage (cluster.sites target)
      if stage = .checkingId ∨ stage = .claiming then
        { cluster with claims := claimed.2 }.put pid ⟨.cancel target op claimed.1, true⟩
      else (cluster.write target next.2).put pid ⟨.cancel target op next.1, true⟩
  | .run op job stage =>
      let next := runStep given pid stage (cluster.sites op)
      (cluster.write op next.2).put pid ⟨.run op job next.1, true⟩

/-- No supervisor of the job is left. -/
def Gone (cluster : Cluster Op Digest Record) (op : Op) (job : Nat) : Prop :=
  ∀ pid process stage, cluster.processes pid = some process → process.task = .run op job stage →
    process.gone = true

/-- `SIGTERM` for a supervisor: its handler writes `cancel.request`; without one it dies. -/
def terminate (pid : Nat) (process : Process Op Digest) (cluster : Cluster Op Digest Record) :
    Cluster Op Digest Record :=
  match process.gone, process.task with
  | false, .run op _ (.supervising supervisor) =>
      if supervisor.handler then
        cluster.write op
          { cluster.sites op with
            files := { (cluster.sites op).files with cancelRequest := true } }
      else cluster.put pid { process with alive := false }
  | false, .run _ _ _ => cluster.put pid { process with alive := false }
  | _, _ => cluster

def crash (process : Process Op Digest) : Process Op Digest :=
  match process.task with
  | .run _ _ _ => process
  | _ => { process with alive := false }

def exitWorker (code : Int) (process : Process Op Digest) : Process Op Digest :=
  match process.task with
  | .run op job (.supervising supervisor) =>
      { process with task := .run op job (.supervising (supervisor.exitWorker code)) }
  | _ => process

/-- Ray runs the entrypoint of a job that it shows running. -/
def launch (pid : Nat) (op : Op) (cluster : Cluster Op Digest Record) : Cluster Op Digest Record :=
  let site := cluster.sites op
  match site.job with
  | none => cluster
  | some job =>
      if job.status = .running then
        (cluster.write op
          { site with warned := site.warned.or (some site.files.cancelRequest) }).start
          pid (.run op job.number .claiming)
      else cluster

/-- What Ray shows of a job from here on; it is not pending again. -/
def report (op : Op) (status : JobStatus) (exitCode : Option Int)
    (cluster : Cluster Op Digest Record) : Cluster Op Digest Record :=
  match (cluster.sites op).job with
  | none => cluster
  | some job =>
      if job.status.ended ∨ status = .pending then cluster
      else cluster.write op
        { cluster.sites op with
          job := some { job with status, exitCode }
          shut := (cluster.sites op).shut || status.ended }

def step : Move Op Digest Record → Cluster Op Digest Record → Cluster Op Digest Record
  | .submit pid op request, cluster =>
      cluster.start pid
        (.submit op request (decide (0 < (cluster.sites op).workers)) .readingClaims)
  | .lookup pid op, cluster =>
      cluster.start pid (.lookup op (decide (0 < (cluster.sites op).workers)) .readingRejected)
  | .getStatus pid op, cluster => cluster.start pid (.status op .readingFinished)
  | .cancel pid target op, cluster => cluster.start pid (.cancel target op .checkingId)
  | .act pid given link, cluster =>
      match cluster.processes pid with
      | some ⟨task, true⟩ => cluster.advance pid given link task
      | _ => cluster
  | .crash pid, cluster =>
      match cluster.processes pid with
      | some process => cluster.put pid (crash process)
      | none => cluster
  | .launch pid op, cluster => cluster.launch pid op
  | .report op status exitCode, cluster => cluster.report op status exitCode
  | .terminate pid, cluster =>
      match cluster.processes pid with
      | some process =>
          if (cluster.sites process.task.op).stopping then
            cluster.terminate pid process else cluster
      | none => cluster
  | .forget op, cluster => cluster.write op { cluster.sites op with job := none }
  | .exit pid code, cluster =>
      match cluster.processes pid with
      | some process => cluster.put pid (exitWorker code process)
      | none => cluster

/-- Ray shows an end of a job when no supervisor of it is left. -/
def Faithful (cluster : Cluster Op Digest Record) : Move Op Digest Record → Prop
  | .report op status _ =>
      status.ended = true → ∀ job, (cluster.sites op).job = some job → cluster.Gone op job.number
  | _ => True

end Cluster

end Xaytune.Ray.Jobs
