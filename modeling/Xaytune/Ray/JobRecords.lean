import Xaytune.Ray.Workloads

/-!
# What a workload's records say

Of each task on an operation's directory it is said what holds at its stage, and of each step what
it leaves of the directory, of Ray's job and of the other tasks. The exclusive claim of the
directory leaves one supervisor that may start a worker, and it writes its ending behind it.
-/

namespace Xaytune.Ray.Jobs

open Xaytune.Runtimes (Files Given Phase Worker Life Supervisor RuntimeStatus finishedStatus starts)

variable {Op Digest Record : Type}

/-! ## The supervisor and its worker -/

/-- What a supervisor's phase says of its worker and of its handler. -/
def SupervisorFits (supervisor : Supervisor) : Prop :=
  match supervisor.phase with
  | .opening | .checking | .neverStarting | .configuring | .starting | .spawnFailed _
  | .recordingSpawnError _ => supervisor.child = none
  | .surviving => True
  | .draining _ _ | .truncating _ _ | .reporting _ _ | .finishing _ _ =>
      supervisor.handler = true ∧ ∀ worker, supervisor.child = some worker → worker.life ≠ .running
  | .returned _ | .raised => ∀ worker, supervisor.child = some worker → worker.life ≠ .running
  | _ => supervisor.handler = true

theorem exit_not_running {worker : Worker} {code : Int} (ended : worker.life ≠ .running) :
    (worker.exit code).life ≠ .running := by
  rw [Worker.exit_of_ended ended]
  exact ended

theorem SupervisorFits.exitWorker {supervisor : Supervisor} (fits : SupervisorFits supervisor)
    (code : Int) : SupervisorFits (supervisor.exitWorker code) := by
  have ended (kept : ∀ worker, supervisor.child = some worker → worker.life ≠ .running) :
      ∀ worker, (supervisor.exitWorker code).child = some worker → worker.life ≠ .running := by
    intro worker isChild
    obtain ⟨before, isBefore, rfl⟩ := Option.map_eq_some_iff.mp isChild
    exact exit_not_running (kept before isBefore)
  obtain ⟨pid, phase, writer, handler, child, early⟩ := supervisor
  cases phase with
  | opening | checking | neverStarting | configuring | starting | spawnFailed _
  | recordingSpawnError _ =>
      have none_yet : child = none := fits
      simp [SupervisorFits, Supervisor.exitWorker, none_yet]
  | draining | truncating | reporting | finishing => exact ⟨fits.1, ended fits.2⟩
  | returned | raised => exact ended fits
  | _ => exact fits

theorem SupervisorFits.step {supervisor : Supervisor} (fits : SupervisorFits supervisor)
    {given : Given Record} (files : Files Record)
    (quiet : ∀ signalled worker, supervisor.phase = .relaying signalled → given.raised = true →
      supervisor.child = some worker → worker.life ≠ .running) :
    SupervisorFits (supervisor.step given files).1 := by
  obtain ⟨pid, phase, writer, handler, child, early⟩ := supervisor
  cases phase with
  | checking =>
      have none_yet : child = none := fits
      simp only [Supervisor.step]
      split_ifs
      · exact none_yet
      · exact none_yet
  | starting =>
      have none_yet : child = none := fits
      simp only [Supervisor.step, Supervisor.startWorker]
      cases given.spawned with
      | error error => exact none_yet
      | ok pid => trivial
  | neverStarting | recordingSpawnError =>
      have none_yet : child = none := fits
      simp [Supervisor.step, Supervisor.finish, Supervisor.goTo, SupervisorFits, none_yet]
  | recordingStart | announcing | signalling =>
      cases child with
      | none => exact fits
      | some worker => exact fits
  | polling signalled =>
      cases child with
      | none => exact fits
      | some worker =>
          obtain ⟨number, life, signals⟩ := worker
          have handled : handler = true := fits
          cases life with
          | running => exact fits
          | exited | reaped =>
              simp [Supervisor.step, Supervisor.pollWorker, Worker.poll, SupervisorFits, handled]
  | looking signalled =>
      simp only [Supervisor.step]
      split_ifs
      · exact fits
      · exact fits
  | relaying signalled =>
      simp only [Supervisor.step, Supervisor.emitting]
      split_ifs with raises
      · exact fun worker isChild => quiet signalled worker rfl raises isChild
      · exact fits
  | draining signalled code =>
      simp only [Supervisor.step, Supervisor.emitting]
      split_ifs
      · exact fits.2
      · exact fits
  | finishing signalled code => exact fits.2
  | _ => first | exact fits | exact rfl

/-- The finished record is written on the way out. -/
theorem step_finished (supervisor : Supervisor) (given : Given Record) (files : Files Record) :
    (supervisor.step given files).2.finished = files.finished ∨
      (supervisor.step given files).1.exited = true := by
  obtain ⟨pid, phase, writer, handler, child, early⟩ := supervisor
  cases phase with
  | neverStarting | recordingSpawnError | finishing => exact .inr rfl
  | checking | looking =>
      simp only [Supervisor.step]
      split_ifs
      · exact .inl rfl
      · exact .inl rfl
  | recordingStart | announcing | polling | signalling =>
      cases child with
      | none => exact .inl rfl
      | some worker => exact .inl (by simp [Supervisor.step, Supervisor.emitting, Supervisor.goTo])
  | _ => exact .inl (by simp [Supervisor.step, Supervisor.emitting, Supervisor.goTo])

theorem SupervisorFits.not_running {supervisor : Supervisor} {worker : Worker}
    (fits : SupervisorFits supervisor) (exited : supervisor.exited = true)
    (isChild : supervisor.child = some worker) : worker.life ≠ .running := by
  obtain ⟨pid, phase, writer, handler, child, early⟩ := supervisor
  cases phase with
  | returned | raised => exact fits worker isChild
  | _ => cases exited

/-! ## What holds of a site and of a task -/

namespace SubmitStage

/-- Past the look for `rejected.json`, before Ray has answered the submission. -/
def onWay : SubmitStage → Bool
  | .asking | .readingAccepted | .readingFinished | .weighing | .makingDirectory | .readingPlan
  | .writingPlan | .submitting => true
  | _ => false

/-- Past the look for records of a job. -/
def unaware : SubmitStage → Bool
  | .makingDirectory | .readingPlan | .writingPlan | .submitting => true
  | _ => false

end SubmitStage

/-- The workload has ended for good: its supervisor said so, or Ray did. -/
def Site.Over (site : Site Digest Record) : Prop :=
  site.files.finished ≠ none ∨ site.shut = true

structure Site.Sound (site : Site Digest Record) : Prop where
  one : site.jobs ≤ 1
  held : site.job ≠ none → site.jobs = 1
  number : ∀ job, site.job = some job → job.number = 1
  shown : ∀ job, site.job = some job → (job.status.ended = true ↔ site.shut = true)
  rejected : site.rejected ≠ none → site.jobs = 0
  claimed : site.claim ≠ none → site.jobs = 1
  unclaimed : site.claim = none → site.workers = 0 ∧ site.files.finished = none
  forgotten : site.jobs = 1 → site.job = none → site.evidence ≠ []
  ends : site.shut = true → site.jobs = 1
  once : site.workers ≤ 1
  launched : site.warned ≠ none → site.jobs = 1
  heeded : site.warned = some true → site.files.cancelRequest = true
  unlaunched : ∀ job, site.job = some job → job.status = .pending → site.warned = none
  stopped : site.stopping = true → site.files.cancelRequest = true ∧ site.warned ≠ some false

/-- An end that Ray showed has been shown. -/
def Observation.Fits (site : Site Digest Record) : Observation Digest → Prop
  | .readingFinished job => ∀ shown, job = some shown → shown.status.ended = true → site.shut = true
  | .readingCancel job | .readingStarted job _ => job.status.ended = true → site.shut = true
  | .observed status => terminal status = true → site.Over

def OperationOutcome.Fits (site : Site Digest Record) : OperationOutcome → Prop
  | .rejected _ => site.rejected ≠ none
  | .accepted status => terminal status = false
  | .completed _ => site.Over

structure SubmitHolds (site : Site Digest Record) (alive : Bool) (request : Request Digest)
    (late : Bool) (stage : SubmitStage) : Prop where
  started : late = true → 0 < site.workers
  way : alive = true → request.unsendable = none → stage.onWay = true → site.rejected = none
  aware : alive = true → request.unsendable = none → stage.unaware = true → site.jobs = 1 →
    site.job ≠ none
  apart : late = true → stage.unaware = false

def LookupStage.Fits (site : Site Digest Record) (late : Bool) : LookupStage Digest → Prop
  | .observing observation => observation.Fits site
  | .answered none => late = false
  | .answered (some outcome) => outcome.Fits site
  | _ => True

def StatusStage.Fits (site : Site Digest Record) : StatusStage Digest → Prop
  | .observing observation => observation.Fits site
  | .answered status => terminal status = true → site.Over
  | _ => True

/-- Ray is asked to stop a job whose entrypoint had not run when the request was written. -/
def CancelStage.Fits (site : Site Digest Record) : CancelStage → Prop
  | .readingStarted | .asking => site.files.cancelRequest = true
  | .stopping => site.files.cancelRequest = true ∧ site.warned ≠ some false
  | _ => True

/-- What holds of the supervisor that has claimed the directory. -/
structure Supervises (site : Site Digest Record) (pid : Nat) (alive : Bool)
    (supervisor : Supervisor) : Prop where
  owner : site.claim = some pid
  fits : SupervisorFits supervisor
  before : supervisor.phase.mayStart = true → site.workers = 0
  behind : site.files.finished ≠ none → supervisor.exited = true
  killed : alive = false → supervisor.child = none

def RunStage.Fits (site : Site Digest Record) (pid : Nat) (alive : Bool) : RunStage → Prop
  | .claiming | .exited _ => True
  | .readingPlan => site.claim = some pid ∧ site.workers = 0 ∧ site.files.finished = none
  | .supervising supervisor => Supervises site pid alive supervisor

/-- No worker, now or later. -/
def RunStage.Barred : RunStage → Prop
  | .supervising supervisor => supervisor.barred = true ∧ supervisor.child = none
  | _ => True

def Process.Holds (site : Site Digest Record) (pid : Nat) (process : Process Op Digest) : Prop :=
  match process.task with
  | .submit _ request late stage => SubmitHolds site process.alive request late stage
  | .lookup _ late stage => (late = true → 0 < site.workers) ∧ stage.Fits site late
  | .status _ stage => stage.Fits site
  | .cancel _ _ stage => stage.Fits site
  | .run _ job stage =>
      job = 1 ∧ (∃ warned, site.warned = some warned ∧ (warned = true → stage.Barred)) ∧
        stage.Fits site pid process.alive ∧ (site.shut = true → process.gone = true)

/-- What a step of another process, or of Ray, leaves of a site. -/
structure Site.Grows (site site' : Site Digest Record) (pid : Nat) : Prop where
  rejected : site.rejected ≠ none → site'.rejected ≠ none
  jobs : site.jobs = 1 → site'.jobs = 1
  workers : site.workers ≤ site'.workers
  claim : ∀ owner, site.claim = some owner → site'.claim = some owner
  owned : ∀ owner, site.claim = some owner → owner ≠ pid →
    site'.workers = site.workers ∧ site'.files.finished = site.files.finished
  finished : site.files.finished ≠ none → site'.files.finished ≠ none
  shut : site.shut = true → site'.shut = true
  request : site.files.cancelRequest = true → site'.files.cancelRequest = true
  warned : ∀ warned, site.warned = some warned → site'.warned = some warned
  heeded : site.files.cancelRequest = true → site.warned ≠ some false → site'.warned ≠ some false

/-- What the process must be spared by such a step. -/
structure Process.Spared (site site' : Site Digest Record) (process : Process Op Digest) :
    Prop where
  way : ∀ op request late stage, process = ⟨.submit op request late stage, true⟩ →
    request.unsendable = none → stage.onWay = true → site.rejected = none → site'.rejected = none
  aware : ∀ op request late stage, process = ⟨.submit op request late stage, true⟩ →
    request.unsendable = none → stage.unaware = true → (site.jobs = 1 → site.job ≠ none) →
      site'.jobs = 1 → site'.job ≠ none
  ends : ∀ op job stage, process.task = .run op job stage → site'.shut = true → site.shut = false →
    process.gone = true

section

variable {site site' : Site Digest Record} {pid : Nat}

theorem Site.Grows.refl (site : Site Digest Record) (pid : Nat) : site.Grows site pid :=
  ⟨id, id, Nat.le_refl _, fun _ => id, fun _ _ _ => ⟨rfl, rfl⟩, id, id, id, fun _ => id,
    fun _ => id⟩

theorem Site.Grows.isOver (grows : site.Grows site' pid) (isOver : site.Over) : site'.Over := by
  rcases isOver with finished | shut
  · exact .inl (grows.finished finished)
  · exact .inr (grows.shut shut)

theorem Observation.Fits.grows {observation : Observation Digest} (grows : site.Grows site' pid)
    (fits : observation.Fits site) : observation.Fits site' := by
  cases observation with
  | readingFinished job => exact fun shown isJob ended => grows.shut (fits shown isJob ended)
  | readingCancel | readingStarted => exact fun ended => grows.shut (fits ended)
  | observed status => exact fun isTerminal => grows.isOver (fits isTerminal)

theorem LookupStage.Fits.grows {stage : LookupStage Digest} {late : Bool}
    (grows : site.Grows site' pid) (fits : stage.Fits site late) : stage.Fits site' late := by
  cases stage with
  | observing observation => exact Observation.Fits.grows grows fits
  | answered outcome =>
      cases outcome with
      | none => exact fits
      | some outcome =>
          cases outcome with
          | rejected => exact grows.rejected fits
          | accepted => exact fits
          | completed => exact grows.isOver fits
  | _ => trivial

theorem StatusStage.Fits.grows {stage : StatusStage Digest} (grows : site.Grows site' pid)
    (fits : stage.Fits site) : stage.Fits site' := by
  cases stage with
  | observing observation => exact Observation.Fits.grows grows fits
  | answered status => exact fun isTerminal => grows.isOver (fits isTerminal)
  | _ => trivial

theorem CancelStage.Fits.grows {stage : CancelStage} (grows : site.Grows site' pid)
    (fits : stage.Fits site) : stage.Fits site' := by
  cases stage with
  | readingStarted | asking => exact grows.request fits
  | stopping => exact ⟨grows.request fits.1, grows.heeded fits.1 fits.2⟩
  | _ => trivial

theorem RunStage.Fits.grows {stage : RunStage} {other : Nat} {alive : Bool}
    (grows : site.Grows site' pid) (apart : other ≠ pid) (fits : stage.Fits site other alive) :
    stage.Fits site' other alive := by
  cases stage with
  | claiming | exited => trivial
  | readingPlan =>
      obtain ⟨owner, unstarted, unfinished⟩ := fits
      obtain ⟨workers, finished⟩ := grows.owned other owner apart
      exact ⟨grows.claim other owner, workers.trans unstarted, finished.trans unfinished⟩
  | supervising supervisor =>
      obtain ⟨workers, finished⟩ := grows.owned other fits.owner apart
      refine ⟨grows.claim other fits.owner, fits.fits, ?_, ?_, fits.killed⟩
      · intro mayStart
        rw [workers]
        exact fits.before mayStart
      · intro isFinished
        rw [finished] at isFinished
        exact fits.behind isFinished

theorem Process.Holds.grows {process : Process Op Digest} {other : Nat}
    (holds : process.Holds site other) (grows : site.Grows site' pid) (apart : other ≠ pid)
    (spared : process.Spared site site') : process.Holds site' other := by
  obtain ⟨task, alive⟩ := process
  cases task with
  | submit op request late stage =>
      refine ⟨?_, ?_, ?_, holds.apart⟩
      · exact fun isLate => Nat.lt_of_lt_of_le (holds.started isLate) grows.workers
      · rintro rfl sendable onWay
        exact spared.way op request late stage rfl sendable onWay (holds.way rfl sendable onWay)
      · rintro rfl sendable unaware
        exact spared.aware op request late stage rfl sendable unaware
          (holds.aware rfl sendable unaware)
  | lookup op late stage =>
      exact ⟨fun isLate => Nat.lt_of_lt_of_le (holds.1 isLate) grows.workers, holds.2.grows grows⟩
  | status op stage => exact StatusStage.Fits.grows grows holds
  | cancel target op stage => exact CancelStage.Fits.grows grows holds
  | run op job stage =>
      obtain ⟨isOne, ⟨warned, isWarned, barred⟩, fits, ends⟩ := holds
      refine ⟨isOne, ⟨warned, grows.warned warned isWarned, barred⟩, fits.grows grows apart, ?_⟩
      intro shut
      cases before : site.shut with
      | true => exact ends before
      | false => exact spared.ends op job stage rfl shut before

theorem Process.Spared.of_same {process : Process Op Digest}
    (rejected : site'.rejected = site.rejected)
    (jobs : site'.jobs = site.jobs) (job : site'.job = site.job) (shut : site'.shut = site.shut) :
    process.Spared site site' := by
  refine ⟨?_, ?_, ?_⟩
  · intro op request late stage isProcess sendable onWay unrejected
    rw [rejected, unrejected]
  · intro op request late stage isProcess sendable unaware held
    rw [jobs, job]
    exact held
  · intro op number stage isTask isOver unended
    rw [shut, unended] at isOver
    cases isOver

/-- A step of a process that spares every other. -/
structure Site.Steps (site site' : Site Digest Record) (pid : Nat) (process : Process Op Digest) :
    Prop where
  sound : site'.Sound
  grows : site.Grows site' pid
  holds : process.Holds site' pid
  spared : ∀ other : Process Op Digest, other.Spared site site'

theorem Site.Steps.refl {process : Process Op Digest} (sound : site.Sound)
    (holds : process.Holds site pid) : site.Steps site pid process :=
  ⟨sound, .refl site pid, holds, fun _ => .of_same rfl rfl rfl rfl⟩

theorem Site.Sound.claim_of_workers (sound : site.Sound) (started : 0 < site.workers) :
    site.claim ≠ none := by
  intro unclaimed
  rw [(sound.unclaimed unclaimed).1] at started
  exact absurd started (Nat.lt_irrefl 0)

theorem evidence_of_claim (claimed : site.claim ≠ none) : site.evidence ≠ [] := by
  obtain ⟨owner, isOwner⟩ := Option.ne_none_iff_exists'.mp claimed
  simp [Site.evidence, isOwner]

theorem Site.Sound.jobs_of_workers (sound : site.Sound) (started : 0 < site.workers) :
    site.jobs = 1 :=
  sound.claimed (sound.claim_of_workers started)

section Submitting

variable {request : Request Digest} {late : Bool} {stage : SubmitStage}

/-- A stage that is not on the way to Ray. -/
theorem SubmitHolds.of_off (started : late = true → 0 < site.workers) (off : stage.onWay = false) :
    SubmitHolds site true request late stage := by
  have aware : stage.unaware = false := by
    cases stage with
    | makingDirectory | readingPlan | writingPlan | submitting => cases off
    | _ => rfl
  refine ⟨started, ?_, ?_, fun _ => aware⟩
  · intro alive sendable onWay
    rw [off] at onWay
    cases onWay
  · intro alive sendable unaware
    rw [aware] at unaware
    cases unaware

/-- The next stage is on the same side of the look for a job's records. -/
theorem SubmitHolds.on {next : SubmitStage} (holds : SubmitHolds site true request late stage)
    (onWay : stage.onWay = true) (unaware : next.unaware = true → stage.unaware = true) :
    SubmitHolds site true request late next := by
  refine ⟨holds.started, ?_, ?_, ?_⟩
  · exact fun alive sendable _ => holds.way alive sendable onWay
  · exact fun alive sendable isUnaware => holds.aware alive sendable (unaware isUnaware)
  · intro isLate
    cases isUnaware : next.unaware with
    | false => rfl
    | true =>
        have before := unaware isUnaware
        rw [holds.apart isLate] at before
        cases before

theorem Site.Sound.accept (sound : site.Sound) (identity : Identity Digest) (fresh : site.jobs = 0)
    (unrejected : site.rejected = none) : (site.accept identity).Sound := by
  have never : site.shut = false := by
    cases shut : site.shut with
    | false => rfl
    | true =>
        have jobs := sound.ends shut
        omega
  have unlaunched : site.warned = none := by
    by_contra launched
    have jobs := sound.launched launched
    omega
  refine ⟨?_, ?_, ?_, ?_, ?_, ?_, sound.unclaimed, ?_, ?_, sound.once, ?_, sound.heeded,
    fun _ _ _ => unlaunched, sound.stopped⟩
  · simp [Site.accept, fresh]
  · simp [Site.accept, fresh]
  · rintro job ⟨⟩
    simp [fresh]
  · rintro job ⟨⟩
    simp [JobStatus.ended, Site.accept, never]
  · exact fun rejected => absurd unrejected rejected
  · simp [Site.accept, fresh]
  · simp [Site.accept]
  · intro shut
    rw [show (site.accept identity).shut = site.shut from rfl, never] at shut
    cases shut
  · exact fun launched => absurd unlaunched launched

theorem Site.Steps.accept {op : Op} {next : SubmitStage} (sound : site.Sound)
    (holds : SubmitHolds site true request late .submitting) (sendable : request.unsendable = none)
    (unheld : site.job = none) (off : next.onWay = false) :
    site.Steps (site.accept request.identity) pid
      (⟨.submit op request late next, true⟩ : Process Op Digest) := by
  have fresh : site.jobs = 0 := by
    have one := sound.one
    have held := holds.aware rfl sendable rfl
    by_contra some_job
    exact held (by omega) unheld
  have accepted := sound.accept request.identity fresh (holds.way rfl sendable rfl)
  refine ⟨accepted, { Site.Grows.refl site pid with jobs := fun jobs => by omega },
    .of_off holds.started off, ?_⟩
  · intro other
    refine ⟨fun _ _ _ _ _ _ _ => id, ?_, ?_⟩
    · intro _ _ _ _ _ _ _ _ _
      simp [Site.accept]
    · intro _ _ _ _ shut unended
      rw [show (site.accept request.identity).shut = site.shut from rfl, unended] at shut
      cases shut

variable [DecidableEq Digest]

theorem requireSame_off {recorded expected : Identity Digest} {next : SubmitStage}
    (off : next.onWay = false) :
    (SubmitStage.requireSame recorded expected next).onWay = false := by
  unfold SubmitStage.requireSame
  split
  · exact off
  · rfl

/-- Every step of a submission but the writing of `rejected.json`. -/
theorem submitStep_steps {op : Op} {claimed : Bool} {link : Link} (sound : site.Sound)
    (holds : SubmitHolds site true request late stage)
    (unrefused : ∀ detail, stage ≠ .rejecting detail) :
    site.Steps (submitStep claimed request link stage site).2 pid
      (⟨.submit op request late (submitStep claimed request link stage site).1, true⟩ :
        Process Op Digest) := by
  have stay {next : SubmitStage} (next_holds : SubmitHolds site true request late next) :
      site.Steps site pid (⟨.submit op request late next, true⟩ : Process Op Digest) :=
    .refl sound next_holds
  have off {next : SubmitStage} (isOff : next.onWay = false) :
      site.Steps site pid (⟨.submit op request late next, true⟩ : Process Op Digest) :=
    stay (.of_off holds.started isOff)
  cases stage with
  | readingClaims | noting =>
      simp only [submitStep]
      split_ifs
      · exact off rfl
      · exact off rfl
  | readingRejected =>
      cases rejected : site.rejected with
      | some rejection =>
          obtain ⟨digest, detail⟩ := rejection
          simp only [submitStep, rejected]
          split_ifs
          · exact off rfl
          · exact off rfl
      | none =>
          cases refusal : request.refusal with
          | some detail =>
              simp only [submitStep, rejected, refusal]
              exact off rfl
          | none =>
              simp only [submitStep, rejected, refusal]
              exact stay ⟨holds.started, fun _ _ _ => rejected, nofun, fun _ => rfl⟩
  | rejecting detail => exact absurd rfl (unrefused detail)
  | asking =>
      cases link with
      | answered =>
          cases held : site.job with
          | some job =>
              simp only [submitStep, held]
              exact off (requireSame_off rfl)
          | none =>
              simp only [submitStep, held]
              exact stay (holds.on rfl nofun)
      | lost | unreachable => exact off rfl
  | readingAccepted =>
      cases accepted : site.accepted with
      | none =>
          simp only [submitStep, accepted]
          exact stay (holds.on rfl nofun)
      | some identity =>
          simp only [submitStep, accepted, SubmitStage.requireSame]
          split
          · exact stay (holds.on rfl nofun)
          · exact off rfl
  | readingFinished =>
      simp only [submitStep]
      split_ifs
      · exact off rfl
      · exact stay (holds.on rfl nofun)
  | weighing =>
      simp only [submitStep]
      split_ifs with nothing
      · refine stay ⟨holds.started, fun alive sendable _ => holds.way alive sendable rfl, ?_, ?_⟩
        · intro alive sendable unaware jobs unheld
          exact sound.forgotten jobs unheld nothing
        · intro isLate
          have claimed := sound.claim_of_workers (holds.started isLate)
          exact absurd nothing (evidence_of_claim claimed)
      · exact off rfl
  | makingDirectory | writingPlan =>
      refine ⟨{ sound with }, { Site.Grows.refl site pid with }, ?_,
        fun _ => .of_same rfl rfl rfl rfl⟩
      · exact ⟨holds.started, fun alive sendable _ => holds.way alive sendable rfl,
          fun alive sendable _ => holds.aware alive sendable rfl, holds.apart⟩
  | readingPlan =>
      cases plan : site.plan with
      | none =>
          simp only [submitStep, plan]
          exact stay (holds.on rfl fun _ => rfl)
      | some digest =>
          simp only [submitStep, plan]
          split_ifs
          · exact stay (holds.on rfl fun _ => rfl)
          · exact off rfl
  | submitting =>
      cases unsendable : request.unsendable with
      | some detail =>
          simp only [submitStep, unsendable]
          exact off rfl
      | none =>
          cases held : site.job with
          | some job =>
              cases link with
              | answered | lost | unreachable =>
                  simp only [submitStep, unsendable, held]
                  exact off rfl
          | none =>
              cases link with
              | answered | lost =>
                  simp only [submitStep, unsendable, held]
                  exact .accept sound holds unsendable held rfl
              | unreachable =>
                  simp only [submitStep, unsendable, held]
                  exact off rfl
  | confirming =>
      cases link with
      | answered =>
          cases held : site.job with
          | some job =>
              simp only [submitStep, held]
              exact off (requireSame_off rfl)
          | none =>
              simp only [submitStep, held]
              exact off rfl
      | lost | unreachable => exact off rfl
  | writingAccepted =>
      refine ⟨{ sound with forgotten := ?_ }, { Site.Grows.refl site pid with }, ?_,
        fun _ => .of_same rfl rfl rfl rfl⟩
      · intro jobs unheld
        simp [submitStep, Site.evidence]
      · exact .of_off holds.started rfl
  | returned => exact off rfl
  | raised error => exact off rfl

end Submitting

/-- The writing of `rejected.json`, which the other calls under the id must be spared. -/
theorem rejecting_sound (sound : site.Sound) (fresh : site.jobs = 0)
    (rejection : Option (Digest × String)) :
    ({ site with directory := true, rejected := rejection } : Site Digest Record).Sound :=
  { sound with rejected := fun _ => fresh }

theorem rejecting_grows (rejection : Digest × String) (pid : Nat) :
    site.Grows { site with directory := true, rejected := some rejection } pid :=
  { Site.Grows.refl site pid with rejected := fun _ => Option.some_ne_none _ }

/-! ## Reading -/

theorem ended_of_terminal {job : RayJob Digest} {cancelRequested neverStarted : Bool}
    (isTerminal : terminal (jobStatus job cancelRequested neverStarted) = true) :
    job.status.ended = true := by
  cases status : job.status with
  | stopped | failed | succeeded => rfl
  | pending => simp [jobStatus, status, terminal] at isTerminal
  | running =>
      cases neverStarted with
      | true | false => simp [jobStatus, status, terminal] at isTerminal

theorem Observation.Fits.step {observation : Observation Digest} (fits : observation.Fits site) :
    (observeStep observation site).Fits site := by
  cases observation with
  | readingFinished job =>
      cases finished : site.files.finished with
      | some record =>
          simp only [observeStep, finished]
          exact fun _ => .inl (by simp [finished])
      | none =>
          cases job with
          | none => simp [observeStep, finished, Observation.Fits, terminal]
          | some job =>
              simp only [observeStep, finished]
              exact fits job rfl
  | readingCancel job => exact fits
  | readingStarted job cancelRequested =>
      intro isTerminal
      exact .inr (fits (ended_of_terminal isTerminal))
  | observed status => exact fits

theorem ofStatus_fits {status : RuntimeStatus} (fits : terminal status = true → site.Over) :
    (OperationOutcome.ofStatus status).Fits site := by
  unfold OperationOutcome.ofStatus
  split_ifs with isTerminal
  · exact fits isTerminal
  · exact Bool.eq_false_iff.mpr isTerminal

/-- What Ray shows of the job it holds. -/
theorem Site.Sound.shows (sound : site.Sound) :
    (Observation.readingFinished site.job).Fits site := by
  intro job isJob ended
  exact (sound.shown job isJob).mp ended

theorem lookupStep_fits {late : Bool} {link : Link} {stage : LookupStage Digest}
    (sound : site.Sound) (started : late = true → 0 < site.workers) (fits : stage.Fits site late) :
    (lookupStep link stage site).Fits site late := by
  cases stage with
  | readingRejected =>
      cases rejected : site.rejected with
      | none => simp [lookupStep, rejected, LookupStage.Fits]
      | some rejection =>
          obtain ⟨digest, detail⟩ := rejection
          simp [lookupStep, rejected, LookupStage.Fits, OperationOutcome.Fits]
  | asking =>
      cases link with
      | lost | unreachable => trivial
      | answered =>
          cases held : site.job with
          | none => simp [lookupStep, held, LookupStage.Fits]
          | some job =>
              have shows := sound.shows
              rw [held] at shows
              simp only [lookupStep, held]
              exact shows
  | readingFinished =>
      cases finished : site.files.finished with
      | none => simp [lookupStep, finished, LookupStage.Fits]
      | some record =>
          simp only [lookupStep, finished]
          exact .inl (by simp [finished])
  | weighing =>
      cases evidence : site.evidence with
      | nil =>
          simp only [lookupStep, evidence, LookupStage.Fits]
          cases late with
          | false => rfl
          | true => exact absurd evidence (evidence_of_claim (sound.claim_of_workers (started rfl)))
      | cons name rest =>
          simp [lookupStep, evidence, LookupStage.Fits, OperationOutcome.Fits, forgottenStatus,
            terminal]
  | observing observation =>
      have seen : observation.Fits site := fits
      cases observation with
      | observed status => exact ofStatus_fits seen
      | _ => exact seen.step
  | answered outcome => exact fits
  | raised error => trivial

theorem statusStep_fits {link : Link} {stage : StatusStage Digest} (sound : site.Sound)
    (fits : stage.Fits site) : (statusStep link stage site).Fits site := by
  cases stage with
  | readingFinished =>
      cases finished : site.files.finished with
      | none => simp [statusStep, finished, StatusStage.Fits]
      | some record =>
          simp only [statusStep, finished]
          exact fun _ => .inl (by simp [finished])
  | asking =>
      cases link with
      | lost | unreachable => simp [statusStep, StatusStage.Fits, terminal]
      | answered => exact sound.shows
  | observing observation =>
      have seen : observation.Fits site := fits
      cases observation with
      | observed status => exact seen
      | _ => exact seen.step
  | answered status => exact fits

/-! ## Cancelling and running -/

/-- A step that writes nothing but `cancel.request` and what no task relies on. -/
theorem Site.Steps.request {process : Process Op Digest} {cancelRequest directory stopping : Bool}
    (sound : site.Sound) (kept : site.files.cancelRequest = true → cancelRequest = true)
    (stopped : stopping = true → cancelRequest = true ∧ site.warned ≠ some false)
    (holds : process.Holds { site with
      directory, stopping, files := { site.files with cancelRequest } } pid) :
    site.Steps { site with directory, stopping, files := { site.files with cancelRequest } } pid
      process :=
  ⟨{ sound with heeded := fun warned => kept (sound.heeded warned), stopped },
    { Site.Grows.refl site pid with request := kept }, holds, fun _ => .of_same rfl rfl rfl rfl⟩

theorem cancelStep_steps {target op : Op} {link : Link} {stage : CancelStage} (sound : site.Sound)
    (fits : stage.Fits site) :
    site.Steps (cancelStep link stage site).2 pid
      (⟨.cancel target op (cancelStep link stage site).1, true⟩ : Process Op Digest) := by
  cases stage with
  | readingCancel =>
      simp only [cancelStep]
      split_ifs with requested
      · exact .refl sound requested
      · exact .refl sound trivial
  | writingCancel =>
      exact .request sound (fun _ => rfl) (fun stopping => ⟨rfl, (sound.stopped stopping).2⟩) rfl
  | readingStarted =>
      simp only [cancelStep]
      split_ifs
      · exact .refl sound trivial
      · exact .refl sound fits
  | stopping =>
      cases link with
      | answered | lost => exact .request sound id (fun _ => fits) trivial
      | unreachable => exact .refl sound trivial
  | asking =>
      cases link with
      | answered =>
          cases held : site.job with
          | none =>
              simp only [cancelStep, held]
              exact .refl sound trivial
          | some job =>
              simp only [cancelStep, held]
              split_ifs with pending
              · have unlaunched := sound.unlaunched job held pending
                exact .refl sound ⟨fits, by simp [unlaunched]⟩
              · exact .refl sound trivial
      | lost | unreachable => exact .refl sound trivial
  | _ => exact .refl sound trivial

theorem runStep_steps {op : Op} {job : Nat} {given : Given Record} {stage : RunStage}
    (sound : site.Sound)
    (holds : (⟨.run op job stage, true⟩ : Process Op Digest).Holds site pid)
    (quiet : ∀ supervisor signalled worker, stage = .supervising supervisor →
      supervisor.phase = .relaying signalled → given.raised = true →
        supervisor.child = some worker → worker.life ≠ .running) :
    site.Steps (runStep given pid stage site).2 pid
      (⟨.run op job (runStep given pid stage site).1, true⟩ : Process Op Digest) := by
  obtain ⟨isOne, ⟨warned, isWarned, barred⟩, fits, ends⟩ := holds
  have jobs : site.jobs = 1 := sound.launched (by simp [isWarned])
  cases stage with
  | claiming =>
      have unended : site.shut ≠ true := fun shut => absurd (ends shut) (by simp [Process.gone])
      cases claim : site.claim with
      | some owner =>
          simp only [runStep, claim]
          exact .refl sound ⟨isOne, ⟨warned, isWarned, fun _ => trivial⟩, trivial,
            fun shut => absurd shut unended⟩
      | none =>
          obtain ⟨unstarted, unfinished⟩ := sound.unclaimed claim
          simp only [runStep, claim]
          refine ⟨{ sound with claimed := fun _ => jobs, unclaimed := nofun, forgotten := ?_ },
            { Site.Grows.refl site pid with claim := ?_ }, ?_, fun _ => .of_same rfl rfl rfl rfl⟩
          · exact fun _ _ => evidence_of_claim (by simp)
          · intro owner claimed
            rw [claim] at claimed
            cases claimed
          · exact ⟨isOne, ⟨warned, isWarned, fun _ => trivial⟩, ⟨rfl, unstarted, unfinished⟩,
              fun shut => absurd shut unended⟩
  | readingPlan =>
      have unended : site.shut ≠ true := fun shut => absurd (ends shut) (by simp [Process.gone])
      obtain ⟨owner, unstarted, unfinished⟩ := fits
      cases plan : site.plan with
      | none =>
          simp only [runStep, plan]
          exact .refl sound ⟨isOne, ⟨warned, isWarned, fun _ => trivial⟩, trivial,
            fun shut => absurd shut unended⟩
      | some digest =>
          simp only [runStep, plan]
          refine .refl sound ⟨isOne, ⟨warned, isWarned, fun _ => ⟨rfl, rfl⟩⟩,
            ⟨owner, rfl, fun _ => unstarted, ?_, nofun⟩, fun shut => absurd shut unended⟩
          exact fun finished => absurd unfinished finished
  | exited code => exact .refl sound ⟨isOne, ⟨warned, isWarned, barred⟩, fits, ends⟩
  | supervising supervisor =>
      obtain ⟨owner, fits, before, behind, -⟩ := fits
      have claimed : site.claim ≠ none := by simp [owner]
      have quietly (begins : starts given supervisor = true) : site.workers = 0 :=
        before (supervisor.mayStart_of_starts given begins)
      have kept (finished : site.files.finished ≠ none) :
          (supervisor.step given site.files).2.finished ≠ none := by
        rw [supervisor.step_exited given site.files (behind finished)]
        exact finished
      have requested (isRequested : site.files.cancelRequest = true) :
          (supervisor.step given site.files).2.cancelRequest = true :=
        (supervisor.step_cancelRequest given site.files).trans isRequested
      refine ⟨{ sound with
          unclaimed := fun unclaimed => absurd unclaimed claimed
          forgotten := fun _ _ => evidence_of_claim claimed
          once := ?_
          heeded := fun isHeeded => requested (sound.heeded isHeeded)
          stopped := fun stopping =>
            ⟨requested (sound.stopped stopping).1, (sound.stopped stopping).2⟩ },
        { Site.Grows.refl site pid with
          workers := ?_, owned := ?_, finished := kept, request := requested },
        ⟨isOne, ⟨warned, isWarned, ?_⟩, ⟨owner, fits.step _ ?_, ?_, ?_, nofun⟩, ?_⟩,
        fun _ => .of_same rfl rfl rfl rfl⟩
      · simp only [runStep]
        split_ifs with begins
        · exact Nat.succ_le_succ (Nat.le_of_eq (quietly begins))
        · exact sound.once
      · simp only [runStep]
        split_ifs
        · exact Nat.le_succ _
        · exact Nat.le_refl _
      · intro other isOwner apart
        rw [owner] at isOwner
        exact absurd (Option.some.inj isOwner).symm apart
      · rintro rfl
        obtain ⟨stays, unborn⟩ :=
          supervisor.step_barred given _ (sound.heeded isWarned) (barred rfl).1
        exact ⟨stays, unborn.trans (barred rfl).2⟩
      · exact fun signalled worker => quiet supervisor signalled worker rfl
      · intro mayStart
        simp only [runStep]
        split_ifs with begins
        · rw [supervisor.past_of_starts given site.files begins] at mayStart
          cases mayStart
        · apply before
          by_contra past
          rw [supervisor.step_mayStart given site.files (Bool.eq_false_iff.mpr past)] at mayStart
          cases mayStart
      · intro finished
        rcases step_finished supervisor given site.files with same | ended
        · have isFinished : site.files.finished ≠ none := by
            rw [← same]
            exact finished
          rw [supervisor.step_exited given site.files (behind isFinished)]
          exact behind isFinished
        · exact ended
      · intro shut
        have isGone : supervisor.exited = true := ends shut
        simp [runStep, supervisor.step_exited given site.files isGone, Process.gone, isGone]

end

end Xaytune.Ray.Jobs
