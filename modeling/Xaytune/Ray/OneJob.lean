import Xaytune.Library.System
import Xaytune.Ray.JobRecords

/-!
# One worker per operation on Ray

An id has one job: what is on disk tells of it by the time Ray may forget it. An ending that is
reported is either the record of the one supervisor or Ray's word that no supervisor is left. Ray
is asked to stop a job before it runs, so a supervisor that dies of the signal finds the request
and starts no worker.
-/

namespace Xaytune.Ray.Jobs

open Xaytune.Library (Reaches follow)
open Xaytune.Runtimes (Given Supervisor RuntimeStatus starts)

variable {Op Digest Record : Type}

/-! ## Runs -/

namespace Cluster

/-- A live call on its way to submit a plan that Ray can take. -/
def Sending (cluster : Cluster Op Digest Record) (op : Op) (pid : Nat) : Prop :=
  ∃ request late stage, cluster.processes pid = some ⟨.submit op request late stage, true⟩ ∧
    request.unsendable = none ∧ stage.onWay = true

/-- And one that has looked for records of a job and found none. -/
def Unaware (cluster : Cluster Op Digest Record) (op : Op) (pid : Nat) : Prop :=
  ∃ request late stage, cluster.processes pid = some ⟨.submit op request late stage, true⟩ ∧
    request.unsendable = none ∧ stage.unaware = true

/-- A rejection is written for an id that has no job and none on its way; what a worker has written
while it runs does not make its supervisor raise; and Ray forgets a job that the directory tells
of, and no call that has missed this is on its way. -/
def Orderly (cluster : Cluster Op Digest Record) (move : Move Op Digest Record) : Prop :=
  cluster.Faithful move ∧
    match move with
    | .act pid given _ =>
        (∀ op request late detail,
          cluster.processes pid = some ⟨.submit op request late (.rejecting detail), true⟩ →
            (cluster.sites op).jobs = 0 ∧ ∀ other, ¬cluster.Sending op other) ∧
          ∀ op job supervisor signalled worker,
            cluster.processes pid = some ⟨.run op job (.supervising supervisor), true⟩ →
              supervisor.phase = .relaying signalled → given.raised = true →
                supervisor.child = some worker → worker.life ≠ .running
    | .forget op => (cluster.sites op).job ≠ none →
        (cluster.sites op).evidence ≠ [] ∧ ∀ pid, ¬cluster.Unaware op pid
    | _ => True

structure Sound (cluster : Cluster Op Digest Record) : Prop where
  sites : ∀ op, (cluster.sites op).Sound
  tasks : ∀ pid process, cluster.processes pid = some process →
    process.Holds (cluster.sites process.task.op) pid

namespace Sound

variable {cluster : Cluster Op Digest Record} {pid : Nat} {op : Op}

theorem empty : Sound (Cluster.empty : Cluster Op Digest Record) := by
  constructor
  · intro op
    refine ⟨Nat.zero_le _, ?_, ?_, ?_, ?_, ?_, fun _ => ⟨rfl, rfl⟩, ?_, ?_, Nat.zero_le _, ?_,
      ?_, ?_, ?_⟩ <;> simp [Cluster.empty, Site.empty]
  · intro pid process found
    cases found

/-- One process is replaced. -/
theorem put {process : Process Op Digest} (sound : cluster.Sound)
    (holds : process.Holds (cluster.sites process.task.op) pid) :
    (cluster.put pid process).Sound := by
  constructor
  · exact sound.sites
  · intro other found isFound
    by_cases same : other = pid
    · subst same
      simp only [Cluster.put, Function.update_self, Option.some.injEq] at isFound
      subst isFound
      exact holds
    · simp only [Cluster.put, Function.update_of_ne same] at isFound
      exact sound.tasks other found isFound

/-- A new process under an unused number. -/
theorem start {task : Task Op Digest} (sound : cluster.Sound)
    (holds : (⟨task, true⟩ : Process Op Digest).Holds (cluster.sites task.op) pid) :
    (cluster.start pid task).Sound := by
  unfold Cluster.start
  split
  · exact sound.put holds
  · exact sound

variable [DecidableEq Op]

/-- One site is written. -/
theorem write {site : Site Digest Record} (sound : cluster.Sound) (isSound : site.Sound)
    (kept : ∀ pid process, cluster.processes pid = some process → process.task.op = op →
      process.Holds (cluster.sites op) pid → process.Holds site pid) :
    (cluster.write op site).Sound := by
  constructor
  · intro other
    by_cases same : other = op
    · subst same
      simpa [Cluster.write] using isSound
    · simpa [Cluster.write, same] using sound.sites other
  · intro pid process found
    have holds := sound.tasks pid process found
    by_cases same : process.task.op = op
    · rw [same] at holds ⊢
      simpa [Cluster.write] using kept pid process found same holds
    · simpa [Cluster.write, same] using holds

/-- A step of one process on its site. -/
theorem advance {site : Site Digest Record} {process : Process Op Digest} (sound : cluster.Sound)
    (isOp : process.task.op = op) (isSound : site.Sound) (grows : (cluster.sites op).Grows site pid)
    (holds : process.Holds site pid)
    (spared : ∀ other found, other ≠ pid → cluster.processes other = some found →
      found.task.op = op → found.Spared (cluster.sites op) site) :
    ((cluster.write op site).put pid process).Sound := by
  constructor
  · intro other
    by_cases same : other = op
    · subst same
      simpa [Cluster.put, Cluster.write] using isSound
    · simpa [Cluster.put, Cluster.write, same] using sound.sites other
  · intro other found isFound
    by_cases same : other = pid
    · subst same
      simp only [Cluster.put, Cluster.write, Function.update_self, Option.some.injEq] at isFound
      subst isFound
      simpa [Cluster.put, Cluster.write, isOp] using holds
    · simp only [Cluster.put, Cluster.write, Function.update_of_ne same] at isFound
      have before := sound.tasks other found isFound
      by_cases here : found.task.op = op
      · rw [here] at before
        simpa [Cluster.put, Cluster.write, here] using
          before.grows grows same (spared other found same isFound here)
      · simpa [Cluster.put, Cluster.write, here] using before

theorem claimStep_fits {target op other : Op} {stage : CancelStage}
    (claims : stage = .checkingId ∨ stage = .claiming) :
    (cluster.claimStep target op stage).1.Fits (cluster.sites other) := by
  rcases claims with rfl | rfl
  · simp only [claimStep]
    split_ifs <;> trivial
  · simp only [claimStep]
    split
    · trivial
    · split_ifs <;> trivial

/-- What no process does: every process at the site must be spared it. -/
theorem change {site : Site Digest Record} (sound : cluster.Sound) (isSound : site.Sound)
    (grows : ∀ pid, (cluster.sites op).Grows site pid)
    (spared : ∀ pid process, cluster.processes pid = some process → process.task.op = op →
      process.Spared (cluster.sites op) site) : (cluster.write op site).Sound := by
  apply sound.write isSound
  intro pid process found isOp holds
  exact holds.grows (grows (pid + 1)) (Nat.ne_of_lt (Nat.lt_succ_self pid))
    (spared pid process found isOp)

theorem steps {site : Site Digest Record} {process : Process Op Digest} (sound : cluster.Sound)
    (isOp : process.task.op = op) (steps : (cluster.sites op).Steps site pid process) :
    ((cluster.write op site).put pid process).Sound :=
  sound.advance isOp steps.sound steps.grows steps.holds fun _ found _ _ _ => steps.spared found

variable [DecidableEq Digest]

theorem act (sound : cluster.Sound) {given : Given Record} {link : Link}
    (orderly : cluster.Orderly (.act pid given link)) :
    (cluster.step (.act pid given link)).Sound := by
  delta Cluster.step
  dsimp only
  split
  · rename_i task running
    have holds := sound.tasks pid _ running
    cases task with
    | submit op request late stage =>
        by_cases rejects : ∃ detail, stage = .rejecting detail
        · obtain ⟨detail, rfl⟩ := rejects
          obtain ⟨fresh, alone⟩ := orderly.2.1 op request late detail running
          refine sound.advance rfl (rejecting_sound (sound.sites op) fresh _)
            (rejecting_grows _ pid) (.of_off holds.started rfl) ?_
          intro other found apart isFound isOp
          refine ⟨?_, fun _ _ _ _ _ _ _ => id, ?_⟩
          · rintro op' request' late' stage' rfl sendable onWay
            obtain rfl : op' = op := isOp
            exact absurd ⟨request', late', stage', isFound, sendable, onWay⟩ (alone other)
          · intro _ _ _ _ shut unended
            have isOver : (cluster.sites op).shut = true := shut
            rw [unended] at isOver
            cases isOver
        · exact sound.steps rfl (submitStep_steps (sound.sites op) holds fun detail isDetail =>
            rejects ⟨detail, isDetail⟩)
    | lookup op late stage =>
        exact sound.put ⟨holds.1, lookupStep_fits (sound.sites op) holds.1 holds.2⟩
    | status op stage => exact sound.put (statusStep_fits (sound.sites op) holds)
    | cancel target op stage =>
        simp only [Cluster.advance]
        split_ifs
        · exact Sound.put ⟨sound.sites, sound.tasks⟩ (claimStep_fits ‹_›)
        · exact sound.steps rfl (cancelStep_steps (sound.sites target) holds)
    | run op job stage =>
        refine sound.steps rfl (runStep_steps (sound.sites op) holds ?_)
        rintro supervisor signalled worker rfl
        exact orderly.2.2 op job supervisor signalled worker running
  · exact sound

theorem crash (sound : cluster.Sound) : (cluster.step (.crash pid)).Sound := by
  delta Cluster.step
  dsimp only
  split
  · rename_i process running
    have holds := sound.tasks pid process running
    obtain ⟨task, alive⟩ := process
    cases task with
    | submit op request late stage => exact sound.put ⟨holds.started, nofun, nofun, holds.apart⟩
    | lookup | status | cancel | run => exact sound.put holds
  · exact sound

theorem launch (sound : cluster.Sound) : (cluster.step (.launch pid op)).Sound := by
  delta Cluster.step Cluster.launch
  dsimp only
  split
  · exact sound
  · rename_i job held
    split_ifs with runs
    · have site := sound.sites op
      set warned := (cluster.sites op).warned.or (some (cluster.sites op).files.cancelRequest)
        with isWarned
      have heeded (requested : (cluster.sites op).files.cancelRequest = true)
          (unwarned : (cluster.sites op).warned ≠ some false) : warned ≠ some false := by
        cases before : (cluster.sites op).warned with
        | none => simp [isWarned, before, requested]
        | some warning => simpa [isWarned, before] using unwarned
      have written : (cluster.write op { cluster.sites op with warned }).Sound := by
        refine sound.change { site with
          launched := fun _ => site.held (by simp [held])
          heeded := ?_
          unlaunched := ?_
          stopped := fun stopping => ⟨(site.stopped stopping).1,
            heeded (site.stopped stopping).1 (site.stopped stopping).2⟩ }
          (fun pid => { Site.Grows.refl _ pid with warned := ?_, heeded })
          fun _ _ _ _ => .of_same rfl rfl rfl rfl
        · intro isHeeded
          cases before : (cluster.sites op).warned with
          | none => simpa [isWarned, before] using isHeeded
          | some warning => exact site.heeded (by simpa [isWarned, before] using isHeeded)
        · intro other isOther pending
          obtain rfl : job = other := Option.some.inj (held.symm.trans isOther)
          rw [runs] at pending
          cases pending
        · intro warning before
          simp [isWarned, before]
      refine written.start ⟨site.number job held, ?_, trivial, ?_⟩
      · obtain ⟨warning, isWarning⟩ : ∃ warning, warned = some warning :=
          Option.isSome_iff_exists.mp (by simp [isWarned])
        exact ⟨warning, by simpa [Cluster.write, Task.op] using isWarning, fun _ => trivial⟩
      · intro shut
        have isShut : (cluster.sites op).shut = true := by
          simpa [Cluster.write, Task.op] using shut
        have ended := (site.shown job held).mpr isShut
        rw [runs] at ended
        cases ended
    · exact sound

theorem report (sound : cluster.Sound) {status : JobStatus} {exitCode : Option Int}
    (faithful : cluster.Faithful (.report op status exitCode)) :
    (cluster.step (.report op status exitCode)).Sound := by
  delta Cluster.step Cluster.report
  dsimp only
  split
  · exact sound
  · rename_i job held
    have site := sound.sites op
    split_ifs with closed
    · exact sound
    · obtain ⟨ended, going⟩ := not_or.mp closed
      have unended : (cluster.sites op).shut = false := by
        cases shut : (cluster.sites op).shut with
        | false => rfl
        | true => exact absurd ((site.shown job held).mpr shut) ended
      have jobs : (cluster.sites op).jobs = 1 := site.held (by simp [held])
      apply sound.change
      · refine { site with
          held := fun _ => jobs, number := ?_, shown := ?_, forgotten := ?_, ends := fun _ => jobs,
          unlaunched := ?_ }
        · rintro shown ⟨⟩
          exact site.number job held
        · rintro shown ⟨⟩
          simp [unended]
        · intro _ unheld
          cases unheld
        · rintro shown ⟨⟩
          exact fun pending => absurd pending going
      · exact fun pid => { Site.Grows.refl _ pid with shut := fun shut => by simp [shut] }
      · intro pid process found isOp
        refine ⟨fun _ _ _ _ _ _ _ => id, ?_, ?_⟩
        · intro _ _ _ _ _ _ _ _ _
          simp
        · intro op' number stage isTask shut _
          have shows : status.ended = true := by simpa [unended] using shut
          have holds := sound.tasks pid process found
          obtain ⟨task, alive⟩ := process
          cases isTask
          obtain rfl : op' = op := isOp
          obtain rfl : number = 1 := holds.1
          have isNumber := site.number job held
          exact faithful shows job held pid _ stage found (by rw [isNumber])

theorem forget (sound : cluster.Sound)
    (orderly : cluster.Orderly (.forget op : Move Op Digest Record)) :
    (cluster.step (.forget op)).Sound := by
  have site := sound.sites op
  have told (jobs : (cluster.sites op).jobs = 1) : (cluster.sites op).evidence ≠ [] := by
    by_cases held : (cluster.sites op).job = none
    · exact site.forgotten jobs held
    · exact (orderly.2 held).1
  apply sound.change
  · exact { site with
      held := fun held => absurd rfl held
      number := nofun
      shown := nofun
      forgotten := fun jobs _ => told jobs
      unlaunched := nofun }
  · exact fun pid => { Site.Grows.refl _ pid with }
  · intro pid process found isOp
    refine ⟨fun _ _ _ _ _ _ _ => id, ?_, ?_⟩
    · rintro op' request late stage rfl sendable unaware held jobs
      obtain rfl : op' = op := isOp
      exact absurd ⟨request, late, stage, found, sendable, unaware⟩ ((orderly.2 (held jobs)).2 pid)
    · intro _ _ _ _ shut unended
      have isOver : (cluster.sites op).shut = true := shut
      rw [unended] at isOver
      cases isOver

/-- A supervisor that the signal kills has started no worker and will not. -/
theorem terminate (sound : cluster.Sound) : (cluster.step (.terminate pid)).Sound := by
  delta Cluster.step
  dsimp only
  split
  · rename_i process running
    split_ifs with stopping
    · have holds := sound.tasks pid process running
      obtain ⟨task, alive⟩ := process
      unfold Cluster.terminate
      split
      · rename_i op job supervisor going isTask
        cases isTask
        have site := sound.sites op
        obtain ⟨isOne, ⟨warned, isWarned, barred⟩, fits, ends⟩ := holds
        split_ifs
        · apply sound.change
          · exact { site with
              heeded := fun _ => rfl
              stopped := fun stopping => ⟨rfl, (site.stopped stopping).2⟩ }
          · exact fun pid => { Site.Grows.refl _ pid with request := fun _ => rfl }
          · exact fun _ _ _ _ => .of_same rfl rfl rfl rfl
        · have isTrue : warned = true := by
            cases warned with
            | true => rfl
            | false => exact absurd isWarned (site.stopped stopping).2
          exact sound.put ⟨isOne, ⟨warned, isWarned, barred⟩,
            { fits with killed := fun _ => (barred isTrue).2 }, fun _ => rfl⟩
      · rename_i op job stage elsewhere going isTask
        cases isTask
        obtain ⟨isOne, warned, fits, ends⟩ := holds
        cases stage with
        | supervising supervisor => exact (elsewhere _ rfl).elim
        | claiming | exited => exact sound.put ⟨isOne, warned, trivial, fun _ => rfl⟩
        | readingPlan => exact sound.put ⟨isOne, warned, fits, fun _ => rfl⟩
      · exact sound
    · exact sound
  · exact sound

theorem exit (sound : cluster.Sound) {code : Int} : (cluster.step (.exit pid code)).Sound := by
  delta Cluster.step
  dsimp only
  split
  · rename_i process running
    have holds := sound.tasks pid process running
    obtain ⟨task, alive⟩ := process
    cases task with
    | submit | lookup | status | cancel => exact sound.put holds
    | run op job stage =>
        cases stage with
        | claiming | readingPlan | exited => exact sound.put holds
        | supervising supervisor =>
            obtain ⟨isOne, ⟨warned, isWarned, barred⟩, fits, ends⟩ := holds
            refine sound.put ⟨isOne, ⟨warned, isWarned, ?_⟩, ⟨fits.owner, fits.fits.exitWorker code,
              fits.before, fits.behind, ?_⟩, ?_⟩
            · intro isTrue
              exact ⟨(barred isTrue).1, by simp [Supervisor.exitWorker, (barred isTrue).2]⟩
            · intro dead
              simp [Supervisor.exitWorker, fits.killed dead]
            · intro shut
              have isGone := ends shut
              cases alive with
              | false => rfl
              | true => exact isGone
  · exact sound

theorem step (sound : cluster.Sound) {move : Move Op Digest Record}
    (orderly : cluster.Orderly move) : (cluster.step move).Sound := by
  cases move with
  | submit pid op request =>
      exact sound.start (.of_off (fun isLate => of_decide_eq_true isLate) rfl)
  | lookup pid op => exact sound.start ⟨fun isLate => of_decide_eq_true isLate, trivial⟩
  | getStatus pid op => exact sound.start trivial
  | cancel pid target op => exact sound.start trivial
  | act pid given link => exact sound.act orderly
  | crash pid => exact sound.crash
  | launch pid op => exact sound.launch
  | report op status exitCode => exact sound.report orderly.1
  | terminate pid => exact sound.terminate
  | forget op => exact sound.forget orderly
  | exit pid code => exact sound.exit

theorem of_reaches {later : Cluster Op Digest Record} (sound : cluster.Sound)
    (reached : Reaches Cluster.step Orderly cluster later) : later.Sound :=
  reached.invariant sound fun _ _ kept orderly => kept.step orderly

/-! ## What stays -/

/-- What no step takes back. -/
structure Keeps (site site' : Site Digest Record) : Prop where
  rejected : site.rejected ≠ none → site'.rejected ≠ none
  jobs : site.jobs = 1 → site'.jobs = 1
  isOver : site.Over → site'.Over
  workers : site.Over → site'.workers = site.workers

omit [DecidableEq Digest] in
theorem Keeps.refl (site : Site Digest Record) : Keeps site site := ⟨id, id, id, fun _ => rfl⟩

omit [DecidableEq Digest] in
theorem Keeps.of_grows {site site' : Site Digest Record} (grows : site.Grows site' pid)
    (workers : site.Over → site'.workers = site.workers) : Keeps site site' :=
  ⟨grows.rejected, grows.jobs, grows.isOver, workers⟩

omit [DecidableEq Digest] in
theorem keeps_write {site : Site Digest Record} (keeps : Keeps (cluster.sites op) site)
    (other : Op) :
    Keeps (cluster.sites other) ((cluster.write op site).sites other) := by
  by_cases same : other = op
  · subst same
    simpa [Cluster.write] using keeps
  · simpa [Cluster.write, same] using Keeps.refl (cluster.sites other)

theorem submitStep_workers (claimed : Bool) (request : Request Digest) (link : Link)
    (stage : SubmitStage) (site : Site Digest Record) :
    (submitStep claimed request link stage site).2.workers = site.workers := by
  cases stage with
  | readingRejected | asking | confirming | readingAccepted | readingPlan | submitting =>
      simp only [submitStep]
      split <;> rfl
  | _ => rfl

omit [DecidableEq Digest] in
theorem cancelStep_workers (link : Link) (stage : CancelStage) (site : Site Digest Record) :
    (cancelStep link stage site).2.workers = site.workers := by
  cases stage with
  | asking | stopping =>
      simp only [cancelStep]
      split <;> rfl
  | _ => rfl

omit [DecidableEq Op] [DecidableEq Digest] in
/-- The supervisor of a workload that is over starts nothing. -/
theorem runStep_workers {site : Site Digest Record} {job : Nat} {given : Given Record}
    {stage : RunStage} (holds : (⟨.run op job stage, true⟩ : Process Op Digest).Holds site pid)
    (isOver : site.Over) : (runStep given pid stage site).2.workers = site.workers := by
  obtain ⟨isOne, jobs, fits, ends⟩ := holds
  cases stage with
  | claiming | readingPlan =>
      simp only [runStep]
      split <;> rfl
  | exited code => rfl
  | supervising supervisor =>
      have exited : supervisor.exited = true := isOver.elim fits.behind ends
      have idle : starts given supervisor = false := by
        by_contra begins
        rw [Bool.not_eq_false] at begins
        have moved := supervisor.past_of_starts given site.files begins
        rw [supervisor.step_exited given site.files exited,
          supervisor.mayStart_of_starts given begins] at moved
        cases moved
      simp [runStep, idle]

theorem step_keeps (sound : cluster.Sound) {move : Move Op Digest Record}
    (orderly : cluster.Orderly move) (other : Op) :
    Keeps (cluster.sites other) ((cluster.step move).sites other) := by
  have starting (pid : Nat) (task : Task Op Digest) :
      Keeps (cluster.sites other) ((cluster.start pid task).sites other) := by
    unfold Cluster.start
    split
    · exact .refl _
    · exact .refl _
  cases move with
  | submit pid | lookup pid | getStatus pid | cancel pid => exact starting pid _
  | act pid given link =>
      simp only [Cluster.step]
      split
      · rename_i task running
        have holds := sound.tasks pid _ running
        cases task with
        | submit op request late stage =>
            by_cases rejects : ∃ detail, stage = .rejecting detail
            · obtain ⟨detail, rfl⟩ := rejects
              exact keeps_write (.of_grows (rejecting_grows _ pid) fun _ => rfl) other
            · have steps := @submitStep_steps Op Digest Record (cluster.sites op) pid request late
                stage _ op (cluster.claims op).isSome link (sound.sites op) holds
                fun detail isDetail => rejects ⟨detail, isDetail⟩
              exact keeps_write (.of_grows steps.grows fun _ => submitStep_workers ..) other
        | lookup | status => exact .refl _
        | cancel target op stage =>
            simp only [Cluster.advance]
            split_ifs
            · exact .refl _
            · have steps := @cancelStep_steps Op Digest Record (cluster.sites target) pid target op
                link stage (sound.sites target) holds
              exact keeps_write (.of_grows steps.grows fun _ => cancelStep_workers ..) other
        | run op job stage =>
            have steps := @runStep_steps Op Digest Record (cluster.sites op) pid op job given stage
              (sound.sites op) holds fun supervisor signalled worker isStage =>
                orderly.2.2 op job supervisor signalled worker (isStage ▸ running)
            exact keeps_write (.of_grows steps.grows (runStep_workers holds)) other
      · exact .refl _
  | crash | exit =>
      simp only [Cluster.step]
      split
      · exact .refl _
      · exact .refl _
  | launch pid op =>
      simp only [Cluster.step, Cluster.launch]
      split
      · exact .refl _
      · split_ifs
        · have kept : Keeps (cluster.sites op) { cluster.sites op with
              warned := (cluster.sites op).warned.or
                (some (cluster.sites op).files.cancelRequest) } := ⟨id, id, id, fun _ => rfl⟩
          unfold Cluster.start
          split
          · exact keeps_write kept other
          · exact keeps_write kept other
        · exact .refl _
  | report op status exitCode =>
      simp only [Cluster.step, Cluster.report]
      split
      · exact .refl _
      · split_ifs
        · exact .refl _
        · apply keeps_write
          refine ⟨id, id, ?_, fun _ => rfl⟩
          rintro (finished | shut)
          · exact .inl finished
          · exact .inr (by simp [shut])
  | terminate pid =>
      simp only [Cluster.step]
      split
      · split_ifs
        · unfold Cluster.terminate
          split
          · split_ifs
            · apply keeps_write
              exact ⟨id, id, id, fun _ => rfl⟩
            · exact .refl _
          · exact .refl _
          · exact .refl _
        · exact .refl _
      · exact .refl _
  | forget op =>
      apply keeps_write
      exact ⟨id, id, id, fun _ => rfl⟩

theorem keeps {later : Cluster Op Digest Record} (sound : cluster.Sound)
    (reached : Reaches Cluster.step Orderly cluster later) (op : Op) :
    Keeps (cluster.sites op) (later.sites op) := by
  have kept : later.Sound ∧ Keeps (cluster.sites op) (later.sites op) := by
    apply reached.invariant ⟨sound, .refl _⟩
    rintro between move ⟨sound', before⟩ orderly
    have next := sound'.step_keeps orderly op
    exact ⟨sound'.step orderly, fun rejected => next.rejected (before.rejected rejected),
      fun jobs => next.jobs (before.jobs jobs), fun isOver => next.isOver (before.isOver isOver),
      fun isOver => (next.workers (before.isOver isOver)).trans (before.workers isOver)⟩
  exact kept.2

end Sound

/-- A worker of the operation is running. -/
def Running (cluster : Cluster Op Digest Record) (op : Op) : Prop :=
  ∃ pid job supervisor alive worker,
    cluster.processes pid = some ⟨.run op job (.supervising supervisor), alive⟩ ∧
      supervisor.child = some worker ∧ worker.life = .running

theorem Sound.not_running {cluster : Cluster Op Digest Record} {op : Op} (sound : cluster.Sound)
    (isOver : (cluster.sites op).Over) : ¬cluster.Running op := by
  rintro ⟨pid, job, supervisor, alive, worker, running, isChild, lives⟩
  obtain ⟨-, -, fits, ends⟩ := sound.tasks pid _ running
  cases alive with
  | false =>
      rw [fits.killed rfl] at isChild
      cases isChild
  | true =>
      have exited : supervisor.exited = true := isOver.elim fits.behind ends
      exact fits.fits.not_running exited isChild lives

/-- The status a call has reported. -/
def Reported (cluster : Cluster Op Digest Record) (op : Op) (status : RuntimeStatus) : Prop :=
  ∃ pid alive,
    cluster.processes pid = some ⟨.status op (.answered status), alive⟩ ∨
      ∃ late,
        cluster.processes pid = some ⟨.lookup op late (.answered (some (.accepted status))),
          alive⟩ ∨
        cluster.processes pid = some ⟨.lookup op late (.answered (some (.completed status))), alive⟩

theorem Sound.over_of_reported {cluster : Cluster Op Digest Record} {op : Op}
    {status : RuntimeStatus} (sound : cluster.Sound) (reported : cluster.Reported op status)
    (isTerminal : terminal status = true) : (cluster.sites op).Over := by
  obtain ⟨pid, alive, answered | ⟨late, answered | answered⟩⟩ := reported
  · have holds : StatusStage.Fits (cluster.sites op) (.answered status) :=
      sound.tasks pid _ answered
    exact holds isTerminal
  · have holds : terminal status = false := (sound.tasks pid _ answered).2
    rw [isTerminal] at holds
    cases holds
  · exact (sound.tasks pid _ answered).2

end Cluster

variable [DecidableEq Op] [DecidableEq Digest]

open Cluster in
/-- However controllers, supervisors and Ray interleave, an operation has at most one worker; once
it was started, its id is not submitted again, no call that begins then submits, and no lookup that
begins then answers none or rejected; a rejected operation has no job, ever; and when an ending is
reported no worker of the operation is running and none starts any more. -/
theorem one_worker_per_ray_operation {cluster : Cluster Op Digest Record}
    (reached : Reaches Cluster.step Orderly Cluster.empty cluster) :
    (∀ op, (cluster.sites op).workers ≤ 1) ∧
    (∀ op, 0 < (cluster.sites op).workers → ∀ later, Reaches Cluster.step Orderly cluster later →
      (cluster.sites op).jobs = 1 ∧ (later.sites op).jobs = 1) ∧
    (∀ pid op request stage alive,
      cluster.processes pid = some ⟨.submit op request true stage, alive⟩ → stage ≠ .submitting) ∧
    (∀ pid op outcome alive,
      cluster.processes pid = some ⟨.lookup op true (.answered outcome), alive⟩ →
        outcome ≠ none ∧ ∀ detail, outcome ≠ some (.rejected detail)) ∧
    (∀ op, (cluster.sites op).rejected ≠ none →
      ∀ later, Reaches Cluster.step Orderly cluster later → (later.sites op).jobs = 0) ∧
    (∀ pid op late detail alive,
      cluster.processes pid = some ⟨.lookup op late (.answered (some (.rejected detail))), alive⟩ →
        ∀ later, Reaches Cluster.step Orderly cluster later → (later.sites op).jobs = 0) ∧
    ∀ op status, cluster.Reported op status → terminal status = true →
      ∀ later, Reaches Cluster.step Orderly cluster later →
        ¬later.Running op ∧ (later.sites op).workers = (cluster.sites op).workers := by
  have sound := Sound.empty.of_reaches reached
  have never (op : Op) (rejected : (cluster.sites op).rejected ≠ none)
      (later : Cluster Op Digest Record) (onward : Reaches Cluster.step Orderly cluster later) :
      (later.sites op).jobs = 0 :=
    ((sound.of_reaches onward).sites op).rejected ((sound.keeps onward op).rejected rejected)
  refine ⟨fun op => (sound.sites op).once, ?_, ?_, ?_, never, ?_, ?_⟩
  · intro op started later onward
    have jobs := (sound.sites op).jobs_of_workers started
    exact ⟨jobs, (sound.keeps onward op).jobs jobs⟩
  · rintro pid op request stage alive running rfl
    have holds := (sound.tasks pid _ running).apart rfl
    cases holds
  · intro pid op outcome alive answered
    obtain ⟨started, fits⟩ := sound.tasks pid _ answered
    constructor
    · rintro rfl
      cases fits
    · rintro detail rfl
      have jobs := (sound.sites op).jobs_of_workers (started rfl)
      rw [(sound.sites op).rejected fits] at jobs
      cases jobs
  · intro pid op late detail alive answered
    exact never op (sound.tasks pid _ answered).2
  · intro op status reported isTerminal later onward
    have isOver := sound.over_of_reported reported isTerminal
    have keeps := sound.keeps onward op
    exact ⟨(sound.of_reaches onward).not_running (keeps.isOver isOver), keeps.workers isOver⟩

/-! ## Runs on fixed inputs -/

/-- The process a move is about. -/
def Move.pid : Move Op Digest Record → Option Nat
  | .submit pid _ _ | .lookup pid _ | .getStatus pid _ | .cancel pid _ _ | .act pid _ _ | .crash pid
  | .launch pid _ | .terminate pid | .exit pid _ => some pid
  | .report _ _ _ | .forget _ => none

namespace Cluster

variable {cluster : Cluster Op Digest Record}

theorem step_processes {move : Move Op Digest Record} {pid : Nat} (apart : move.pid ≠ some pid) :
    (cluster.step move).processes pid = cluster.processes pid := by
  have put (other : Nat) (process : Process Op Digest) (state : Cluster Op Digest Record)
      (differs : other ≠ pid) : (state.put other process).processes pid = state.processes pid :=
    Function.update_of_ne (Ne.symm differs) ..
  have start (other : Nat) (task : Task Op Digest) (state : Cluster Op Digest Record)
      (differs : other ≠ pid) : (state.start other task).processes pid = state.processes pid := by
    unfold Cluster.start
    split
    · exact put other _ _ differs
    · rfl
  have differs (other : Nat) (isPid : move.pid = some other) : other ≠ pid := by
    rintro rfl
    exact apart isPid
  cases move with
  | submit other | lookup other | getStatus other | cancel other =>
      exact start other _ _ (differs other rfl)
  | act other given link =>
      simp only [Cluster.step]
      split
      · rename_i task running
        cases task with
        | submit | lookup | status | run => exact put other _ _ (differs other rfl)
        | cancel target op stage =>
            simp only [Cluster.advance]
            split_ifs
            · exact put other _ _ (differs other rfl)
            · exact put other _ _ (differs other rfl)
      · rfl
  | crash other | exit other =>
      simp only [Cluster.step]
      split
      · exact put other _ _ (differs other rfl)
      · rfl
  | launch other op =>
      simp only [Cluster.step, Cluster.launch]
      split
      · rfl
      · split_ifs
        · exact start other _ _ (differs other rfl)
        · rfl
  | report op status exitCode =>
      simp only [Cluster.step, Cluster.report]
      split
      · rfl
      · split_ifs
        · rfl
        · rfl
  | terminate other =>
      simp only [Cluster.step]
      split
      · split_ifs
        · unfold Cluster.terminate
          split
          · split_ifs
            · rfl
            · exact put other _ _ (differs other rfl)
          · exact put other _ _ (differs other rfl)
          · rfl
        · rfl
      · rfl
  | forget op => rfl

theorem follow_processes {moves : List (Move Op Digest Record)} {pid : Nat}
    (apart : pid ∉ moves.filterMap Move.pid) :
    (follow Cluster.step moves cluster).processes pid = cluster.processes pid := by
  induction moves generalizing cluster with
  | nil => rfl
  | cons move rest ih =>
      have elsewhere : move.pid ≠ some pid ∧ pid ∉ rest.filterMap Move.pid := by
        constructor
        · intro isPid
          exact apart (List.mem_filterMap.mpr ⟨move, List.mem_cons_self, isPid⟩)
        · intro member
          obtain ⟨other, isOther, isPid⟩ := List.mem_filterMap.mp member
          exact apart (List.mem_filterMap.mpr ⟨other, List.mem_cons_of_mem _ isOther, isPid⟩)
      rw [follow, ih elsewhere.2, step_processes elsewhere.1]

/-- A run is looked through for supervisors that are left. -/
theorem gone_of_follow {moves : List (Move Op Digest Record)} {op : Op} {job : Nat}
    (checked : ∀ pid ∈ moves.filterMap Move.pid,
      ((follow Cluster.step moves .empty).processes pid).all Process.gone = true) :
    (follow Cluster.step moves .empty).Gone op job := by
  intro pid process stage found isRun
  by_cases moved : pid ∈ moves.filterMap Move.pid
  · have all := checked pid moved
    rw [found] at all
    exact all
  · rw [follow_processes moved] at found
    cases found

/-- A move that every cluster allows. -/
def plain (cluster : Cluster Op Digest Record) : Move Op Digest Record → Bool
  | .act pid given _ =>
      match cluster.processes pid with
      | some ⟨.submit _ _ _ (.rejecting _), true⟩ => false
      | _ => !given.raised
  | .report _ status _ => !status.ended
  | .forget _ => false
  | _ => true

omit [DecidableEq Op] [DecidableEq Digest] in
theorem orderly_of_plain {move : Move Op Digest Record} (isPlain : cluster.plain move = true) :
    cluster.Orderly move := by
  cases move with
  | act pid given link =>
      refine ⟨trivial, ?_, ?_⟩
      · intro op request late detail running
        simp [plain, running] at isPlain
      · intro op job supervisor signalled worker running _ raises
        simp [plain, running, raises] at isPlain
  | report op status exitCode =>
      refine ⟨?_, trivial⟩
      intro ended
      simp [plain, ended] at isPlain
  | forget => cases isPlain
  | _ => exact ⟨trivial, trivial⟩

theorem permits_of_plain {moves : List (Move Op Digest Record)}
    (isPlain : Library.Permits Cluster.step (fun cluster move => cluster.plain move = true) moves
      cluster) : Library.Permits Cluster.step Orderly moves cluster := by
  induction moves generalizing cluster with
  | nil => trivial
  | cons move rest ih => exact ⟨orderly_of_plain isPlain.1, ih isPlain.2⟩

end Cluster

abbrev TextMove : Type := Move Nat String String

/-- A plan of a digest, refused or not. -/
def textRequest (digest : String) (refusal : Option String) : Request String :=
  ⟨⟨digest, "environment", none⟩, refusal, none⟩

def acts (pid count : Nat) : List TextMove :=
  List.replicate count (.act pid ⟨.ok 41, [], 0, false⟩ .answered)

/-- A call submits the plan, and Ray runs the supervisor, which comes to the loop over its
worker. -/
def submitted : List TextMove :=
  .submit 1 7 (textRequest "train" none) :: acts 1 12 ++ .report 7 .running none :: .launch 10 7 ::
    acts 10 9

/-- The worker exits by itself, and a lookup asks for its ending. -/
def finishedRun : List TextMove :=
  submitted ++ .exit 10 0 :: acts 10 5 ++ .lookup 5 7 :: acts 5 4

theorem one_worker_per_ray_operation_finished :
    ∃ cluster : Cluster Nat String String,
      Reaches Cluster.step Cluster.Orderly Cluster.empty cluster ∧
        cluster.Reported 7 ⟨.succeeded, some 0, none⟩ ∧ (cluster.sites 7).workers = 1 ∧
        ¬cluster.Running 7 ∧ (cluster.sites 7).jobs = 1 := by
  have reached : Reaches Cluster.step Cluster.Orderly (Cluster.empty : Cluster Nat String String)
      (follow Cluster.step finishedRun Cluster.empty) :=
    Reaches.start.follow finishedRun (Cluster.permits_of_plain (by decide))
  have reported : (follow Cluster.step finishedRun Cluster.empty).Reported 7
      ⟨.succeeded, some 0, none⟩ :=
    ⟨5, true, .inr ⟨true, .inr (by decide)⟩⟩
  have started : ((follow Cluster.step finishedRun Cluster.empty).sites 7).workers = 1 := by decide
  obtain ⟨-, once, -, -, -, -, ended⟩ := one_worker_per_ray_operation reached
  exact ⟨_, reached, reported, started, (ended 7 _ reported rfl _ .start).1,
    (once 7 (by rw [started]; decide) _ .start).1⟩

/-- What the worker has written makes the read of its observations raise. -/
def raisedEarly : List TextMove :=
  submitted ++ acts 10 1 ++ [.act 10 ⟨.ok 41, [], 0, true⟩ .answered, .crash 1]

/-- A refused plan comes under the id of a workload that runs. -/
def rejectedLate : List TextMove :=
  submitted ++ .submit 4 7 (textRequest "other" (some "refused")) ::
    acts 4 3 ++ .lookup 5 7 :: acts 5 1

/-- A call that has found no record of the job is about to submit. -/
def unrecorded : List TextMove :=
  .submit 1 7 (textRequest "train" none) :: acts 1 9 ++ .submit 2 7 (textRequest "train" none) ::
    acts 2 8 ++ acts 1 1 ++ .report 7 .running none :: .launch 10 7 :: acts 10 6

def unreported : TextMove → Bool
  | .report _ status _ => !status.ended
  | _ => true

theorem reaches_faithful {moves : List TextMove} {start cluster : Cluster Nat String String}
    (reached : Reaches Cluster.step Cluster.Faithful start cluster)
    (permitted : ∀ move ∈ moves, unreported move = true) :
    Reaches Cluster.step Cluster.Faithful start (follow Cluster.step moves cluster) := by
  induction moves generalizing cluster with
  | nil => exact reached
  | cons move rest ih =>
      refine ih (reached.next ?_) fun other member =>
        permitted other (List.mem_cons_of_mem _ member)
      have isUnreported := permitted move List.mem_cons_self
      cases move with
      | report op status exitCode =>
          intro ended
          simp [unreported, ended] at isUnreported
      | _ => trivial

/-- Ray has shown the job failed, and `get_status` is asked. -/
def failedEarly : Cluster Nat String String :=
  follow Cluster.step (.getStatus 3 7 :: acts 3 6)
    (Cluster.step (.report 7 .failed (some 1)) (follow Cluster.step raisedEarly Cluster.empty))

theorem reaches_failedEarly :
    Reaches Cluster.step Cluster.Faithful Cluster.empty failedEarly := by
  have raised : Reaches Cluster.step Cluster.Faithful Cluster.empty
      (follow Cluster.step raisedEarly Cluster.empty) := reaches_faithful .start (by decide)
  have faithful : (follow Cluster.step raisedEarly Cluster.empty).Faithful
      (.report 7 .failed (some 1)) :=
    fun _ _ _ => Cluster.gone_of_follow (by decide)
  exact reaches_faithful (raised.next faithful) (by decide)

/-- A failed workload whose worker runs on; a lookup that rejects a workload whose worker was
started before it; and an id submitted again behind the start of its worker. -/
theorem ray_operation_out_of_order :
    (∃ cluster : Cluster Nat String String,
      Reaches Cluster.step Cluster.Faithful Cluster.empty cluster ∧
        cluster.Reported 7 ⟨.failed, some 1,
          some "the job failed before its supervisor recorded an ending"⟩ ∧ cluster.Running 7) ∧
    (∃ cluster : Cluster Nat String String,
      Reaches Cluster.step Cluster.Faithful Cluster.empty cluster ∧
        cluster.processes 5 =
          some ⟨.lookup 7 true (.answered (some (.rejected "refused"))), true⟩ ∧
        (cluster.sites 7).jobs = 1 ∧ (cluster.sites 7).workers = 1) ∧
    ∃ cluster later : Cluster Nat String String,
      Reaches Cluster.step Cluster.Faithful Cluster.empty cluster ∧
        Reaches Cluster.step Cluster.Faithful cluster later ∧
        (cluster.sites 7).workers = 1 ∧ (cluster.sites 7).jobs = 1 ∧ (later.sites 7).jobs = 2 := by
  refine ⟨⟨failedEarly, reaches_failedEarly, ⟨3, true, .inl (by decide)⟩, ?_⟩,
    ⟨follow Cluster.step rejectedLate Cluster.empty, reaches_faithful .start (by decide), by decide,
      by decide, by decide⟩,
    follow Cluster.step unrecorded Cluster.empty,
    follow Cluster.step (.forget 7 :: acts 2 1) (follow Cluster.step unrecorded Cluster.empty),
    reaches_faithful .start (by decide), reaches_faithful .start (by decide), by decide, by decide,
    by decide⟩
  have running : failedEarly.processes 10 = some ⟨.run 7 1 (.supervising
      ⟨10, .raised, ⟨0, 1⟩, true, some ⟨41, .running, []⟩, false⟩), true⟩ := by decide
  exact ⟨10, 1, _, true, _, running, rfl, rfl⟩

end Xaytune.Ray.Jobs
