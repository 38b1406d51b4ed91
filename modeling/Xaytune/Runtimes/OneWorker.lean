import Xaytune.Runtimes.Local

/-!
# One worker per operation on the local runtime

What every process knows of the registry and the files is never taken back, so it is enough to
say of each task what holds at its stage, and that each step only adds. The launcher's claim of
its workload is the one step two processes compete for; the worker is started behind it.
-/

namespace Xaytune.Runtimes

open Xaytune.Library (Reaches)

variable {Op Plan Digest Record : Type} {backend : Backend Op Plan Digest}

theorem differing_eq_nil [DecidableEq Digest] {record : OperationRecord Op Digest}
    {operationType : OperationType}
    {requestDigest : Digest} : differing record operationType requestDigest = [] ↔
      record.operationType = operationType ∧ record.requestDigest = requestDigest := by
  simp [differing]

/-- What one step may do to the registry and the files: rows stay, an owner stays the owner, a
request for cancellation stays. -/
structure Root.Grows (root root' : Root Op Plan Digest Record) : Prop where
  operations : ∀ op record, root.registry.operations op = some record →
    root'.registry.operations op = some record
  workloads : ∀ op record, root.registry.workloads op = some record →
    ∃ record', root'.registry.workloads op = some record' ∧
      ∀ pid, record.launcherPid = some pid → record'.launcherPid = some pid
  cancelRequest : ∀ op, (root.files op).cancelRequest = true →
    (root'.files op).cancelRequest = true

/-- Every workload belongs to the submission that has its id. -/
def Root.Registered (root : Root Op Plan Digest Record) : Prop :=
  ∀ op, root.registry.workloads op ≠ none → ∃ record,
    root.registry.operations op = some record ∧ record.operationType = .submit ∧
      record.effect = .workload op

/-- The operation is recorded as this submission. -/
def Root.Submitted (root : Root Op Plan Digest Record) (op : Op) (requestDigest : Digest) : Prop :=
  ∃ record, root.registry.operations op = some record ∧ record.operationType = .submit ∧
    record.requestDigest = requestDigest

def SubmitError.isConflict : SubmitError → Bool
  | .idempotencyConflict _ => true
  | _ => false

def SubmitStage.Holds (root : Root Op Plan Digest Record) (op : Op) (requestDigest : Digest) :
    SubmitStage → Prop
  | .recording => True
  | .rereading | .returned => root.Submitted op requestDigest
  | .readingWorkload => root.Submitted op requestDigest
  | .readingStarted | .makingDirectory | .writingPlan | .spawning | .recordingPid _ =>
      root.Submitted op requestDigest ∧ root.registry.workloads op ≠ none
  | .raised error => ∃ record, root.registry.operations op = some record ∧
      (error.isConflict = true ↔
        ¬(record.operationType = .submit ∧ record.requestDigest = requestDigest))

def CancelStage.Holds (root : Root Op Plan Digest Record) (externalId : Op) : CancelStage → Prop
  | .returned => (root.files externalId).cancelRequest = true
  | _ => True

def LaunchStage.Holds (root : Root Op Plan Digest Record) (pid : Nat) (op : Op) :
    LaunchStage → Prop
  | .supervising _ => ∃ record, root.registry.workloads op = some record ∧
      record.launcherPid = some pid
  | _ => root.registry.workloads op ≠ none

def Task.Holds (backend : Backend Op Plan Digest) (root : Root Op Plan Digest Record) (pid : Nat) :
    Task Op Plan → Prop
  | .submit op plan stage => stage.Holds root op (backend.requestDigest plan)
  | .cancel externalId _ stage => stage.Holds root externalId
  | .launch op stage => stage.Holds root pid op

namespace Root.Grows

variable {root root' root'' : Root Op Plan Digest Record}

theorem refl (root : Root Op Plan Digest Record) : root.Grows root :=
  ⟨fun _ _ => id, fun _ record found => ⟨record, found, fun _ => id⟩, fun _ => id⟩

theorem trans (first : root.Grows root') (second : root'.Grows root'') : root.Grows root'' := by
  refine ⟨?_, ?_, ?_⟩
  · intro op record found
    exact second.operations op record (first.operations op record found)
  · intro op record found
    obtain ⟨record', found', kept⟩ := first.workloads op record found
    obtain ⟨record'', found'', kept'⟩ := second.workloads op record' found'
    exact ⟨record'', found'', fun pid owner => kept' pid (kept pid owner)⟩
  · intro op requested
    exact second.cancelRequest op (first.cancelRequest op requested)

theorem submitted (grows : root.Grows root') {op : Op} {requestDigest : Digest}
    (submitted : root.Submitted op requestDigest) : root'.Submitted op requestDigest := by
  obtain ⟨record, found, same⟩ := submitted
  exact ⟨record, grows.operations op record found, same⟩

theorem workload (grows : root.Grows root') {op : Op}
    (stored : root.registry.workloads op ≠ none) : root'.registry.workloads op ≠ none := by
  obtain ⟨record, found⟩ := Option.ne_none_iff_exists'.mp stored
  obtain ⟨record', found', -⟩ := grows.workloads op record found
  simp [found']

theorem task (grows : root.Grows root') {pid : Nat} {task : Task Op Plan}
    (holds : task.Holds backend root pid) : task.Holds backend root' pid := by
  cases task with
  | submit op plan stage =>
      cases stage with
      | recording => trivial
      | rereading | returned | readingWorkload => exact grows.submitted holds
      | readingStarted | makingDirectory | writingPlan | spawning | recordingPid _ =>
          exact ⟨grows.submitted holds.1, grows.workload holds.2⟩
      | raised error =>
          obtain ⟨record, found, same⟩ := holds
          exact ⟨record, grows.operations op record found, same⟩
  | cancel externalId op stage =>
      cases stage with
      | returned => exact grows.cancelRequest externalId holds
      | _ => trivial
  | launch op stage =>
      cases stage with
      | supervising supervisor =>
          obtain ⟨record, found, owner⟩ := holds
          obtain ⟨record', found', kept⟩ := grows.workloads op record found
          exact ⟨record', found', kept pid owner⟩
      | _ => exact grows.workload holds

end Root.Grows

/-- A step that a task takes: the root grows, stays registered, and the task's next stage holds. -/
structure Root.Takes (backend : Backend Op Plan Digest) (root root' : Root Op Plan Digest Record)
    (pid : Nat) (task : Task Op Plan) : Prop where
  grows : root.Grows root'
  registered : root'.Registered
  holds : task.Holds backend root' pid

variable {root : Root Op Plan Digest Record} {op : Op} {pid : Nat}

/-- Rows and requests are where they were. -/
theorem Root.Takes.of_same {root' : Root Op Plan Digest Record} {task : Task Op Plan}
    (registered : root.Registered) (registry : root'.registry = root.registry)
    (files : root'.files = root.files) (holds : task.Holds backend root' pid) :
    root.Takes backend root' pid task := by
  refine ⟨⟨?_, ?_, ?_⟩, ?_, holds⟩
  · intro op record found
    rw [registry]
    exact found
  · intro op record found
    exact ⟨record, by rw [registry]; exact found, fun _ => id⟩
  · intro op requested
    rw [files]
    exact requested
  · intro op stored
    rw [registry] at stored ⊢
    exact registered op stored

section sameRequest

variable [DecidableEq Digest] {requestDigest : Digest}

theorem sameRequest_holds {record : OperationRecord Op Digest}
    (found : root.registry.operations op = some record) :
    (SubmitStage.ofClaimed (Registry.sameRequest record .submit requestDigest)).Holds root op
      requestDigest := by
  by_cases same : record.operationType = .submit ∧ record.requestDigest = requestDigest
  · have nothing := differing_eq_nil.mpr same
    simp only [Registry.sameRequest, nothing, SubmitStage.ofClaimed, SubmitStage.ofRecord]
    cases effect : record.effect with
    | rejected detail => exact ⟨record, found, by simp [SubmitError.isConflict, same]⟩
    | workload externalId => exact ⟨record, found, same⟩
  · have something := mt differing_eq_nil.mp same
    cases fields : differing record .submit requestDigest with
    | nil => exact absurd fields something
    | cons field rest =>
        simp only [Registry.sameRequest, fields, SubmitStage.ofClaimed]
        exact ⟨record, found, by simpa [SubmitError.isConflict] using same⟩

theorem sameRequest_refused {record : OperationRecord Op Digest} {detail : String}
    (found : root.registry.operations op = some record) :
    (SubmitStage.ofRefused detail (Registry.sameRequest record .submit requestDigest)).Holds root
      op requestDigest := by
  by_cases same : record.operationType = .submit ∧ record.requestDigest = requestDigest
  · have nothing := differing_eq_nil.mpr same
    simp only [Registry.sameRequest, nothing, SubmitStage.ofRefused]
    exact ⟨record, found, by simp [SubmitError.isConflict, same]⟩
  · have something := mt differing_eq_nil.mp same
    cases fields : differing record .submit requestDigest with
    | nil => exact absurd fields something
    | cons field rest =>
        simp only [Registry.sameRequest, fields, SubmitStage.ofRefused]
        exact ⟨record, found, by simpa [SubmitError.isConflict] using same⟩

end sameRequest

variable [DecidableEq Op]

/-- A new row beside the others. -/
theorem Root.Grows.insertOperation (absent : root.registry.operations op = none)
    (record : OperationRecord Op Digest) :
    root.Grows { root with registry := root.registry.insertOperation op record } := by
  refine ⟨?_, fun _ record found => ⟨record, found, fun _ => id⟩, fun _ => id⟩
  intro other stored found
  have apart : other ≠ op := by
    rintro rfl
    cases absent.symm.trans found
  simpa [Registry.insertOperation, apart] using found

theorem Root.Registered.insertOperation (registered : root.Registered)
    (absent : root.registry.operations op = none) (record : OperationRecord Op Digest) :
    Root.Registered { root with registry := root.registry.insertOperation op record } := by
  intro other stored
  obtain ⟨submission, found, submitted⟩ := registered other stored
  exact ⟨submission, (Root.Grows.insertOperation absent record).operations _ _ found, submitted⟩

theorem Root.Grows.updateWorkload {change : WorkloadRecord → WorkloadRecord}
    (keeps : ∀ record pid, record.launcherPid = some pid → (change record).launcherPid = some pid) :
    root.Grows { root with registry := root.registry.updateWorkload op change } := by
  refine ⟨fun _ _ => id, ?_, fun _ => id⟩
  intro other record found
  by_cases same : other = op
  · subst same
    exact ⟨change record, by simp [Registry.updateWorkload, found], keeps record⟩
  · exact ⟨record, by simpa [Registry.updateWorkload, same] using found, fun _ => id⟩

theorem Root.Registered.updateWorkload {change : WorkloadRecord → WorkloadRecord}
    (registered : root.Registered) :
    Root.Registered { root with registry := root.registry.updateWorkload op change } := by
  intro other stored
  apply registered other
  intro absent
  by_cases same : other = op
  · subst same
    simp [Registry.updateWorkload, absent] at stored
  · simp [Registry.updateWorkload, same, absent] at stored

theorem Root.Grows.writeFiles {files : Files Record}
    (kept : (root.files op).cancelRequest = true → files.cancelRequest = true) :
    root.Grows (root.writeFiles op files) := by
  refine ⟨fun _ _ => id, fun _ record found => ⟨record, found, fun _ => id⟩, ?_⟩
  intro other requested
  by_cases same : other = op
  · subst same
    simpa [Root.writeFiles] using kept requested
  · simpa [Root.writeFiles, same] using requested

section calls

variable [DecidableEq Digest]

theorem Root.Takes.claimSubmission (plan : Plan) (registered : root.Registered) :
    root.Takes backend
      { root with registry :=
        (root.registry.claimSubmission op (backend.requestDigest plan)).1 } pid
      (.submit op plan (.ofClaimed
        (root.registry.claimSubmission op (backend.requestDigest plan)).2)) := by
  cases recorded : root.registry.operations op with
  | some record =>
      simp only [Registry.claimSubmission, recorded]
      exact .of_same registered rfl rfl (sameRequest_holds recorded)
  | none =>
      cases stored : root.registry.workloads op with
      | some workload =>
          obtain ⟨record, found, -⟩ := registered op (by simp [stored])
          cases recorded.symm.trans found
      | none =>
          simp only [Registry.claimSubmission, recorded, stored]
          refine ⟨⟨?_, ?_, fun _ => id⟩, ?_, ?_⟩
          · intro other record found
            have apart : other ≠ op := by
              rintro rfl
              cases recorded.symm.trans found
            simpa [apart] using found
          · intro other record found
            have apart : other ≠ op := by
              rintro rfl
              cases stored.symm.trans found
            exact ⟨record, by simpa [apart] using found, fun _ => id⟩
          · intro other kept
            by_cases same : other = op
            · subst same
              exact ⟨_, Function.update_self .., rfl, rfl⟩
            · obtain ⟨record, found, submitted⟩ := registered other (by simpa [same] using kept)
              exact ⟨record, by simpa [same] using found, submitted⟩
          · exact ⟨_, Function.update_self .., rfl, rfl⟩

theorem Root.Takes.recordRejection (plan : Plan) (detail : String) (registered : root.Registered) :
    root.Takes backend
      { root with
        registry := (root.registry.recordRejection op (backend.requestDigest plan) detail).1 } pid
      (.submit op plan (.ofRefused detail
        (root.registry.recordRejection op (backend.requestDigest plan) detail).2)) := by
  cases recorded : root.registry.operations op with
  | some record =>
      simp only [Registry.recordRejection, recorded]
      exact .of_same registered rfl rfl (sameRequest_refused recorded)
  | none =>
      simp only [Registry.recordRejection, recorded]
      refine ⟨.insertOperation recorded _, registered.insertOperation recorded _, ?_⟩
      refine ⟨_, Function.update_self .., ?_⟩
      simp [SubmitError.isConflict]

theorem submitStep_takes (plan : Plan) {stage : SubmitStage} (registered : root.Registered)
    (holds : stage.Holds root op (backend.requestDigest plan)) :
    root.Takes backend (submitStep backend op plan stage root).2 pid
      (.submit op plan (submitStep backend op plan stage root).1) := by
  cases stage with
  | recording =>
      cases refused : backend.refuse plan with
      | none =>
          simp only [submitStep, recordSubmission, refused]
          exact .claimSubmission plan registered
      | some detail =>
          simp only [submitStep, recordSubmission, refused]
          exact .recordRejection plan detail registered
  | rereading =>
      obtain ⟨record, found, same⟩ := holds
      simp only [submitStep, found, SubmitStage.ofRecord]
      cases effect : record.effect with
      | rejected detail =>
          exact .of_same registered rfl rfl
            ⟨record, found, by simp [SubmitError.isConflict, same]⟩
      | workload externalId => exact .of_same registered rfl rfl ⟨record, found, same⟩
  | readingWorkload =>
      cases stored : root.registry.workloads op with
      | none =>
          obtain ⟨record, found, same⟩ := holds
          simp only [submitStep, stored]
          exact .of_same registered rfl rfl
            ⟨record, found, by simp [SubmitError.isConflict, same]⟩
      | some workload =>
          simp only [submitStep, stored]
          split_ifs
          · exact .of_same registered rfl rfl ⟨holds, by simp [stored]⟩
          · exact .of_same registered rfl rfl holds
  | readingStarted =>
      simp only [submitStep]
      split_ifs
      · exact .of_same registered rfl rfl holds
      · exact .of_same registered rfl rfl holds.1
  | makingDirectory | writingPlan | spawning | returned | raised =>
      exact .of_same registered rfl rfl holds
  | recordingPid spawned =>
      have grows : root.Grows (submitStep backend op plan (.recordingPid spawned) root).2 :=
        .updateWorkload fun _ _ => id
      exact ⟨grows, registered.updateWorkload, grows.submitted holds.1⟩

theorem cancelStep_takes {externalId : Op} {stage : CancelStage} (registered : root.Registered)
    (holds : stage.Holds root externalId) :
    root.Takes backend (cancelStep backend externalId op stage root).2 pid
      (.cancel externalId op (cancelStep backend externalId op stage root).1) := by
  cases stage with
  | requiring =>
      cases stored : root.registry.workloads externalId with
      | none | some =>
          simp only [cancelStep, stored]
          exact .of_same registered rfl rfl trivial
  | claiming =>
      have unreturned (claimed : Claimed Op Digest) (root : Root Op Plan Digest Record) :
          (CancelStage.ofClaimed claimed).Holds root externalId := by
        cases claimed <;> trivial
      cases recorded : root.registry.operations op with
      | some record =>
          simp only [cancelStep, Registry.claimCancellation, recorded]
          exact .of_same registered rfl rfl (unreturned _ _)
      | none =>
          simp only [cancelStep, Registry.claimCancellation, recorded]
          exact ⟨.insertOperation recorded _, registered.insertOperation recorded _, trivial⟩
  | noting => exact ⟨.updateWorkload fun _ _ => id, registered.updateWorkload, trivial⟩
  | makingDirectory => exact .of_same registered rfl rfl trivial
  | writing =>
      refine ⟨.writeFiles fun _ => rfl, registered, ?_⟩
      simp [cancelStep, Task.Holds, CancelStage.Holds, Root.requestCancel, Root.writeFiles]
  | returned => exact .of_same registered rfl rfl holds
  | raised error => exact .of_same registered rfl rfl trivial

theorem submitStep_workers (plan : Plan) (stage : SubmitStage) :
    (submitStep backend op plan stage root).2.workers = root.workers := by
  cases stage with
  | rereading | readingWorkload =>
      simp only [submitStep]
      split <;> rfl
  | _ => rfl

theorem cancelStep_workers {externalId : Op} (stage : CancelStage) :
    (cancelStep backend externalId op stage root).2.workers = root.workers := by
  cases stage with
  | requiring =>
      simp only [cancelStep]
      split <;> rfl
  | _ => rfl

end calls

theorem launchStep_takes {given : Given Record} {stage : LaunchStage} (registered : root.Registered)
    (holds : stage.Holds root pid op) :
    root.Takes backend (launchStep given pid op stage root).2 pid
      (.launch op (launchStep given pid op stage root).1) := by
  cases stage with
  | readingPlan =>
      cases plan : root.plans op with
      | none | some =>
          simp only [launchStep, plan]
          exact .of_same registered rfl rfl holds
  | claiming =>
      cases stored : root.registry.workloads op with
      | none => exact absurd stored holds
      | some workload =>
          obtain ⟨spawned, owner, requested⟩ := workload
          cases owner with
          | some other =>
              simp only [launchStep, Registry.claimLauncherOwnership, stored]
              exact .of_same registered rfl rfl holds
          | none =>
              simp only [launchStep, Registry.claimLauncherOwnership, stored]
              refine ⟨⟨fun _ _ => id, ?_, fun _ => id⟩, registered.updateWorkload, ?_⟩
              · intro other record found
                by_cases same : other = op
                · subst same
                  obtain rfl := Option.some.inj (stored.symm.trans found)
                  exact ⟨⟨spawned, some pid, requested⟩,
                    by simp [Registry.updateWorkload, stored], by simp⟩
                · exact ⟨record, by simpa [Registry.updateWorkload, same] using found,
                    fun _ => id⟩
              · exact ⟨⟨spawned, some pid, requested⟩,
                  by simp [Registry.updateWorkload, stored], rfl⟩
  | supervising supervisor =>
      have grows : root.Grows
          (root.writeFiles op (supervisor.step given (root.files op)).2) := by
        apply Root.Grows.writeFiles
        intro requested
        rw [Supervisor.step_cancelRequest]
        exact requested
      exact ⟨⟨grows.operations, grows.workloads, grows.cancelRequest⟩, registered, holds⟩
  | exited code => exact .of_same registered rfl rfl holds

/-- A worker was started by this task, and the task starts no other. -/
def Task.Started (op : Op) : Task Op Plan → Prop
  | .launch externalId (.supervising supervisor) =>
      externalId = op ∧ supervisor.phase.mayStart = false
  | _ => False

/-- The invariant: every task holds, and the worker of an operation belongs to its one owner. -/
structure Host.Sound (backend : Backend Op Plan Digest) (host : Host Op Plan Digest Record) :
    Prop where
  registered : host.root.Registered
  tasks : ∀ pid process, host.processes pid = some process →
    process.task.Holds backend host.root pid
  once : ∀ op, host.root.workers.count op ≤ 1
  started : ∀ op ∈ host.root.workers, ∃ pid process, host.processes pid = some process ∧
    process.task.Started op

namespace Host.Sound

variable {host : Host Op Plan Digest Record}

theorem empty : Sound backend (Host.empty : Host Op Plan Digest Record) where
  registered := fun _ stored => absurd rfl stored
  tasks := by
    intro pid process found
    simp [Host.empty] at found
  once := by simp [Host.empty, Root.empty]
  started := by simp [Host.empty, Root.empty]

/-- A process is replaced while no worker is started. -/
theorem put (sound : Sound backend host) {root : Root Op Plan Digest Record} {task : Task Op Plan}
    (takes : host.root.Takes backend root pid task) (workers : root.workers = host.root.workers)
    (kept : ∀ op process, host.processes pid = some process → process.task.Started op →
      task.Started op) (alive : Bool) :
    Sound backend (Host.put pid ⟨task, alive⟩ { host with root }) := by
  refine ⟨takes.registered, ?_, ?_, ?_⟩
  · intro other process found
    by_cases same : other = pid
    · subst same
      simp only [Host.put, Function.update_self, Option.some.injEq] at found
      subst found
      exact takes.holds
    · simp only [Host.put, Function.update_of_ne same] at found
      exact takes.grows.task (sound.tasks other process found)
  · intro op
    simp only [Host.put, workers]
    exact sound.once op
  · intro op member
    simp only [Host.put, workers] at member
    obtain ⟨other, process, found, started⟩ := sound.started op member
    by_cases same : other = pid
    · subst same
      exact ⟨other, ⟨task, alive⟩, by simp [Host.put], kept op process found started⟩
    · exact ⟨other, process, by simpa [Host.put, same] using found, started⟩

/-- A new process, which has started nothing. -/
theorem start (sound : Sound backend host) {task : Task Op Plan}
    (holds : task.Holds backend host.root pid) : Sound backend (host.start pid task) := by
  unfold Host.start
  split
  · rename_i unused
    refine sound.put (.of_same sound.registered rfl rfl holds) rfl ?_ true
    intro op process found
    cases unused.symm.trans found
  · exact sound

theorem spawn (sound : Sound backend host) {launcher : Nat} {plan : Plan}
    (running : host.processes pid = some ⟨.submit op plan .spawning, true⟩) :
    Sound backend (host.spawn pid launcher op plan) := by
  unfold Host.spawn
  split
  · rename_i unused
    obtain ⟨submitted, stored⟩ : SubmitStage.Holds host.root op _ .spawning :=
      sound.tasks pid _ running
    have recorded : Sound backend
        (host.put pid ⟨.submit op plan (.recordingPid launcher), true⟩) := by
      have holds : (Task.submit op plan (.recordingPid launcher)).Holds backend host.root pid :=
        ⟨submitted, stored⟩
      refine sound.put (.of_same sound.registered rfl rfl holds) rfl ?_ true
      intro op process found
      obtain rfl := Option.some.inj (running.symm.trans found)
      exact id
    have holds : (Task.launch op .readingPlan : Task Op Plan).Holds backend host.root launcher :=
      stored
    refine recorded.put (.of_same recorded.registered rfl rfl holds) rfl ?_ true
    intro op process found
    have apart : launcher ≠ pid := by
      rintro rfl
      cases unused.symm.trans running
    simp [Host.put, apart, unused] at found
  · exact sound

/-- A launcher's step. Only the owner of a workload starts a worker, and no worker of it has
been started before. -/
theorem launch (sound : Sound backend host) {given : Given Record} {stage : LaunchStage}
    {alive : Bool} (running : host.processes pid = some ⟨.launch op stage, alive⟩) :
    Sound backend (Host.put pid ⟨.launch op (launchStep given pid op stage host.root).1, true⟩
      { host with root := (launchStep given pid op stage host.root).2 }) := by
  have holds : stage.Holds host.root pid op := sound.tasks pid _ running
  have takes : host.root.Takes backend (launchStep given pid op stage host.root).2 pid
      (.launch op (launchStep given pid op stage host.root).1) :=
    launchStep_takes sound.registered holds
  cases stage with
  | readingPlan | claiming | exited _ =>
      refine sound.put takes ?_ ?_ true
      · simp only [launchStep]
        try split
        all_goals rfl
      · intro other process found started
        obtain rfl := Option.some.inj (running.symm.trans found)
        exact started.elim
  | supervising supervisor =>
      by_cases begins : starts given supervisor = true
      · -- the claim makes this the only supervisor of the workload
        have fresh : op ∉ host.root.workers := by
          intro member
          obtain ⟨other, ⟨task, live⟩, found, started⟩ := sound.started op member
          cases task with
          | launch externalId stage =>
              cases stage with
              | supervising past =>
                  obtain ⟨rfl, shut⟩ := started
                  obtain ⟨record, stored, owner⟩ := holds
                  obtain ⟨record', stored', owner'⟩ : ∃ record, _ ∧ _ := sound.tasks other _ found
                  obtain rfl := Option.some.inj (stored.symm.trans stored')
                  obtain rfl : pid = other := Option.some.inj (owner.symm.trans owner')
                  cases Option.some.inj (running.symm.trans found)
                  rw [supervisor.mayStart_of_starts given begins] at shut
                  cases shut
              | _ => exact started.elim
          | _ => exact started.elim
        have past := supervisor.past_of_starts given (host.root.files op) begins
        refine ⟨takes.registered, ?_, ?_, ?_⟩
        · intro other process found
          by_cases same : other = pid
          · subst same
            simp only [Host.put, Function.update_self, Option.some.injEq] at found
            subst found
            exact takes.holds
          · simp only [Host.put, Function.update_of_ne same] at found
            exact takes.grows.task (sound.tasks other process found)
        · intro other
          simp only [Host.put, launchStep, superviseStep, begins, if_true]
          by_cases same : other = op
          · subst same
            simp [List.count_eq_zero_of_not_mem fresh]
          · rw [List.count_cons_of_ne (Ne.symm same)]
            exact sound.once other
        · intro other member
          simp only [Host.put, launchStep, superviseStep, begins, if_true] at member
          by_cases same : other = op
          · subst same
            exact ⟨pid, _, Function.update_self .., rfl, past⟩
          · have earlier := List.mem_of_ne_of_mem same member
            obtain ⟨owner, process, found, started⟩ := sound.started other earlier
            have apart : owner ≠ pid := by
              rintro rfl
              obtain rfl := Option.some.inj (running.symm.trans found)
              exact same started.1.symm
            exact ⟨owner, process, by simpa [Host.put, apart] using found, started⟩
      · refine sound.put takes ?_ ?_ true
        · simp [launchStep, superviseStep, begins]
        · intro other process found started
          obtain rfl := Option.some.inj (running.symm.trans found)
          exact ⟨started.1, supervisor.step_mayStart given _ started.2⟩

variable [DecidableEq Digest]

theorem step (sound : Sound backend host) (happening : Happening Op Plan Record) :
    Sound backend (host.step backend happening) := by
  cases happening with
  | submit pid op plan => exact sound.start trivial
  | cancel pid externalId op => exact sound.start trivial
  | act pid given launcher =>
      simp only [Host.step]
      split
      · rename_i task running
        have holds := sound.tasks pid _ running
        cases task with
        | submit op plan stage =>
            by_cases spawning : stage = .spawning
            · subst spawning
              exact sound.spawn running
            · have advances : host.advance backend pid given launcher (.submit op plan stage) =
                  { host with root := (submitStep backend op plan stage host.root).2 }.put pid
                    ⟨.submit op plan (submitStep backend op plan stage host.root).1, true⟩ := by
                cases stage with
                | spawning => exact absurd rfl spawning
                | _ => rfl
              rw [advances]
              refine sound.put (submitStep_takes plan sound.registered holds)
                (submitStep_workers plan stage) ?_ true
              intro other process found
              obtain rfl := Option.some.inj (running.symm.trans found)
              exact id
        | cancel externalId op stage =>
            refine sound.put (cancelStep_takes sound.registered holds) (cancelStep_workers stage)
              ?_ true
            intro other process found
            obtain rfl := Option.some.inj (running.symm.trans found)
            exact id
        | launch op stage => exact sound.launch running
      · exact sound
  | exit pid code =>
      simp only [Host.step]
      split
      · rename_i process running
        obtain ⟨task, alive⟩ := process
        have holds := sound.tasks pid _ running
        obtain ⟨next, isNext, nextHolds, kept⟩ : ∃ next,
            exitWorker code ⟨task, alive⟩ = ⟨next, alive⟩ ∧ next.Holds backend host.root pid ∧
              ∀ op, task.Started op → next.Started op := by
          cases task with
          | launch op stage => cases stage <;> exact ⟨_, rfl, holds, fun _ => id⟩
          | _ => exact ⟨_, rfl, holds, fun _ => id⟩
        rw [isNext]
        refine sound.put (.of_same sound.registered rfl rfl nextHolds) rfl ?_ alive
        intro other process found
        obtain rfl := Option.some.inj (running.symm.trans found)
        exact kept other
      · exact sound
  | crash pid =>
      simp only [Host.step]
      split
      · rename_i process running
        have holds := sound.tasks pid _ running
        refine sound.put (.of_same sound.registered rfl rfl holds) rfl ?_ false
        intro other found running'
        obtain rfl := Option.some.inj (running.symm.trans running')
        exact id
      · exact sound

theorem of_reaches (reached : Reaches (Host.step backend) (fun _ _ => True) Host.empty host) :
    Sound backend host :=
  reached.invariant empty fun _ happening sound _ => sound.step happening

/-- Every step only adds to the root. -/
theorem grows (sound : Sound backend host) (happening : Happening Op Plan Record) :
    host.root.Grows (host.step backend happening).root := by
  have started (pid : Nat) (task : Task Op Plan) : (host.start pid task).root = host.root := by
    unfold Host.start
    split <;> rfl
  cases happening with
  | submit pid op plan =>
      simp only [Host.step, started]
      exact .refl _
  | cancel pid externalId op =>
      simp only [Host.step, started]
      exact .refl _
  | act pid given launcher =>
      simp only [Host.step]
      split
      · rename_i task running
        have holds := sound.tasks pid _ running
        cases task with
        | submit op plan stage =>
            have takes : host.root.Takes backend (submitStep backend op plan stage host.root).2
                pid _ := submitStep_takes plan sound.registered holds
            cases stage with
            | spawning =>
                have spawned : (host.spawn pid launcher op plan).root = host.root := by
                  unfold Host.spawn
                  split <;> rfl
                simp only [Host.advance, spawned]
                exact .refl _
            | _ => exact takes.grows
        | cancel externalId op stage =>
            have takes :
              host.root.Takes backend (cancelStep backend externalId op stage host.root).2
                pid _ := cancelStep_takes sound.registered holds
            exact takes.grows
        | launch op stage =>
            have takes : host.root.Takes backend (launchStep given pid op stage host.root).2
                pid _ := launchStep_takes sound.registered holds
            exact takes.grows
      · exact .refl _
  | exit pid code =>
      simp only [Host.step]
      split <;> exact .refl _
  | crash pid =>
      simp only [Host.step]
      split <;> exact .refl _

theorem reaches (sound : Sound backend host) {later : Host Op Plan Digest Record}
    (reached : Reaches (Host.step backend) (fun _ _ => True) host later) :
    Sound backend later ∧ host.root.Grows later.root := by
  induction reached with
  | start => exact ⟨sound, .refl _⟩
  | next _ _ ih => exact ⟨ih.1.step _, ih.2.trans (ih.1.grows _)⟩

/-- A call under a recorded id with another digest has raised the conflict, or does so next. -/
theorem conflicts (sound : Sound backend host) {plan : Plan} {stage : SubmitStage}
    {record : OperationRecord Op Digest}
    (running : host.processes pid = some ⟨.submit op plan stage, true⟩)
    (recorded : host.root.registry.operations op = some record)
    (other : record.requestDigest ≠ backend.requestDigest plan) (given : Given Record)
    (launcher : Nat) :
    (host.step backend (.act pid given launcher)).root = host.root ∧
      ∃ fields, (host.step backend (.act pid given launcher)).processes pid =
        some ⟨.submit op plan (.raised (.idempotencyConflict fields)), true⟩ := by
  have holds : stage.Holds host.root op (backend.requestDigest plan) := sound.tasks pid _ running
  have apart : ¬(record.operationType = .submit ∧
      record.requestDigest = backend.requestDigest plan) := fun same => other same.2
  have unsubmitted : ¬host.root.Submitted op (backend.requestDigest plan) := by
    rintro ⟨stored, found, same⟩
    obtain rfl := Option.some.inj (recorded.symm.trans found)
    exact apart same
  simp only [Host.step, running]
  cases stage with
  | recording =>
      have something := mt differing_eq_nil.mp apart
      cases fields : differing record .submit (backend.requestDigest plan) with
      | nil => exact absurd fields something
      | cons field rest =>
          have same : Registry.sameRequest record .submit (backend.requestDigest plan) =
              .conflict (field :: rest) := by
            simp [Registry.sameRequest, fields]
          cases refused : backend.refuse plan with
          | none =>
              simp only [Host.advance, submitStep, recordSubmission, refused,
                Registry.claimSubmission, recorded, same]
              exact ⟨rfl, field :: rest, Function.update_self ..⟩
          | some detail =>
              simp only [Host.advance, submitStep, recordSubmission, refused,
                Registry.recordRejection, recorded, same]
              exact ⟨rfl, field :: rest, Function.update_self ..⟩
  | raised error =>
      obtain ⟨stored, found, conflicts⟩ := holds
      obtain rfl := Option.some.inj (recorded.symm.trans found)
      have conflict := conflicts.mpr apart
      cases error with
      | idempotencyConflict fields => exact ⟨rfl, fields, Function.update_self ..⟩
      | _ => cases conflict
  | rereading | returned | readingWorkload => exact absurd holds unsubmitted
  | readingStarted | makingDirectory | writingPlan | spawning | recordingPid _ =>
      exact absurd holds.1 unsubmitted

end Host.Sound

/-- The launcher has not looked for `cancel.request` yet, or never will. -/
def LaunchStage.unchecked : LaunchStage → Bool
  | .readingPlan | .claiming | .exited _ => true
  | .supervising supervisor =>
      match supervisor.phase with
      | .opening | .checking => true
      | _ => false

/-- The launcher is on the way to a record of a worker never started. -/
def LaunchStage.barred : LaunchStage → Bool
  | .readingPlan | .claiming | .exited _ => true
  | .supervising supervisor => supervisor.barred

/-- If this process is a launcher of the workload, it is barred from starting its worker. -/
def Task.Barred (externalId : Op) : Task Op Plan → Prop
  | .launch op stage => op = externalId → stage.barred = true
  | _ => True

structure Host.Barred (host : Host Op Plan Digest Record) (externalId : Op) (pid : Nat) : Prop where
  requested : (host.root.files externalId).cancelRequest = true
  barred : ∀ process, host.processes pid = some process → process.task.Barred externalId

theorem launchStep_barred {given : Given Record} {stage : LaunchStage}
    (requested : (root.files op).cancelRequest = true) (barred : stage.barred = true) :
    (launchStep given pid op stage root).1.barred = true := by
  cases stage with
  | readingPlan =>
      simp only [launchStep]
      split <;> rfl
  | claiming =>
      simp only [launchStep]
      split_ifs <;> rfl
  | exited code => rfl
  | supervising supervisor =>
      exact (supervisor.step_barred given _ requested barred).1

theorem superviseStep_workers {given : Given Record} {supervisor : Supervisor}
    (barred : (LaunchStage.supervising supervisor).barred = true) :
    (superviseStep given op supervisor root).2.workers = root.workers := by
  have quiet : starts given supervisor = false := by
    cases phase : supervisor.phase with
    | starting => simp [LaunchStage.barred, Supervisor.barred, phase] at barred
    | _ => simp [starts, phase]
  simp [superviseStep, quiet]

theorem Host.advance_submit [DecidableEq Digest] {host : Host Op Plan Digest Record} {plan : Plan}
    {stage : SubmitStage} (given : Given Record) (launcher : Nat) (ready : stage ≠ .spawning) :
    host.advance backend pid given launcher (.submit op plan stage) =
      { host with root := (submitStep backend op plan stage host.root).2 }.put pid
        ⟨.submit op plan (submitStep backend op plan stage host.root).1, true⟩ := by
  cases stage with
  | spawning => exact absurd rfl ready
  | _ => rfl

namespace Host.Barred

variable {host : Host Op Plan Digest Record} {externalId : Op}

omit [DecidableEq Op] in
/-- What a process other than this one leaves of it, or what it becomes. -/
theorem put {other : Nat} {process : Process Op Plan} {root : Root Op Plan Digest Record}
    (barred : host.Barred externalId pid) (requested : (root.files externalId).cancelRequest = true)
    (kept : other = pid → process.task.Barred externalId) :
    Host.Barred (Host.put other process { host with root }) externalId pid := by
  refine ⟨requested, ?_⟩
  intro found running
  by_cases same : pid = other
  · subst same
    simp only [Host.put, Function.update_self, Option.some.injEq] at running
    subst running
    exact kept rfl
  · simp only [Host.put, Function.update_of_ne same] at running
    exact barred.barred found running

omit [DecidableEq Op] in
theorem start {other : Nat} {task : Task Op Plan} (barred : host.Barred externalId pid)
    (free : task.Barred externalId) : Host.Barred (host.start other task) externalId pid := by
  unfold Host.start
  split
  · exact barred.put barred.requested fun _ => free
  · exact barred

variable [DecidableEq Digest]

theorem step (sound : Host.Sound backend host) (barred : host.Barred externalId pid)
    (happening : Happening Op Plan Record) :
    Host.Barred (host.step backend happening) externalId pid := by
  have requested := (sound.grows happening).cancelRequest externalId barred.requested
  cases happening with
  | submit other op plan => exact barred.start trivial
  | cancel other target op => exact barred.start trivial
  | act other given launcher =>
      simp only [Host.step] at requested ⊢
      split at requested
      · rename_i task running
        cases task with
        | submit op plan stage =>
            by_cases spawning : stage = .spawning
            · subst spawning
              simp only [Host.advance]
              unfold Host.spawn
              split
              · have called : Host.Barred
                    (host.put other ⟨.submit op plan (.recordingPid launcher), true⟩)
                    externalId pid := barred.put barred.requested fun _ => trivial
                exact called.put barred.requested fun _ _ => rfl
              · exact barred
            · rw [Host.advance_submit given launcher spawning] at requested ⊢
              exact barred.put requested fun _ => trivial
        | cancel target op stage => exact barred.put requested fun _ => trivial
        | launch op stage =>
            refine barred.put requested ?_
            rintro rfl rfl
            exact launchStep_barred barred.requested (barred.barred _ running rfl)
      · exact barred
  | exit other code =>
      simp only [Host.step]
      split
      · rename_i process running
        refine barred.put barred.requested ?_
        rintro rfl
        have kept := barred.barred process running
        obtain ⟨task, alive⟩ := process
        cases task with
        | launch op stage => cases stage <;> exact kept
        | _ => exact kept
      · exact barred
  | crash other =>
      simp only [Host.step]
      split
      · rename_i process running
        refine barred.put barred.requested ?_
        rintro rfl
        exact barred.barred process running
      · exact barred

/-- A barred process starts no worker of the workload. -/
theorem workers (barred : host.Barred externalId pid) (given : Given Record) (launcher : Nat) :
    (host.step backend (.act pid given launcher)).root.workers.count externalId =
      host.root.workers.count externalId := by
  simp only [Host.step]
  split
  · rename_i task running
    cases task with
    | submit op plan stage =>
        by_cases spawning : stage = .spawning
        · subst spawning
          simp only [Host.advance]
          unfold Host.spawn
          split <;> rfl
        · rw [Host.advance_submit given launcher spawning]
          simp only [Host.put, submitStep_workers]
    | cancel target op stage => simp only [Host.advance, Host.put, cancelStep_workers]
    | launch op stage =>
        simp only [Host.advance, Host.put]
        by_cases same : op = externalId
        · subst same
          have shut : stage.barred = true := barred.barred _ running rfl
          cases stage with
          | supervising supervisor => simp only [launchStep, superviseStep_workers shut]
          | readingPlan =>
              simp only [launchStep]
              split <;> rfl
          | _ => rfl
        · cases stage with
          | supervising supervisor =>
              simp only [launchStep, superviseStep]
              split_ifs
              · rw [List.count_cons_of_ne same]
              · rfl
          | readingPlan =>
              simp only [launchStep]
              split <;> rfl
          | _ => rfl
  · rfl

end Host.Barred

variable [DecidableEq Digest]

/-- In every state that any interleaving of calls, launchers and crashes reaches, at most one
worker has been started for an operation, and only for a recorded submission; records stay as
they are; a submission conflicts exactly with a record of another request, and then nothing is
changed; and behind a cancellation that has returned no launcher that is still to look for it
starts the worker. -/
theorem one_worker_per_operation {host : Host Op Plan Digest Record}
    (reached : Reaches (Host.step backend) (fun _ _ => True) Host.empty host) :
    (∀ op, host.root.workers.count op ≤ 1) ∧
    (∀ op ∈ host.root.workers, ∃ record, host.root.registry.operations op = some record ∧
      record.operationType = .submit ∧ record.effect = .workload op) ∧
    (∀ later, Reaches (Host.step backend) (fun _ _ => True) host later → ∀ op record,
      host.root.registry.operations op = some record →
        later.root.registry.operations op = some record) ∧
    (∀ pid op plan fields alive record,
      host.processes pid = some ⟨.submit op plan (.raised (.idempotencyConflict fields)), alive⟩ →
        host.root.registry.operations op = some record →
          ¬(record.operationType = .submit ∧
            record.requestDigest = backend.requestDigest plan)) ∧
    (∀ pid op plan stage record,
      host.processes pid = some ⟨.submit op plan stage, true⟩ →
        host.root.registry.operations op = some record →
          record.requestDigest ≠ backend.requestDigest plan → ∀ given launcher,
            (host.step backend (.act pid given launcher)).root = host.root ∧
              ∃ fields, (host.step backend (.act pid given launcher)).processes pid =
                some ⟨.submit op plan (.raised (.idempotencyConflict fields)), true⟩) ∧
    (∀ caller externalId op alive,
      host.processes caller = some ⟨.cancel externalId op .returned, alive⟩ → ∀ pid,
        (∀ stage alive, host.processes pid = some ⟨.launch externalId stage, alive⟩ →
          stage.unchecked = true) →
        ∀ later, Reaches (Host.step backend) (fun _ _ => True) host later → ∀ given launcher,
          (later.step backend (.act pid given launcher)).root.workers.count externalId =
            later.root.workers.count externalId) := by
  have sound := Host.Sound.of_reaches reached
  refine ⟨sound.once, ?_, ?_, ?_, ?_, ?_⟩
  · intro op member
    obtain ⟨pid, ⟨task, alive⟩, running, started⟩ := sound.started op member
    cases task with
    | launch externalId stage =>
        cases stage with
        | supervising supervisor =>
            obtain ⟨rfl, -⟩ := started
            obtain ⟨record, stored, -⟩ : ∃ record, _ ∧ _ := sound.tasks pid _ running
            exact sound.registered externalId (by simp [stored])
        | _ => exact started.elim
    | _ => exact started.elim
  · intro later further op record found
    exact (sound.reaches further).2.operations op record found
  · intro pid op plan fields alive record raised found
    obtain ⟨stored, found', conflicts⟩ : ∃ record, _ ∧ _ := sound.tasks pid _ raised
    obtain rfl := Option.some.inj (found.symm.trans found')
    exact conflicts.mp rfl
  · intro pid op plan stage record running recorded other given launcher
    exact sound.conflicts running recorded other given launcher
  · intro caller externalId op alive cancelled pid unchecked later further given launcher
    have requested : (host.root.files externalId).cancelRequest = true :=
      sound.tasks caller _ cancelled
    have barred : host.Barred externalId pid := by
      refine ⟨requested, ?_⟩
      rintro ⟨task, live⟩ running
      cases task with
      | launch target stage =>
          rintro rfl
          have early := unchecked stage live running
          cases stage with
          | supervising supervisor =>
              cases phase : supervisor.phase with
              | opening | checking => simp [LaunchStage.barred, Supervisor.barred, phase]
              | _ => simp [LaunchStage.unchecked, phase] at early
          | _ => rfl
      | _ => trivial
    have kept : Host.Sound backend later ∧ later.Barred externalId pid := by
      induction further with
      | start => exact ⟨sound, barred⟩
      | next _ _ ih => exact ⟨ih.1.step _, ih.2.step ih.1 _⟩
    exact kept.2.workers given launcher

/-- Plans and digests as texts; a plan with no text is refused. -/
def textBackend : Backend Nat String String where
  requestDigest := fun plan => "submit:" ++ plan
  refuse := fun plan => if plan = "" then some "there is nothing to run" else none
  cancelDigest := fun externalId => "cancel:" ++ toString externalId

def acts (pid launcher count : Nat) : List (Happening Nat String String) :=
  List.replicate count (.act pid ⟨.ok 41, [], 0, false⟩ launcher)

/-- The first controller dies behind `Popen`; the second starts another launcher, and both
launchers compete for the workload. -/
def startedTwice : List (Happening Nat String String) :=
  .submit 1 7 "train" :: acts 1 10 7 ++ .crash 1 :: .submit 2 7 "train" :: acts 2 11 7 ++
    acts 10 0 1 ++ acts 11 0 1 ++ acts 10 0 1 ++ acts 11 0 1 ++ acts 10 0 4 ++
    .cancel 3 7 8 :: acts 3 0 5

theorem one_worker_per_operation_started_twice :
    ∃ host : Host Nat String String String,
      Reaches (Host.step textBackend) (fun _ _ => True) Host.empty host ∧
        host.root.workers = [7] ∧
        host.processes 11 = some ⟨.launch 7 (.exited 0), true⟩ ∧
        host.processes 3 = some ⟨.cancel 7 8 .returned, true⟩ ∧
        ∀ op, host.root.workers.count op ≤ 1 := by
  have reached : Reaches (Host.step textBackend) (fun _ _ => True)
      (Host.empty : Host Nat String String String)
      (Library.follow (Host.step textBackend) startedTwice Host.empty) :=
    Reaches.start.follow startedTwice (by decide)
  exact ⟨_, reached, by decide, by decide, by decide, (one_worker_per_operation reached).1⟩

end Xaytune.Runtimes
