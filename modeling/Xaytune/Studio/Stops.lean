import Xaytune.Studio.Ends
import Xaytune.Trainer.Horizon

/-!
# Stopping a job's training

`_track_state` looks at the job's status at the end of each step and stops the training of a
cancelled job. `Trainer.train` looks at `should_stop` behind each batch, so a step that was told to
stop is the last one that ends, in a fresh training and in a resumed one.
-/

namespace Xaytune.Trainer

section Resumed

variable (config : TrainingConfig) (around : Surroundings)

/-- The epoch a run is resumed in; the batches that were completed are skipped. -/
def trainResumedEpoch (batches : Nat) (run : Progress) : Progress :=
  let resumed := run.state.step
  let run :=
    trainBatches config around (batches - (resumed + 1)) (resumed + 1)
      (fire around .epochStart run)
  fire around .epochEnd run

/-- The epochs of a run that is resumed from a state. -/
def resumeEpochs (batches : Nat) (run : Progress) : Progress :=
  let epoch := run.state.epoch
  if epoch < config.numEpochs then
    let run := trainResumedEpoch config around batches run
    if run.state.shouldStop then run
    else trainEpochs config around batches (config.numEpochs - (epoch + 1)) (epoch + 1) run
  else run

/-- `Trainer.train`, with `resume_state` or without. -/
def trainFrom (resumeState : Option TrainState) (loader : Dataloader) : Progress :=
  match resumeState with
  | none => train config around loader
  | some state =>
      let run := { Progress.fresh with state := { state with shouldStop := false } }
      let run := resumeEpochs config around loader.batches (fire around .trainStart run)
      fire around .trainEnd run

/-- The steps a run had behind it. -/
def stepsBefore (resumeState : Option TrainState) : Nat :=
  (resumeState.map TrainState.globalStep).getD 0

end Resumed

/-! ## The last step -/

/-- A step with this number has not ended, or it was the last and the run is to stop. -/
def Halts (last : Nat) (run : Progress) : Prop :=
  run.state.globalStep < last ∨ (run.state.globalStep = last ∧ run.state.shouldStop = true)

section Halting

variable {config : TrainingConfig} {around : Surroundings} {last : Nat} {run : Progress}

theorem Halts.before (halts : Halts last run) (goes : ¬ run.state.shouldStop = true) :
    run.state.globalStep < last :=
  halts.resolve_right fun stopped => goes stopped.2

theorem Halts.le (halts : Halts last run) : run.state.globalStep ≤ last :=
  halts.elim Nat.le_of_lt fun stopped => Nat.le_of_eq stopped.1

theorem Halts.fire (halts : Halts last run) (event : CallbackEvent) :
    Halts last (fire around event run) := by
  rcases halts with before | ⟨same, stopped⟩
  · exact .inl before
  · refine .inr ⟨same, ?_⟩
    simp only [Trainer.fire, stopped, Bool.true_or]

theorem Halts.stopAtLimit (halts : Halts last run) : Halts last (stopAtLimit config run) := by
  rw [Trainer.stopAtLimit]
  split
  · rcases halts with before | ⟨same, -⟩
    · exact .inl before
    · exact .inr ⟨same, rfl⟩
  · exact halts

theorem globalStep_trainingStep : (trainingStep config around run).state = run.state := by
  simp only [trainingStep]
  split
  · split <;> rfl
  · rfl

/-- The batch that ends the last step leaves the run to stop. -/
theorem halts_trainBatch
    (stops : ∀ state, state.globalStep = last → around.stops .stepEnd state = true)
    (before : run.state.globalStep < last) (step : Nat) :
    Halts last (trainBatch config around step run) := by
  simp only [trainBatch]
  split
  · apply Halts.stopAtLimit
    have stepped : (Trainer.fire around .stepStart
        { run with state := { run.state with step } }).state.globalStep < last := before
    rcases Nat.lt_or_eq_of_le (Nat.succ_le_of_lt stepped) with more | same
    · left
      simp only [Trainer.fire, globalStep_trainingStep] at more ⊢
      exact more
    · right
      simp only [Trainer.fire, globalStep_trainingStep] at same ⊢
      exact ⟨same, by rw [stops _ same, Bool.or_true]⟩
  · left
    rw [globalStep_trainingStep]
    exact before

theorem halts_trainBatches
    (stops : ∀ state, state.globalStep = last → around.stops .stepEnd state = true)
    (before : run.state.globalStep < last) (remaining step : Nat) :
    Halts last (trainBatches config around remaining step run) := by
  induction remaining generalizing step run with
  | zero => exact .inl before
  | succ remaining ih =>
      have halts : Halts last (trainBatch config around step run) :=
        halts_trainBatch stops before step
      rw [trainBatches]
      split
      · exact halts
      next goes => exact ih (halts.before goes) (step + 1)

theorem halts_trainEpochs
    (stops : ∀ state, state.globalStep = last → around.stops .stepEnd state = true)
    (before : run.state.globalStep < last) (batches remaining epoch : Nat) :
    Halts last (trainEpochs config around batches remaining epoch run) := by
  induction remaining generalizing epoch run with
  | zero => exact .inl before
  | succ remaining ih =>
      have begun : (Trainer.fire around .epochStart
          { run with state := { run.state with epoch } }).state.globalStep < last := before
      have halts : Halts last (trainEpoch config around batches epoch run) :=
        (halts_trainBatches stops begun batches 0).fire .epochEnd
      rw [trainEpochs]
      split
      · exact halts
      next goes => exact ih (halts.before goes) (epoch + 1)

theorem halts_resumeEpochs
    (stops : ∀ state, state.globalStep = last → around.stops .stepEnd state = true)
    (before : run.state.globalStep < last) (batches : Nat) :
    Halts last (resumeEpochs config around batches run) := by
  have begun : (Trainer.fire around .epochStart run).state.globalStep < last := before
  have halts : Halts last (trainResumedEpoch config around batches run) :=
    (halts_trainBatches stops begun _ _).fire .epochEnd
  simp only [resumeEpochs]
  split
  · split
    · exact halts
    next goes => exact halts_trainEpochs stops (halts.before goes) _ _ _
  · exact .inl before

/-- A step that is told to stop is the last one. -/
theorem globalStep_trainFrom_le {resumeState : Option TrainState} {loader : Dataloader}
    (stops : ∀ state, state.globalStep = last → around.stops .stepEnd state = true)
    (later : stepsBefore resumeState < last) :
    (trainFrom config around resumeState loader).state.globalStep ≤ last := by
  cases resumeState with
  | none => exact ((halts_trainEpochs stops later _ _ _).fire .trainEnd).le
  | some state => exact ((halts_resumeEpochs stops later _).fire .trainEnd).le

end Halting

end Xaytune.Trainer

namespace Xaytune.Studio

open Xaytune.Library Xaytune.Trainer

variable {V : Type} {numbers : Numbers V} {jobId : String}

/-- The numbers of the steps of a job that have ended. -/
def stepsOf (jobId : String) (history : List (Move V)) : List Nat :=
  history.filterMap fun move =>
    match move with
    | .stepEnd other state _ _ => if other = jobId then some state.globalStep else none
    | _ => none

theorem stepsOf_stepEnd (earlier later : List (Move V)) (state : TrainState V) (gpu : Dict V)
    (now : V) :
    stepsOf jobId (earlier ++ .stepEnd jobId state gpu now :: later) =
      stepsOf jobId earlier ++ state.globalStep :: stepsOf jobId later := by
  simp [stepsOf]

namespace JobManager

/-- The job's training was told to stop at the end of its last step. -/
def isTold (manager : JobManager V) (jobId : String) : Prop :=
  ∃ batchSize last, manager.workers.find? jobId = some ⟨jobId, batchSize, .training last true⟩

/-- The job's training is a run of `Trainer.train` with `_track_state` among its callbacks. -/
structure Trains (numbers : Numbers V) (persists : Bool) (jobId : String)
    (history : List (Move V)) (config : TrainingConfig) (around : Surroundings)
    (resumeState : Option Trainer.TrainState) (loader : Dataloader) : Prop where
  /-- The steps that have ended are the first ones of the run. -/
  steps : stepsOf jobId history <+: List.range' (stepsBefore resumeState + 1)
    ((trainFrom config around resumeState loader).state.globalStep - stepsBefore resumeState)
  /-- `state.stop_training()`. -/
  heeds : ∀ earlier state gpu now later,
    history = earlier ++ .stepEnd jobId state gpu now :: later →
      (follow (step numbers) (earlier ++ [.stepEnd jobId state gpu now])
        (new persists)).isTold jobId →
        ∀ trained, trained.globalStep = state.globalStep → around.stops .stepEnd trained = true

/-- Steps in their order end with the one that is the last. -/
theorem steps_end {first count last : Nat} {before later : List Nat}
    (steps : before ++ last :: later <+: List.range' (first + 1) (count - first))
    (most : first < last → count ≤ last) : later = [] ∧ count = last := by
  have member : last ∈ List.range' (first + 1) (count - first) :=
    steps.subset (List.mem_append_right _ List.mem_cons_self)
  rw [List.mem_range'_1] at member
  have isLast : count = last := by
    have bound := most (by omega)
    omega
  refine ⟨?_, isLast⟩
  have ordered : (List.range' (first + 1) (count - first)).Pairwise (· < ·) :=
    List.pairwise_lt_range'
  have sorted := ordered.sublist steps.sublist
  cases later with
  | nil => rfl
  | cons next later =>
      have more := (List.pairwise_cons.mp (List.pairwise_append.mp sorted).2.1).1 next
        List.mem_cons_self
      have among : next ∈ List.range' (first + 1) (count - first) :=
        steps.subset (by simp)
      rw [List.mem_range'_1] at among
      omega

/-- The end of a step tells training to stop exactly when a cancel came since its thread started.
A training that is told to stop ends no other step, then or later, and returns with that one. -/
theorem step_stops_iff {persists : Bool} {history earlier later : List (Move V)} {jobId : String}
    {state : TrainState V} {gpu : Dict V} {now : V}
    (permitted : Permits (step numbers) Allowed history (new persists))
    (isHistory : history = earlier ++ .stepEnd jobId state gpu now :: later) :
    ∃ batchSize stopping,
      (follow (step numbers) (earlier ++ [.stepEnd jobId state gpu now])
        (new persists)).workers.find? jobId = some ⟨jobId, batchSize, .training now stopping⟩ ∧
      (stopping = true ↔ Stands jobId .cancelled [.running] earlier) ∧
      (stopping = true → ∀ config around resumeState loader,
        Trains numbers persists jobId history config around resumeState loader →
          stepsOf jobId later = [] ∧
            (trainFrom config around resumeState loader).state.globalStep = state.globalStep) := by
  subst isHistory
  obtain ⟨begun, allowed, -⟩ := permits_append.mp permitted
  obtain ⟨sound, story⟩ := story_of_permits begun jobId
  obtain ⟨batchSize, stopping, works, stops⟩ :=
    (lives_step sound.coherent allowed jobId).stops story (sound.saved jobId)
  rw [follow_append]
  refine ⟨batchSize, stopping, works, stops, ?_⟩
  rintro rfl config around resumeState loader ⟨steps, heeds⟩
  have heeded := heeds earlier state gpu now later rfl ⟨batchSize, now, by
    rw [follow_append]
    exact works⟩
  rw [stepsOf_stepEnd] at steps
  exact steps_end steps fun isLater => globalStep_trainFrom_le heeded isLater

/-- The callbacks of a training that is stopped at its first step. -/
def stopped : Surroundings :=
  ⟨fun event state => event = .stepEnd && state.globalStep = 1, fun _ => true⟩

/-- Of three batches one is trained. -/
theorem cancelledRun_stops :
    Stands "a" .cancelled [.running]
        [(.submit "a" "sft" 4 0 : Move Nat), .attach "a", .begin "a" 1 1, .cancel "a"] ∧
      (follow (step counting) [.submit "a" "sft" 4 0, .attach "a", .begin "a" 1 1, .cancel "a",
        .stepEnd "a" (atStep 1) [] 3] (new true)).isTold "a" ∧
      (trainFrom ⟨1, 1, -1⟩ stopped none ⟨3, true⟩).state.globalStep = 1 := by
  have permitted : Permits (step counting) Allowed cancelledRun (new true) := by decide
  obtain ⟨batchSize, stopping, works, stops, last⟩ := step_stops_iff permitted
    (show cancelledRun = [.submit "a" "sft" 4 0, .attach "a", .begin "a" 1 1, .cancel "a"] ++
      .stepEnd "a" (atStep 1) [] 3 :: [.finish "a" (atStep 1) 4] from rfl)
  have stands : Stands "a" .cancelled [.running]
      [(.submit "a" "sft" 4 0 : Move Nat), .attach "a", .begin "a" 1 1, .cancel "a"] :=
    ⟨[.submit "a" "sft" 4 0, .attach "a", .begin "a" 1 1], .cancel "a", [], rfl, rfl, nofun⟩
  obtain rfl := stops.mpr stands
  refine ⟨stands, ⟨batchSize, 3, works⟩, (last rfl ⟨1, 1, -1⟩ stopped none ⟨3, true⟩ ?_).2⟩
  constructor
  · decide
  · intro earlier state gpu now later same _ trained isStep
    have steps : [1] = stepsOf "a" earlier ++ state.globalStep :: stepsOf "a" later := by
      rw [← stepsOf_stepEnd earlier later state gpu now, ← same]
      rfl
    have isFirst : state.globalStep = 1 := by
      rcases List.singleton_eq_append_iff.mp steps with ⟨_, tail⟩ | ⟨_, none⟩
      · exact (List.cons.inj tail).1
      · cases none
    simp [stopped, isStep, isFirst]

end JobManager

end Xaytune.Studio
