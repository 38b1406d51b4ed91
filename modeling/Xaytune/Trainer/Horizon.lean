import Mathlib.Tactic.Ring

/-!
# The horizon of the learning-rate schedule

`Trainer.train` makes its scheduler for a number of steps it computes beforehand, window by window
within each epoch. The loop counts its windows over the whole run: what is accumulated at the end
of an epoch is carried into the next one.
-/

namespace Xaytune.Trainer

/-- `max_steps` is off unless it is positive. -/
structure TrainingConfig where
  gradientAccumulation : Nat
  numEpochs : Nat
  maxSteps : Int

/-- A loader and whether it knows its length. -/
structure Dataloader where
  batches : Nat
  sized : Bool

structure TrainState where
  step : Nat
  epoch : Nat
  globalStep : Nat
  shouldStop : Bool

inductive CallbackEvent where
  | trainStart
  | epochStart
  | stepStart
  | stepEnd
  | epochEnd
  | trainEnd
  deriving DecidableEq

/-- What the run does not decide: whether the callbacks stop it at an event, and whether the
scaler applies the optimizer step behind so many batches. -/
structure Surroundings where
  stops : CallbackEvent → TrainState → Bool
  applied : Nat → Bool

/-- The loop's state, with what has been counted of it. -/
structure Progress where
  state : TrainState
  accumCount : Nat
  optimizerSteps : Nat
  schedulerSteps : Nat
  stepEnds : Nat

section Loop

variable (config : TrainingConfig) (around : Surroundings)

/-! ## The horizon -/

/-- The batches an epoch is taken to have. -/
def batchesPerEpoch (loader : Dataloader) (schedulerBatchesPerEpoch : Option Nat) : Nat :=
  match schedulerBatchesPerEpoch with
  | some batches => batches
  | none =>
      if loader.sized then loader.batches
      else if 0 < config.maxSteps then config.maxSteps.toNat
      else 1000

/-- The total step count `create_scheduler` is given. -/
def totalSteps (loader : Dataloader) (schedulerBatchesPerEpoch : Option Nat) : Int :=
  let batches := batchesPerEpoch config loader schedulerBatchesPerEpoch
  let stepsPerEpoch :=
    if 1 < config.gradientAccumulation then batches / config.gradientAccumulation else batches
  let total : Int := stepsPerEpoch * config.numEpochs
  if 0 < config.maxSteps then min total config.maxSteps else total

/-! ## The loop -/

def fire (event : CallbackEvent) (run : Progress) : Progress :=
  { run with
    state :=
      { run.state with shouldStop := run.state.shouldStop || around.stops event run.state }
    stepEnds := if event = .stepEnd then run.stepEnds + 1 else run.stepEnds }

def trainingStep (run : Progress) : Progress :=
  let run := { run with accumCount := run.accumCount + 1 }
  if run.accumCount % config.gradientAccumulation = 0 then
    if around.applied run.accumCount then
      { run with
        optimizerSteps := run.optimizerSteps + 1
        schedulerSteps := run.schedulerSteps + 1 }
    else run
  else run

/-- `stop_training`, once the step limit is reached. -/
def stopAtLimit (run : Progress) : Progress :=
  if 0 < config.maxSteps ∧ config.maxSteps ≤ run.state.globalStep then
    { run with state := { run.state with shouldStop := true } }
  else run

def trainBatch (step : Nat) (run : Progress) : Progress :=
  let run := { run with state := { run.state with step } }
  let run := fire around .stepStart run
  let run := trainingStep config around run
  if run.accumCount % config.gradientAccumulation = 0 then
    let run := { run with state := { run.state with globalStep := run.state.globalStep + 1 } }
    stopAtLimit config (fire around .stepEnd run)
  else run

/-- The rest of an epoch, of so many batches. -/
def trainBatches : (remaining step : Nat) → Progress → Progress
  | 0, _, run => run
  | remaining + 1, step, run =>
      let run := trainBatch config around step run
      if run.state.shouldStop then run else trainBatches remaining (step + 1) run

def trainEpoch (batches epoch : Nat) (run : Progress) : Progress :=
  let run := { run with state := { run.state with epoch } }
  let run := trainBatches config around batches 0 (fire around .epochStart run)
  fire around .epochEnd run

/-- The rest of the run, of so many epochs. -/
def trainEpochs (batches : Nat) : (remaining epoch : Nat) → Progress → Progress
  | 0, _, run => run
  | remaining + 1, epoch, run =>
      let run := trainEpoch config around batches epoch run
      if run.state.shouldStop then run else trainEpochs batches remaining (epoch + 1) run

def Progress.fresh : Progress := ⟨⟨0, 0, 0, false⟩, 0, 0, 0, 0⟩

/-- A fresh run. -/
def train (loader : Dataloader) : Progress :=
  let run := fire around .trainStart .fresh
  fire around .trainEnd (trainEpochs config around loader.batches config.numEpochs 0 run)

end Loop

/-! ## What a run comes to -/

/-- Neither a callback nor the scaler interferes. -/
structure Undisturbed (around : Surroundings) : Prop where
  quiet : ∀ event state, around.stops event state = false
  applied : ∀ count, around.applied count = true

/-- So many steps, unless the limit is reached before. -/
def TrainingConfig.limited (config : TrainingConfig) (steps : Nat) : Nat :=
  if 0 < config.maxSteps then min steps config.maxSteps.toNat else steps

/-- The limit is reached by so many steps. -/
def TrainingConfig.Exhausted (config : TrainingConfig) (steps : Nat) : Prop :=
  0 < config.maxSteps ∧ config.maxSteps ≤ steps

/-- What a run has come to when the loader has offered it so many batches. -/
structure Offered (config : TrainingConfig) (batches : Nat) (run : Progress) : Prop where
  steps : run.state.globalStep = config.limited (batches / config.gradientAccumulation)
  optimizer : run.optimizerSteps = run.state.globalStep
  scheduler : run.schedulerSteps = run.state.globalStep
  events : run.stepEnds = run.state.globalStep
  stopped : run.state.shouldStop = true ↔
    config.Exhausted (batches / config.gradientAccumulation)
  counted : run.state.shouldStop = false → run.accumCount = batches

section Limit

variable {config : TrainingConfig} {fewer more : Nat}

theorem limited_of_not_exhausted (room : ¬ config.Exhausted more) :
    config.limited more = more := by
  unfold TrainingConfig.Exhausted at room
  unfold TrainingConfig.limited
  split
  · omega
  · rfl

/-- Once the limit is reached, no more steps count. -/
theorem limited_of_exhausted (full : config.Exhausted fewer) (later : fewer ≤ more) :
    config.limited more = config.limited fewer := by
  obtain ⟨set, reached⟩ := full
  rw [TrainingConfig.limited, TrainingConfig.limited, if_pos set, if_pos set]
  omega

theorem exhausted_mono (full : config.Exhausted fewer) (later : fewer ≤ more) :
    config.Exhausted more := ⟨full.1, full.2.trans (Int.ofNat_le.mpr later)⟩

end Limit

section Counts

variable {config : TrainingConfig} {around : Surroundings} {run : Progress} {batches : Nat}

theorem fire_of_quiet (undisturbed : Undisturbed around) {event : CallbackEvent}
    (other : event ≠ .stepEnd) : fire around event run = run := by
  simp [fire, undisturbed.quiet, other]

theorem fire_stepEnd (undisturbed : Undisturbed around) :
    fire around .stepEnd run = { run with stepEnds := run.stepEnds + 1 } := by
  simp [fire, undisturbed.quiet]

/-- One batch of an undisturbed run: all counters move together, at the end of a window. -/
theorem trainBatch_eq (undisturbed : Undisturbed around) (step : Nat) :
    trainBatch config around step run =
      if (run.accumCount + 1) % config.gradientAccumulation = 0 then
        stopAtLimit config
          { state := { run.state with step, globalStep := run.state.globalStep + 1 }
            accumCount := run.accumCount + 1
            optimizerSteps := run.optimizerSteps + 1
            schedulerSteps := run.schedulerSteps + 1
            stepEnds := run.stepEnds + 1 }
      else { run with state := { run.state with step }, accumCount := run.accumCount + 1 } := by
  have started : ∀ run, fire around .stepStart run = run := fun run =>
    fire_of_quiet undisturbed (by decide)
  simp only [trainBatch, started, trainingStep, undisturbed.applied]
  split
  · next window => simp only [if_true, window, fire_stepEnd undisturbed]
  · rfl

/-- The limit is checked as soon as a step is counted. -/
theorem stopAtLimit_offered {run : Progress}
    (steps : run.state.globalStep = batches / config.gradientAccumulation)
    (going : run.state.shouldStop = false) (counted : run.accumCount = batches)
    (optimizer : run.optimizerSteps = run.state.globalStep)
    (scheduler : run.schedulerSteps = run.state.globalStep)
    (events : run.stepEnds = run.state.globalStep)
    (before : config.Exhausted (batches / config.gradientAccumulation) →
      config.limited (batches / config.gradientAccumulation) =
        batches / config.gradientAccumulation) :
    Offered config batches (stopAtLimit config run) := by
  unfold stopAtLimit
  rw [steps]
  split
  · next full =>
      exact ⟨steps.trans (before full).symm, optimizer, scheduler, events,
        iff_of_true rfl full, by simp⟩
  · next room =>
      exact ⟨steps.trans (limited_of_not_exhausted room).symm, optimizer, scheduler, events,
        iff_of_false (by simp [going]) room, fun _ => counted⟩

/-- Step lemma: an undisturbed run that has not stopped takes one more batch. -/
theorem offered_trainBatch (undisturbed : Undisturbed around)
    (offered : Offered config batches run)
    (going : run.state.shouldStop = false) (step : Nat) :
    Offered config (batches + 1) (trainBatch config around step run) := by
  have counted := offered.counted going
  have room : ¬ config.Exhausted (batches / config.gradientAccumulation) := by
    rw [← offered.stopped, going]
    simp
  have steps := offered.steps.trans (limited_of_not_exhausted room)
  rw [trainBatch_eq undisturbed, counted]
  split
  · next window =>
      have next : (batches + 1) / config.gradientAccumulation =
          batches / config.gradientAccumulation + 1 :=
        Nat.succ_div_of_dvd (Nat.dvd_of_mod_eq_zero window)
      apply stopAtLimit_offered
      · rw [next, steps]
      · exact going
      · rfl
      · rw [offered.optimizer]
      · rw [offered.scheduler]
      · rw [offered.events]
      · intro full
        -- the step before was still below the limit
        unfold TrainingConfig.Exhausted at room full
        rw [TrainingConfig.limited, if_pos full.1]
        omega
  · next inside =>
      have same : (batches + 1) / config.gradientAccumulation =
          batches / config.gradientAccumulation :=
        Nat.succ_div_of_not_dvd fun whole => inside (Nat.mod_eq_zero_of_dvd whole)
      obtain ⟨limited, optimizer, scheduler, events, stopped, _⟩ := offered
      rw [← same] at limited stopped
      exact ⟨limited, optimizer, scheduler, events, stopped, fun _ => rfl⟩

/-- What a stopped run is offered does not change it. -/
theorem offered_of_stopped (offered : Offered config batches run)
    (stopped : run.state.shouldStop = true) {more : Nat} (later : batches ≤ more) :
    Offered config more run := by
  have full := offered.stopped.mp stopped
  have windows : batches / config.gradientAccumulation ≤ more / config.gradientAccumulation :=
    Nat.div_le_div_right later
  obtain ⟨limited, optimizer, scheduler, events, _, _⟩ := offered
  rw [← limited_of_exhausted full windows] at limited
  exact ⟨limited, optimizer, scheduler, events, iff_of_true stopped (exhausted_mono full windows),
    by simp [stopped]⟩

theorem offered_trainBatches (undisturbed : Undisturbed around)
    (remaining : Nat) (offered : Offered config batches run) (going : run.state.shouldStop = false)
    (step : Nat) :
    Offered config (batches + remaining) (trainBatches config around remaining step run) := by
  induction remaining generalizing run batches step with
  | zero => exact offered
  | succ remaining ih =>
      have taken := offered_trainBatch undisturbed offered going step
      rw [trainBatches]
      split
      · next stopped => exact offered_of_stopped taken stopped (by omega)
      · next more =>
          rw [show batches + (remaining + 1) = batches + 1 + remaining by omega]
          exact ih taken (by simpa using more) (step + 1)

/-- The epoch's number is not counted. -/
theorem offered_setEpoch (offered : Offered config batches run) (epoch : Nat) :
    Offered config batches { run with state := { run.state with epoch } } :=
  ⟨offered.steps, offered.optimizer, offered.scheduler, offered.events, offered.stopped,
    offered.counted⟩

theorem offered_trainEpochs (undisturbed : Undisturbed around)
    (perEpoch remaining : Nat) (offered : Offered config batches run)
    (going : run.state.shouldStop = false) (epoch : Nat) :
    Offered config (batches + perEpoch * remaining)
      (trainEpochs config around perEpoch remaining epoch run) := by
  induction remaining generalizing run batches epoch with
  | zero => exact offered
  | succ remaining ih =>
      have taken : Offered config (batches + perEpoch)
          (trainEpoch config around perEpoch epoch run) := by
        rw [trainEpoch, fire_of_quiet undisturbed (by decide),
          fire_of_quiet undisturbed (by decide)]
        exact offered_trainBatches undisturbed perEpoch (offered_setEpoch offered epoch)
          going 0
      rw [trainEpochs]
      have longer : batches + perEpoch * (remaining + 1) =
          batches + perEpoch + perEpoch * remaining := by ring
      rw [longer]
      split
      · next stopped => exact offered_of_stopped taken stopped (Nat.le_add_right _ _)
      · next more => exact ih taken (by simpa using more) (epoch + 1)

theorem offered_train (undisturbed : Undisturbed around) (loader : Dataloader) :
    Offered config (loader.batches * config.numEpochs) (train config around loader) := by
  have begun : Offered config 0 .fresh := by
    have none_yet : ¬ config.Exhausted (0 / config.gradientAccumulation) := by
      rw [Nat.zero_div]
      rintro ⟨set, reached⟩
      omega
    have nothing := limited_of_not_exhausted none_yet
    rw [Nat.zero_div] at nothing
    refine ⟨?_, rfl, rfl, rfl, iff_of_false (by simp [Progress.fresh]) none_yet, fun _ => rfl⟩
    rw [Nat.zero_div, nothing]
    rfl
  have whole := offered_trainEpochs undisturbed loader.batches config.numEpochs begun rfl 0
  rw [Nat.zero_add] at whole
  rw [train, fire_of_quiet undisturbed (by decide), fire_of_quiet undisturbed (by decide)]
  exact whole

end Counts

/-! ## Whether the schedule spans the run -/

/-- The batches of an epoch that the horizon counts: whole windows within the epoch. -/
def windowedBatches (config : TrainingConfig) (loader : Dataloader)
    (schedulerBatchesPerEpoch : Option Nat) : Nat :=
  let batches := batchesPerEpoch config loader schedulerBatchesPerEpoch
  batches - batches % config.gradientAccumulation

/-- What the epochs leave over of their windows never makes up another window, or the limit comes
first on both sides. -/
def HorizonHolds (config : TrainingConfig) (loader : Dataloader)
    (schedulerBatchesPerEpoch : Option Nat) : Prop :=
  let windowed := windowedBatches config loader schedulerBatchesPerEpoch * config.numEpochs
  let batches := loader.batches * config.numEpochs
  (windowed ≤ batches ∧ batches < windowed + config.gradientAccumulation) ∨
    (0 < config.maxSteps ∧ config.maxSteps * config.gradientAccumulation ≤ windowed ∧
      config.maxSteps * config.gradientAccumulation ≤ batches)

/-- The schedule spans exactly the run, and everything counted agrees. -/
structure Spans (total : Int) (run : Progress) : Prop where
  horizon : run.optimizerSteps = total
  globalStep : run.state.globalStep = run.optimizerSteps
  stepEnds : run.stepEnds = run.state.globalStep
  scheduler : run.schedulerSteps = run.stepEnds

section Horizon

variable {config : TrainingConfig}

theorem totalSteps_eq (positive : 1 ≤ config.gradientAccumulation) (loader : Dataloader)
    (schedulerBatchesPerEpoch : Option Nat) :
    totalSteps config loader schedulerBatchesPerEpoch =
      config.limited
        (windowedBatches config loader schedulerBatchesPerEpoch * config.numEpochs /
          config.gradientAccumulation) := by
  generalize isBatches : batchesPerEpoch config loader schedulerBatchesPerEpoch = batches
  have perEpoch : (if 1 < config.gradientAccumulation then batches / config.gradientAccumulation
      else batches) = batches / config.gradientAccumulation := by
    split
    · rfl
    · rw [show config.gradientAccumulation = 1 by omega, Nat.div_one]
  have whole : (batches - batches % config.gradientAccumulation) * config.numEpochs /
      config.gradientAccumulation =
        batches / config.gradientAccumulation * config.numEpochs := by
    have windows : batches - batches % config.gradientAccumulation =
        config.gradientAccumulation * (batches / config.gradientAccumulation) := by
      have parts := Nat.mod_add_div batches config.gradientAccumulation
      omega
    rw [windows, Nat.mul_assoc, Nat.mul_div_cancel_left _ positive]
  simp only [totalSteps, windowedBatches, isBatches, perEpoch, whole, TrainingConfig.limited]
  rw [← Nat.cast_mul]
  split
  · next set => omega
  · rfl

/-- Two step counts come to the same under the limit if they agree or both exceed it. -/
theorem limited_eq_iff (fewer more : Nat) : config.limited fewer = config.limited more ↔
    fewer = more ∨ (0 < config.maxSteps ∧ config.maxSteps ≤ fewer ∧ config.maxSteps ≤ more) := by
  unfold TrainingConfig.limited
  split <;> omega

/-- Whole windows end where other batches do exactly if no window lies between. -/
theorem div_eq_div_iff_of_dvd {window windowed batches : Nat} (positive : 1 ≤ window)
    (whole : window ∣ windowed) :
    windowed / window = batches / window ↔ windowed ≤ batches ∧ batches < windowed + window := by
  obtain ⟨windows, rfl⟩ := whole
  rw [Nat.mul_div_cancel_left _ positive, eq_comm, Nat.div_eq_iff positive]
  rw [Nat.mul_comm windows window]
  omega

theorem windowedBatches_dvd (loader : Dataloader) (schedulerBatchesPerEpoch : Option Nat) :
    config.gradientAccumulation ∣ windowedBatches config loader schedulerBatchesPerEpoch :=
  Nat.dvd_sub_mod _

/-- A limit in steps as a limit in batches. -/
theorem limit_le_div_iff (positive : 1 ≤ config.gradientAccumulation) (set : 0 < config.maxSteps)
    (batches : Nat) : config.maxSteps ≤ (batches / config.gradientAccumulation : Nat) ↔
      config.maxSteps * config.gradientAccumulation ≤ batches := by
  obtain ⟨limit, isLimit⟩ := Int.eq_ofNat_of_zero_le set.le
  rw [isLimit]
  norm_cast
  exact Nat.le_div_iff_mul_le positive

/-- In a fresh, undisturbed run the schedule spans exactly the run if and only if the batches left
over by the epochs make up no window the horizon did not count, or the limit comes first. -/
theorem schedule_spans_iff (positive : 1 ≤ config.gradientAccumulation) {around : Surroundings}
    (undisturbed : Undisturbed around) (loader : Dataloader)
    (schedulerBatchesPerEpoch : Option Nat) :
    Spans (totalSteps config loader schedulerBatchesPerEpoch) (train config around loader) ↔
      HorizonHolds config loader schedulerBatchesPerEpoch := by
  have offered : Offered config (loader.batches * config.numEpochs) (train config around loader) :=
    offered_train undisturbed loader
  have performed := offered.optimizer.trans offered.steps
  have meets : ((train config around loader).optimizerSteps : Int) =
      totalSteps config loader schedulerBatchesPerEpoch ↔
        HorizonHolds config loader schedulerBatchesPerEpoch := by
    rw [performed, totalSteps_eq positive, Nat.cast_inj, eq_comm, limited_eq_iff,
      div_eq_div_iff_of_dvd positive ((windowedBatches_dvd loader _).mul_right _)]
    apply or_congr Iff.rfl
    apply and_congr_right
    intro set
    rw [limit_le_div_iff positive set, limit_le_div_iff positive set, Nat.cast_mul, Nat.cast_mul]
  constructor
  · intro spans
    exact meets.mp spans.horizon
  · intro holds
    exact ⟨meets.mpr holds, offered.optimizer.symm, offered.events,
      offered.scheduler.trans offered.events.symm⟩

end Horizon

/-- Nothing stops the run and every step is applied. -/
def calm : Surroundings := ⟨fun _ _ => false, fun _ => true⟩

theorem undisturbed_calm : Undisturbed calm := ⟨fun _ _ => rfl, fun _ => rfl⟩

theorem schedule_spans_iff_whole_windows :
    Spans (totalSteps ⟨2, 3, -1⟩ ⟨4, true⟩ none) (train ⟨2, 3, -1⟩ calm ⟨4, true⟩) := by
  have holds : HorizonHolds ⟨2, 3, -1⟩ ⟨4, true⟩ none := Or.inl (by decide)
  exact (schedule_spans_iff (by decide) undisturbed_calm ⟨4, true⟩ none).mpr holds

/-- Two epochs of three batches make three windows of two; the horizon counts one an epoch. -/
theorem carried_window_exceeds_horizon :
    ¬ Spans (totalSteps ⟨2, 2, -1⟩ ⟨3, true⟩ none) (train ⟨2, 2, -1⟩ calm ⟨3, true⟩) := by
  intro spans
  exact absurd spans.horizon (by decide)

end Xaytune.Trainer
