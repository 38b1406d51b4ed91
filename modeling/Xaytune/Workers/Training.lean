import Mathlib.Data.List.Perm.Basic
import Xaytune.Library.System

/-!
# Training with exact checkpoints

`Trainer.train` over the loader of `NativeCheckpointAdapter`: epochs, micro batches, gradient
accumulation, the capture behind an optimizer step and the restore in front of the first. What an
optimizer step consumes is the samples of the micro batches accumulated for it.
-/

namespace Xaytune.Workers

/-- What the attempts of one run share. `order` is the permutation a generator seeded with a
number gives; `maxSteps` and `everySteps` are off unless they are positive. -/
structure TrainingPlan where
  size : Nat
  seed : Int
  epochs : Nat
  maxSteps : Int
  everySteps : Int
  order : Int → List Nat
  orders : ∀ seed, (order seed).Perm (List.range size)

/-- The batch shape one attempt runs with. -/
structure BatchShape where
  micro : Nat
  accumulation : Nat

def BatchShape.effectiveBatch (shape : BatchShape) : Nat := shape.micro * shape.accumulation

/-- What the constructor of `NativeCheckpointAdapter` refuses of a shape. -/
def BatchShape.refused (plan : TrainingPlan) (shape : BatchShape) : Option String :=
  if plan.size < 1 then some "Native exact resume requires a nonempty dataset"
  else if shape.effectiveBatch < 1 ∨ plan.size % shape.effectiveBatch ≠ 0 then
    some "Native exact resume requires full optimizer windows in every epoch"
  else none

structure DataCursor where
  epoch : Nat
  nextSampleOffset : Nat
  examplesSeen : Nat
  deriving DecidableEq

/-- The sampler's own capture, `sampler.json`. -/
structure SamplerCapture where
  seed : Int
  epoch : Nat
  offset : Nat
  size : Nat
  deriving DecidableEq

structure TrainingCheckpoint where
  optimizerStep : Nat
  cursor : DataCursor
  sampler : SamplerCapture
  deriving DecidableEq

inductive TrainEvent where
  | stepped (globalStep : Nat) (samples : List Nat)
  | captured (checkpoint : TrainingCheckpoint)
  | raised (text : String)
  deriving DecidableEq

/-- Where the adapter begins: the epoch and offset it restored, or the very beginning. -/
structure Position where
  epoch : Nat
  offset : Nat

/-- The trainer's state and locals, with what it has done. `window` is what has been accumulated
since the last optimizer step. -/
structure Loop where
  step : Int
  epoch : Nat
  globalStep : Nat
  shouldStop : Bool
  accumCount : Nat
  baseOffset : Nat
  window : List Nat
  events : List TrainEvent
  failed : Bool

namespace Loop

def emit (event : TrainEvent) (loop : Loop) : Loop := { loop with events := loop.events ++ [event] }

def raise (text : String) (loop : Loop) : Loop := { loop.emit (.raised text) with failed := true }

def halted (loop : Loop) : Bool := loop.shouldStop || loop.failed

end Loop

variable (plan : TrainingPlan) (shape : BatchShape)

/-- `capture`, as far as it places the checkpoint. -/
def capture (offset : Nat) (loop : Loop) : Loop :=
  if ¬offset ≤ plan.size ∨ offset % shape.effectiveBatch ≠ 0 then
    loop.raise "Native exact checkpoint requires a consumed optimizer window"
  else if loop.accumCount % shape.accumulation ≠ 0 then
    loop.raise "Native FULL checkpoint requires an optimizer boundary"
  else
    loop.emit (.captured
      { optimizerStep := loop.globalStep
        cursor := ⟨loop.epoch, offset, loop.epoch * plan.size + offset⟩
        sampler := ⟨plan.seed, loop.epoch, offset, plan.size⟩ })

/-- The `step_end` callback of the adapter. -/
def captureDue (loop : Loop) : Loop :=
  if plan.everySteps ≤ 0 ∨ (loop.globalStep : Int) % plan.everySteps ≠ 0 then loop
  else
    capture plan shape
      (min plan.size (loop.baseOffset + (loop.step + 1).toNat * shape.micro)) loop

/-- `stop_training`, once the step limit is reached. -/
def stopAtLimit (loop : Loop) : Loop :=
  if 0 < plan.maxSteps ∧ plan.maxSteps ≤ loop.globalStep then { loop with shouldStop := true }
  else loop

/-- `training_step` with what follows it in the loop. -/
def trainBatch (step : Nat) (batch : List Nat) (loop : Loop) : Loop :=
  let loop :=
    { loop with
      step := step
      accumCount := loop.accumCount + 1
      window := loop.window ++ batch }
  if loop.accumCount % shape.accumulation = 0 then
    let stepped :=
      { loop with globalStep := loop.globalStep + 1, window := [] }.emit
        (.stepped (loop.globalStep + 1) loop.window)
    let captured := captureDue plan shape stepped
    if captured.failed then captured else stopAtLimit plan captured
  else loop

/-- The loop over the loader, whose first `resumed + 1` batches of the restored epoch it skips. -/
def trainBatches (restoredEpoch : Option Nat) (resumed : Int) :
    Nat → List (List Nat) → Loop → Loop
  | _, [], loop => loop
  | step, batch :: rest, loop =>
      if restoredEpoch = some loop.epoch ∧ step ≤ resumed then
        trainBatches restoredEpoch resumed (step + 1) rest loop
      else
        let loop := trainBatch plan shape step batch loop
        if loop.halted then loop else trainBatches restoredEpoch resumed (step + 1) rest loop

/-- The batches a `DataLoader` draws from its sampler. -/
def loaderBatches (micro : Nat) (samples : List Nat) : List (List Nat) :=
  (List.range ((samples.length + micro - 1) / micro)).map fun step =>
    (samples.drop (step * micro)).take micro

/-- The `epoch_start` callback of the adapter. -/
def startEpoch (origin : Position) (epoch : Nat) (loop : Loop) : Loop :=
  { loop with epoch, baseOffset := if epoch = origin.epoch then origin.offset else 0 }

def trainEpoch (origin : Position) (restoredEpoch : Option Nat) (resumed : Int) (epoch : Nat)
    (loop : Loop) : Loop :=
  let loop := startEpoch origin epoch loop
  trainBatches plan shape restoredEpoch resumed 0
    (loaderBatches shape.micro ((plan.order (plan.seed + epoch)).drop loop.baseOffset)) loop

def trainEpochs (origin : Position) (restoredEpoch : Option Nat) (resumed : Int) :
    List Nat → Loop → Loop
  | [], loop => loop
  | epoch :: rest, loop =>
      let loop := trainEpoch plan shape origin restoredEpoch resumed epoch loop
      if loop.halted then loop else trainEpochs origin restoredEpoch resumed rest loop

def Loop.begin (epoch globalStep : Nat) (step : Int) : Loop :=
  ⟨step, epoch, globalStep, false, 0, 0, [], [], false⟩

/-- `bind_restore`: the cursor and the sampler's capture must tell the same place. -/
def bindRestore (checkpoint : TrainingCheckpoint) : Except String Position :=
  let cursor := checkpoint.cursor
  if checkpoint.sampler ≠ ⟨plan.seed, cursor.epoch, cursor.nextSampleOffset, plan.size⟩ ∨
      cursor.nextSampleOffset % shape.effectiveBatch ≠ 0 then
    .error "Native checkpoint cursor disagrees with its sampler capture"
  else if plan.size < cursor.nextSampleOffset then
    .error "invalid exact indexed sampler position"
  else .ok ⟨cursor.epoch, cursor.nextSampleOffset⟩

/-- One attempt, from the beginning or from a checkpoint. -/
def train (checkpoint : Option TrainingCheckpoint) : Loop :=
  match shape.refused plan, checkpoint with
  | some text, _ => (Loop.begin 0 0 0).raise text
  | none, none =>
      trainEpochs plan shape ⟨0, 0⟩ none (-1) (List.range plan.epochs) (.begin 0 0 0)
  | none, some checkpoint =>
      match bindRestore plan shape checkpoint with
      | .error text => (Loop.begin 0 0 0).raise text
      | .ok position =>
          trainEpochs plan shape position (some position.epoch) (-1)
            (List.range' position.epoch (plan.epochs - position.epoch))
            (.begin position.epoch checkpoint.optimizerStep (-1))

/-- The total step count the scheduler is made with. -/
def schedulerSteps : Int :=
  let batches := (plan.size + shape.micro - 1) / shape.micro
  let perEpoch := if 1 < shape.accumulation then batches / shape.accumulation else batches
  let total : Int := perEpoch * plan.epochs
  if 0 < plan.maxSteps then min total plan.maxSteps else total

/-- One attempt of a run: what it did before it was cut off, or ended. -/
structure TrainingAttempt where
  shape : BatchShape
  events : List TrainEvent
  ended : Option Nat
  schedulerSteps : Int

/-- An attempt to be made: its shape, the checkpoint it restores, and after how many events it
is interrupted. -/
structure AttemptPlan where
  shape : BatchShape
  restored : Option TrainingCheckpoint
  interrupted : Option Nat

def attempt (next : AttemptPlan) : TrainingAttempt :=
  let loop := train plan next.shape next.restored
  { shape := next.shape
    events :=
      match next.interrupted with
      | none => loop.events
      | some count => loop.events.take count
    ended :=
      match next.interrupted with
      | none => if loop.failed then none else some loop.globalStep
      | some _ => none
    schedulerSteps := schedulerSteps plan next.shape }

def TrainingAttempt.checkpoints (made : TrainingAttempt) : List TrainingCheckpoint :=
  made.events.filterMap fun event =>
    match event with
    | .captured checkpoint => some checkpoint
    | .stepped _ _ | .raised _ => none

/-- The attempts of a run so far, the last one first. -/
abbrev TrainingRun : Type := List TrainingAttempt

def TrainingRun.checkpoints (run : TrainingRun) : List TrainingCheckpoint :=
  run.flatMap TrainingAttempt.checkpoints

/-- The next attempt of a run. -/
def TrainingRun.step (next : AttemptPlan) (run : TrainingRun) : TrainingRun :=
  attempt plan next :: run

end Xaytune.Workers
