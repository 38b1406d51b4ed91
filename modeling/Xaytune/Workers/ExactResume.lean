import Mathlib.Tactic.Ring
import Xaytune.Workers.Training

/-!
# Resuming exactly

The samples of a run form one sequence, an epoch's permutation behind the other, and optimizer
step `k` consumes the `k`-th window of it. An attempt that begins at a checkpoint goes on in that
sequence, whatever its micro batch and accumulation are, as long as their product is the run's.
-/

namespace Xaytune.Workers

open Xaytune.Library

/-- The samples optimizer step `number` consumes in windows of `batch`. -/
def TrainingPlan.windowOf (plan : TrainingPlan) (batch number : Nat) : List Nat :=
  let before := (number - 1) * batch
  ((plan.order (plan.seed + (before / plan.size : Nat))).drop (before % plan.size)).take batch

/-- The steps behind one step and up to another, with what they consume. -/
def TrainingPlan.windows (plan : TrainingPlan) (batch first last : Nat) : List (Nat × List Nat) :=
  (List.range' (first + 1) (last - first)).map fun number => (number, plan.windowOf batch number)

/-- The step a run ends at. -/
def TrainingPlan.finalStep (plan : TrainingPlan) (batch : Nat) : Nat :=
  if 0 < plan.maxSteps then min plan.maxSteps.toNat (plan.epochs * (plan.size / batch))
  else plan.epochs * (plan.size / batch)

def stepsOf (events : List TrainEvent) : List (Nat × List Nat) :=
  events.filterMap fun event =>
    match event with
    | .stepped globalStep samples => some (globalStep, samples)
    | .captured _ | .raised _ => none

/-- A checkpoint that an optimizer step of the run leaves. -/
structure TrainingPlan.Placed (plan : TrainingPlan) (batch : Nat)
    (checkpoint : TrainingCheckpoint) : Prop where
  sampler : checkpoint.sampler = ⟨plan.seed, checkpoint.cursor.epoch,
    checkpoint.cursor.nextSampleOffset, plan.size⟩
  offset : checkpoint.cursor.nextSampleOffset ≤ plan.size
  aligned : batch ∣ checkpoint.cursor.nextSampleOffset
  epoch : checkpoint.cursor.epoch < plan.epochs
  place : checkpoint.optimizerStep * batch =
    checkpoint.cursor.epoch * plan.size + checkpoint.cursor.nextSampleOffset
  seen : checkpoint.cursor.examplesSeen = checkpoint.optimizerStep * batch
  limit : 0 < plan.maxSteps → (checkpoint.optimizerStep : Int) ≤ plan.maxSteps

theorem TrainingPlan.order_length (plan : TrainingPlan) (seed : Int) :
    (plan.order seed).length = plan.size := by
  rw [(plan.orders seed).length_eq, List.length_range]

theorem TrainingPlan.windows_append {plan : TrainingPlan} {batch first middle last : Nat}
    (le : first ≤ middle) (le' : middle ≤ last) :
    plan.windows batch first middle ++ plan.windows batch middle last =
      plan.windows batch first last := by
  have long : last - first = (middle - first) + (last - middle) := by omega
  have behind : middle + 1 = first + 1 + 1 * (middle - first) := by omega
  rw [windows, windows, windows, ← List.map_append, long, behind, List.range'_append]

/-- The window that begins at an offset of an epoch. -/
theorem TrainingPlan.windowOf_eq {plan : TrainingPlan} {batch globalStep epoch begins : Nat}
    (place : globalStep * batch = epoch * plan.size + begins) (less : begins < plan.size) :
    plan.windowOf batch (globalStep + 1) =
      ((plan.order (plan.seed + epoch)).drop begins).take batch := by
  have positive : 0 < plan.size := by omega
  have quotient : (epoch * plan.size + begins) / plan.size = epoch := by
    rw [Nat.mul_comm, Nat.mul_add_div positive, Nat.div_eq_of_lt less, Nat.add_zero]
  have remainder : (epoch * plan.size + begins) % plan.size = begins := by
    rw [Nat.mul_comm, Nat.mul_add_mod, Nat.mod_eq_of_lt less]
  simp only [windowOf, Nat.add_sub_cancel, place, quotient, remainder]

theorem mod_next {count modulus : Nat} (positive : 0 < modulus) :
    count % modulus + 1 = modulus ∧ (count + 1) % modulus = 0 ∨
      count % modulus + 1 < modulus ∧ (count + 1) % modulus = count % modulus + 1 := by
  have less := Nat.mod_lt count positive
  rw [← Nat.mod_add_mod count modulus 1]
  rcases Nat.lt_or_eq_of_le (Nat.succ_le_of_lt less) with below | last
  · exact .inr ⟨below, Nat.mod_eq_of_lt below⟩
  · exact .inl ⟨last, by rw [show count % modulus + 1 = modulus from last, Nat.mod_self]⟩

section Attempt

variable (plan : TrainingPlan) (shape : BatchShape)

/-- What an attempt has done between two of its states. -/
structure Advances (before after : Loop) : Prop where
  grows : before.globalStep ≤ after.globalStep
  steps : stepsOf after.events = stepsOf before.events ++
    plan.windows shape.effectiveBatch before.globalStep after.globalStep
  captures : ∀ checkpoint, .captured checkpoint ∈ after.events →
    .captured checkpoint ∈ before.events ∨ plan.Placed shape.effectiveBatch checkpoint
  unraised : ∀ text, .raised text ∈ after.events → .raised text ∈ before.events
  sane : after.failed = before.failed

/-- The trainer in front of a micro batch; the window it accumulates begins at `begins`. -/
structure At (begins : Nat) (loop : Loop) : Prop where
  epoch : loop.epoch < plan.epochs
  place : loop.globalStep * shape.effectiveBatch = loop.epoch * plan.size + begins
  window : loop.window = ((plan.order (plan.seed + loop.epoch)).drop begins).take
    (loop.accumCount % shape.accumulation * shape.micro)
  sane : loop.failed = false
  running : loop.shouldStop = false
  limit : 0 < plan.maxSteps → (loop.globalStep : Int) ≤ plan.maxSteps
  room : 0 < plan.maxSteps → (loop.globalStep : Int) < plan.maxSteps ∨
    plan.epochs * plan.size ≤ loop.globalStep * shape.effectiveBatch

/-- The step limit stopped the trainer. -/
structure Stopped (loop : Loop) : Prop where
  stopped : loop.shouldStop = true
  sane : loop.failed = false
  limited : 0 < plan.maxSteps
  reached : (loop.globalStep : Int) = plan.maxSteps
  bound : loop.globalStep * shape.effectiveBatch ≤ plan.epochs * plan.size

variable {plan shape} {loop before middle after : Loop} {begins : Nat}

theorem Advances.refl (loop : Loop) : Advances plan shape loop loop := by
  refine ⟨Nat.le_refl _, ?_, fun _ member => .inl member, fun _ member => member, rfl⟩
  simp [TrainingPlan.windows]

theorem Advances.trans (first : Advances plan shape before middle)
    (second : Advances plan shape middle after) : Advances plan shape before after := by
  refine ⟨Nat.le_trans first.grows second.grows, ?_, ?_, ?_, second.sane.trans first.sane⟩
  · rw [second.steps, first.steps, List.append_assoc,
      TrainingPlan.windows_append first.grows second.grows]
  · intro checkpoint member
    rcases second.captures checkpoint member with earlier | placed
    · exact first.captures checkpoint earlier
    · exact .inr placed
  · intro text member
    exact first.unraised text (second.unraised text member)

/-- What the adapter's constructor lets through. -/
structure BatchShape.Fits (plan : TrainingPlan) (shape : BatchShape) : Prop where
  nonempty : 0 < plan.size
  positive : 0 < shape.effectiveBatch
  full : shape.effectiveBatch ∣ plan.size

theorem BatchShape.fits_iff : shape.refused plan = none ↔ shape.Fits plan := by
  unfold BatchShape.refused
  split_ifs with empty short
  · exact ⟨nofun, fun fits => absurd fits.nonempty (by omega)⟩
  · refine ⟨nofun, fun fits => ?_⟩
    rcases short with small | ragged
    · exact absurd fits.positive (by omega)
    · exact absurd (Nat.mod_eq_zero_of_dvd fits.full) ragged
  · refine ⟨fun _ => ⟨by omega, by omega, ?_⟩, fun _ => rfl⟩
    apply Nat.dvd_of_mod_eq_zero
    by_contra ragged
    exact short (.inr ragged)

theorem BatchShape.Fits.accumulation (fits : shape.Fits plan) : 0 < shape.accumulation :=
  Nat.pos_of_mul_pos_left fits.positive

theorem BatchShape.Fits.micro (fits : shape.Fits plan) : 0 < shape.micro :=
  Nat.pos_of_mul_pos_right fits.positive

/-- A place of the run lies on a window's edge. -/
theorem BatchShape.Fits.aligned (fits : shape.Fits plan) {globalStep epoch offset : Nat}
    (place : globalStep * shape.effectiveBatch = epoch * plan.size + offset) :
    shape.effectiveBatch ∣ offset := by
  have whole : shape.effectiveBatch ∣ epoch * plan.size + offset := by
    rw [← place]
    exact Nat.dvd_mul_left _ _
  exact (Nat.dvd_add_right (Nat.dvd_mul_left_of_dvd fits.full _)).mp whole

/-- A capture behind an optimizer step is accepted, and tells where the run stands. -/
theorem captureDue_placed (fits : shape.Fits plan) {offset : Nat}
    (isOffset : loop.baseOffset + (loop.step + 1).toNat * shape.micro = offset)
    (le : offset ≤ plan.size) (epoch : loop.epoch < plan.epochs)
    (place : loop.globalStep * shape.effectiveBatch = loop.epoch * plan.size + offset)
    (boundary : loop.accumCount % shape.accumulation = 0)
    (limit : 0 < plan.maxSteps → (loop.globalStep : Int) ≤ plan.maxSteps) :
    captureDue plan shape loop = loop ∨ ∃ checkpoint,
      plan.Placed shape.effectiveBatch checkpoint ∧
        captureDue plan shape loop = loop.emit (.captured checkpoint) := by
  have aligned := fits.aligned place
  unfold captureDue
  split_ifs with due
  · exact .inl rfl
  · have accepted : ¬(¬offset ≤ plan.size ∨ offset % shape.effectiveBatch ≠ 0) := by
      rintro (far | ragged)
      · exact far le
      · exact ragged (Nat.mod_eq_zero_of_dvd aligned)
    refine .inr ⟨⟨loop.globalStep, ⟨loop.epoch, offset, loop.epoch * plan.size + offset⟩,
      ⟨plan.seed, loop.epoch, offset, plan.size⟩⟩, ?_, ?_⟩
    · exact ⟨rfl, le, aligned, epoch, place, place.symm, limit⟩
    · rw [isOffset, Nat.min_eq_right le, capture, if_neg accepted, if_neg (not_not.mpr boundary)]

/-- The trainer behind the optimizer step that `batch` completes. -/
def stepped (step : Nat) (batch : List Nat) (loop : Loop) : Loop :=
  { loop with
    step := step
    accumCount := loop.accumCount + 1
    globalStep := loop.globalStep + 1
    window := []
    events := loop.events ++ [.stepped (loop.globalStep + 1) (loop.window ++ batch)] }

theorem Advances.stepped {step : Nat} {batch : List Nat}
    (consumed : loop.window ++ batch =
      plan.windowOf shape.effectiveBatch (loop.globalStep + 1)) :
    Advances plan shape loop (stepped step batch loop) := by
  refine ⟨Nat.le_succ _, ?_, ?_, ?_, rfl⟩
  · simp [Workers.stepped, stepsOf, TrainingPlan.windows, consumed]
  · intro checkpoint member
    exact .inl (by simpa [Workers.stepped] using member)
  · intro text member
    simpa [Workers.stepped] using member

theorem Advances.emit {checkpoint : TrainingCheckpoint}
    (placed : plan.Placed shape.effectiveBatch checkpoint) :
    Advances plan shape loop (loop.emit (.captured checkpoint)) := by
  refine ⟨Nat.le_refl _, ?_, ?_, ?_, rfl⟩
  · simp [Loop.emit, stepsOf, TrainingPlan.windows]
  · intro other member
    rcases List.mem_append.mp member with earlier | new
    · exact .inl earlier
    · obtain rfl := TrainEvent.captured.inj (List.mem_singleton.mp new)
      exact .inr placed
  · intro text member
    simpa [Loop.emit] using member

theorem Advances.stopAtLimit : Advances plan shape loop (stopAtLimit plan loop) := by
  have same := @Advances.refl plan shape loop
  unfold Workers.stopAtLimit
  split_ifs
  · exact ⟨same.grows, same.steps, same.captures, same.unraised, same.sane⟩
  · exact same

theorem trainBatch_inside {step : Nat} {batch : List Nat}
    (inside : (loop.accumCount + 1) % shape.accumulation ≠ 0) :
    trainBatch plan shape step batch loop =
      { loop with
        step := step, accumCount := loop.accumCount + 1, window := loop.window ++ batch } :=
  if_neg inside

theorem trainBatch_boundary {step : Nat} {batch : List Nat}
    (boundary : (loop.accumCount + 1) % shape.accumulation = 0)
    (sane : (captureDue plan shape (stepped step batch loop)).failed = false) :
    trainBatch plan shape step batch loop =
      stopAtLimit plan (captureDue plan shape (stepped step batch loop)) := by
  have due : trainBatch plan shape step batch loop =
      if (captureDue plan shape (stepped step batch loop)).failed then
        captureDue plan shape (stepped step batch loop)
      else stopAtLimit plan (captureDue plan shape (stepped step batch loop)) := if_pos boundary
  rw [due, sane]
  rfl

/-- The samples accumulated, with those of the next micro batch. -/
theorem At.window_append (at_ : At plan shape begins loop) :
    loop.window ++ ((plan.order (plan.seed + loop.epoch)).drop
        (begins + loop.accumCount % shape.accumulation * shape.micro)).take shape.micro =
      ((plan.order (plan.seed + loop.epoch)).drop begins).take
        ((loop.accumCount % shape.accumulation + 1) * shape.micro) := by
  rw [at_.window, Nat.add_mul, Nat.one_mul, List.take_add, List.drop_drop]

/-- With a batch left, the limit has not been reached. -/
theorem At.below (at_ : At plan shape begins loop)
    (less : begins < plan.size) (limited : 0 < plan.maxSteps) :
    (loop.globalStep : Int) < plan.maxSteps := by
  rcases at_.room limited with below | spent
  · exact below
  · exfalso
    rw [at_.place] at spent
    have next : (loop.epoch + 1) * plan.size ≤ plan.epochs * plan.size :=
      Nat.mul_le_mul_right _ at_.epoch
    rw [Nat.add_mul, Nat.one_mul] at next
    omega

/-- What a turn of the loop leaves: the epoch and its base as they were, some steps of the run
done, and the trainer stopped or in front of the next batch. -/
structure Turned (plan : TrainingPlan) (shape : BatchShape) (consumed : Nat)
    (before after : Loop) : Prop where
  epoch : after.epoch = before.epoch
  base : after.baseOffset = before.baseOffset
  advances : Advances plan shape before after
  next : Stopped plan shape after ∨ ∃ begins, At plan shape begins after ∧
    begins + after.accumCount % shape.accumulation * shape.micro = consumed

theorem At.turned_inside (at_ : At plan shape begins loop) {step : Nat}
    (inside : (loop.accumCount + 1) % shape.accumulation =
      loop.accumCount % shape.accumulation + 1) :
    Turned plan shape (begins + (loop.accumCount % shape.accumulation + 1) * shape.micro) loop
      (trainBatch plan shape step (((plan.order (plan.seed + loop.epoch)).drop
        (begins + loop.accumCount % shape.accumulation * shape.micro)).take shape.micro) loop) := by
  rw [trainBatch_inside (by omega)]
  have same := @Advances.refl plan shape loop
  refine ⟨rfl, rfl, ⟨same.grows, same.steps, same.captures, same.unraised, same.sane⟩,
    .inr ⟨begins, ⟨at_.epoch, at_.place, ?_, at_.sane, at_.running, at_.limit, at_.room⟩, ?_⟩⟩
  · simp only [inside]
    exact at_.window_append
  · simp only [inside]

theorem At.turned_boundary (at_ : At plan shape begins loop) (fits : shape.Fits plan) {step : Nat}
    (stepAt : loop.baseOffset + step * shape.micro =
      begins + loop.accumCount % shape.accumulation * shape.micro)
    (last : loop.accumCount % shape.accumulation + 1 = shape.accumulation)
    (boundary : (loop.accumCount + 1) % shape.accumulation = 0)
    (more : begins + shape.effectiveBatch ≤ plan.size) :
    Turned plan shape (begins + shape.effectiveBatch) loop
      (trainBatch plan shape step (((plan.order (plan.seed + loop.epoch)).drop
        (begins + loop.accumCount % shape.accumulation * shape.micro)).take shape.micro) loop) := by
  have full : (loop.accumCount % shape.accumulation + 1) * shape.micro = shape.effectiveBatch := by
    rw [last, Nat.mul_comm]
    rfl
  have positive := fits.positive
  have less : begins < plan.size := by omega
  set batch := ((plan.order (plan.seed + loop.epoch)).drop
    (begins + loop.accumCount % shape.accumulation * shape.micro)).take shape.micro with isBatch
  have consumed : loop.window ++ batch =
      plan.windowOf shape.effectiveBatch (loop.globalStep + 1) := by
    rw [at_.window_append, full, TrainingPlan.windowOf_eq at_.place less]
  have place : (loop.globalStep + 1) * shape.effectiveBatch =
      loop.epoch * plan.size + (begins + shape.effectiveBatch) := by
    rw [Nat.add_mul, Nat.one_mul, at_.place, Nat.add_assoc]
  have offset : (stepped step batch loop).baseOffset +
      ((stepped step batch loop).step + 1).toNat * shape.micro =
        begins + shape.effectiveBatch := by
    have next : ((step : Int) + 1).toNat = step + 1 := by omega
    simp only [stepped, next]
    rw [Nat.add_mul, Nat.one_mul, ← Nat.add_assoc, stepAt, ← full, Nat.add_mul, Nat.one_mul,
      Nat.add_assoc]
  have limit : 0 < plan.maxSteps →
    ((stepped step batch loop).globalStep : Int) ≤ plan.maxSteps := by
    intro limited
    have below := at_.below less limited
    simp only [stepped]
    omega
  have advances : Advances plan shape loop (captureDue plan shape (stepped step batch loop)) ∧
      ∃ events, captureDue plan shape (stepped step batch loop) =
        { stepped step batch loop with events } := by
    rcases captureDue_placed fits offset more at_.epoch place boundary limit with
      idle | ⟨checkpoint, placed, captured⟩
    · rw [idle]
      exact ⟨.stepped consumed, _, rfl⟩
    · rw [captured]
      exact ⟨(Advances.stepped consumed).trans (.emit placed), _, rfl⟩
  obtain ⟨advances, events, isCaptured⟩ := advances
  have sane : (captureDue plan shape (stepped step batch loop)).failed = false := by
    rw [isCaptured]
    exact at_.sane
  rw [trainBatch_boundary boundary sane]
  refine ⟨?_, ?_, advances.trans .stopAtLimit, ?_⟩
  · rw [isCaptured, stopAtLimit]
    split_ifs <;> rfl
  · rw [isCaptured, stopAtLimit]
    split_ifs <;> rfl
  · rw [isCaptured, stopAtLimit]
    have whole : loop.epoch * plan.size + (begins + shape.effectiveBatch) ≤
        plan.epochs * plan.size := by
      have next : (loop.epoch + 1) * plan.size ≤ plan.epochs * plan.size :=
        Nat.mul_le_mul_right _ at_.epoch
      rw [Nat.add_mul, Nat.one_mul] at next
      omega
    split_ifs with reached
    · refine .inl ⟨rfl, at_.sane, reached.1, Int.le_antisymm (limit reached.1) reached.2, ?_⟩
      exact Nat.le_trans (Nat.le_of_eq place) whole
    · refine .inr ⟨begins + shape.effectiveBatch,
        ⟨at_.epoch, place, ?_, at_.sane, at_.running, limit, ?_⟩, ?_⟩
      · simp [stepped, boundary]
      · intro limited
        refine .inl (Int.not_le.mp ?_)
        intro shut
        exact reached ⟨limited, shut⟩
      · simp [stepped, boundary]

/-- One micro batch: the window grows, or an optimizer step consumes it. -/
theorem At.turned (at_ : At plan shape begins loop) (fits : shape.Fits plan) {step : Nat}
    (stepAt : loop.baseOffset + step * shape.micro =
      begins + loop.accumCount % shape.accumulation * shape.micro)
    (more : begins + (loop.accumCount % shape.accumulation + 1) * shape.micro ≤ plan.size) :
    Turned plan shape (begins + (loop.accumCount % shape.accumulation + 1) * shape.micro) loop
      (trainBatch plan shape step (((plan.order (plan.seed + loop.epoch)).drop
        (begins + loop.accumCount % shape.accumulation * shape.micro)).take shape.micro) loop) := by
  rcases @mod_next loop.accumCount _ fits.accumulation with ⟨last, boundary⟩ | ⟨-, inside⟩
  · have full : (loop.accumCount % shape.accumulation + 1) * shape.micro =
        shape.effectiveBatch := by
      rw [last, Nat.mul_comm]
      rfl
    rw [full] at more ⊢
    exact at_.turned_boundary fits stepAt last boundary more
  · exact at_.turned_inside inside

theorem Turned.trans {consumed consumed' : Nat} (first : Turned plan shape consumed before middle)
    (second : Turned plan shape consumed' middle after) :
    Turned plan shape consumed' before after :=
  ⟨second.epoch.trans first.epoch, second.base.trans first.base,
    first.advances.trans second.advances, second.next⟩

/-- The batches of an epoch from one of them on. -/
def batchesFrom (plan : TrainingPlan) (shape : BatchShape) (loop : Loop) (step count : Nat) :
    List (List Nat) :=
  (List.range' step count).map fun step =>
    ((plan.order (plan.seed + loop.epoch)).drop
      (loop.baseOffset + step * shape.micro)).take shape.micro

/-- The rest of an epoch's batches; the induction is on how many are left. -/
theorem At.batches (at_ : At plan shape begins loop) (fits : shape.Fits plan)
    {restoredEpoch : Option Nat} {step : Nat} (count : Nat)
    (stepAt : loop.baseOffset + step * shape.micro =
      begins + loop.accumCount % shape.accumulation * shape.micro)
    (total : loop.baseOffset + (step + count) * shape.micro = plan.size) :
    Turned plan shape plan.size loop
      (trainBatches plan shape restoredEpoch (-1) step (batchesFrom plan shape loop step count)
        loop) := by
  induction count generalizing loop begins step with
  | zero =>
      exact ⟨rfl, rfl, .refl loop, .inr ⟨begins, at_, stepAt.symm.trans total⟩⟩
  | succ count ih =>
      have unskipped : ¬(restoredEpoch = some loop.epoch ∧ (step : Int) ≤ -1) := by omega
      have more : begins + (loop.accumCount % shape.accumulation + 1) * shape.micro ≤
          plan.size := by
        rw [Nat.add_mul, Nat.one_mul, ← Nat.add_assoc, ← stepAt, ← total, Nat.add_assoc]
        apply Nat.add_le_add_left
        rw [← Nat.succ_mul]
        exact Nat.mul_le_mul_right _ (by omega)
      have turned := at_.turned fits stepAt more
      rw [← stepAt] at turned
      have rest : batchesFrom plan shape loop step (count + 1) =
          ((plan.order (plan.seed + loop.epoch)).drop
            (loop.baseOffset + step * shape.micro)).take shape.micro ::
          batchesFrom plan shape loop (step + 1) count := rfl
      rw [rest, trainBatches, if_neg unskipped]
      simp only
      set after := trainBatch plan shape step (((plan.order (plan.seed + loop.epoch)).drop
        (loop.baseOffset + step * shape.micro)).take shape.micro) loop with isAfter
      rcases turned.next with stopped | ⟨begins', next, consumed⟩
      · have halted : after.halted = true := by simp [Loop.halted, stopped.stopped]
        rw [halted, if_pos rfl]
        exact ⟨turned.epoch, turned.base, turned.advances, .inl stopped⟩
      · have running : after.halted = false := by simp [Loop.halted, next.running, next.sane]
        have same : batchesFrom plan shape loop (step + 1) count =
            batchesFrom plan shape after (step + 1) count := by
          simp only [batchesFrom, turned.epoch, turned.base]
        rw [running, same]
        refine turned.trans (ih next ?_ ?_)
        · rw [consumed, turned.base, Nat.add_mul, Nat.one_mul, ← Nat.add_assoc, stepAt,
            Nat.add_mul, Nat.one_mul, Nat.add_assoc]
        · rw [turned.base, ← total]
          congr 2
          omega

theorem loaderBatches_eq (fits : shape.Fits plan) (aligned : shape.effectiveBatch ∣ loop.baseOffset)
    (le : loop.baseOffset ≤ plan.size) :
    ∃ count, loop.baseOffset + count * shape.micro = plan.size ∧
      loaderBatches shape.micro
        ((plan.order (plan.seed + loop.epoch)).drop loop.baseOffset) =
          batchesFrom plan shape loop 0 count := by
  have divides : shape.micro ∣ plan.size - loop.baseOffset := by
    have micro : shape.micro ∣ shape.effectiveBatch := Nat.dvd_mul_right _ _
    exact Nat.dvd_sub (micro.trans fits.full) (micro.trans aligned)
  obtain ⟨count, rest⟩ := divides
  have positive := fits.micro
  rw [Nat.mul_comm] at rest
  refine ⟨count, by omega, ?_⟩
  have batches : (count * shape.micro + shape.micro - 1) / shape.micro = count := by
    apply Nat.div_eq_of_lt_le
    · omega
    · rw [Nat.succ_mul]
      omega
  simp only [loaderBatches, List.length_drop, TrainingPlan.order_length, rest, batches,
    batchesFrom, List.drop_drop, List.range_eq_range']

def Position.base (origin : Position) (epoch : Nat) : Nat :=
  if epoch = origin.epoch then origin.offset else 0

/-- The trainer in front of an epoch. -/
structure Between (plan : TrainingPlan) (shape : BatchShape) (origin : Position) (epoch : Nat)
    (loop : Loop) : Prop where
  place : loop.globalStep * shape.effectiveBatch = epoch * plan.size + origin.base epoch
  offset : origin.base epoch ≤ plan.size
  window : loop.window = []
  boundary : loop.accumCount % shape.accumulation = 0
  sane : loop.failed = false
  running : loop.shouldStop = false
  limit : 0 < plan.maxSteps → (loop.globalStep : Int) ≤ plan.maxSteps
  room : 0 < plan.maxSteps → (loop.globalStep : Int) < plan.maxSteps ∨
    plan.epochs * plan.size ≤ loop.globalStep * shape.effectiveBatch

/-- A window that ends with its epoch is empty. -/
theorem At.at_end (at_ : At plan shape begins loop) (fits : shape.Fits plan)
    (consumed : begins + loop.accumCount % shape.accumulation * shape.micro = plan.size) :
    begins = plan.size ∧ loop.accumCount % shape.accumulation = 0 := by
  have aligned := fits.aligned at_.place
  have part : shape.effectiveBatch ∣ loop.accumCount % shape.accumulation * shape.micro := by
    apply (Nat.dvd_add_right aligned).mp
    rw [consumed]
    exact fits.full
  have short : loop.accumCount % shape.accumulation * shape.micro < shape.effectiveBatch := by
    rw [BatchShape.effectiveBatch, Nat.mul_comm shape.micro]
    exact Nat.mul_lt_mul_of_pos_right (Nat.mod_lt _ fits.accumulation) fits.micro
  have nothing := Nat.eq_zero_of_dvd_of_lt part short
  refine ⟨by omega, ?_⟩
  rcases Nat.mul_eq_zero.mp nothing with zero | zero
  · exact zero
  · exact absurd zero (Nat.pos_iff_ne_zero.mp fits.micro)

/-- One epoch, from its base to its end or to the step limit. -/
theorem Between.trainEpoch {origin : Position} {epoch : Nat} {restoredEpoch : Option Nat}
    (between : Between plan shape origin epoch loop) (fits : shape.Fits plan)
    (less : epoch < plan.epochs) (begun : origin.epoch ≤ epoch) :
    Advances plan shape loop (trainEpoch plan shape origin restoredEpoch (-1) epoch loop) ∧
      (Stopped plan shape (trainEpoch plan shape origin restoredEpoch (-1) epoch loop) ∨
        Between plan shape origin (epoch + 1)
          (trainEpoch plan shape origin restoredEpoch (-1) epoch loop)) := by
  have start : At plan shape (origin.base epoch) (startEpoch origin epoch loop) := by
    refine ⟨less, between.place, ?_, between.sane, between.running, between.limit, between.room⟩
    simp [startEpoch, between.window, between.boundary]
  have aligned : shape.effectiveBatch ∣ (startEpoch origin epoch loop).baseOffset :=
    fits.aligned between.place
  obtain ⟨count, total, batches⟩ := loaderBatches_eq fits aligned between.offset
  have stepAt : (startEpoch origin epoch loop).baseOffset + 0 * shape.micro =
      origin.base epoch +
        (startEpoch origin epoch loop).accumCount % shape.accumulation * shape.micro := by
    simp [startEpoch, between.boundary, Position.base]
  have turned := @At.batches _ _ _ _ start fits restoredEpoch 0 count stepAt
    (by rw [Nat.zero_add]; exact total)
  have isEpoch : Workers.trainEpoch plan shape origin restoredEpoch (-1) epoch loop =
      trainBatches plan shape restoredEpoch (-1) 0
        (batchesFrom plan shape (startEpoch origin epoch loop) 0 count)
        (startEpoch origin epoch loop) := by
    rw [← batches]
    rfl
  rw [isEpoch]
  set after := trainBatches plan shape restoredEpoch (-1) 0
    (batchesFrom plan shape (startEpoch origin epoch loop) 0 count)
    (startEpoch origin epoch loop) with isAfter
  have advances := turned.advances
  refine ⟨⟨advances.grows, advances.steps, advances.captures, advances.unraised, advances.sane⟩,
    ?_⟩
  rcases turned.next with stopped | ⟨begins, at_, consumed⟩
  · exact .inl stopped
  · obtain ⟨rfl, boundary⟩ := at_.at_end fits consumed
    have next : origin.base (epoch + 1) = 0 := if_neg (by omega)
    have isHere : after.epoch = epoch := turned.epoch
    refine .inr ⟨?_, by omega, ?_, boundary, at_.sane, at_.running, at_.limit, at_.room⟩
    · rw [at_.place, next, isHere, Nat.add_mul, Nat.one_mul, Nat.add_zero]
    · rw [at_.window, boundary, Nat.zero_mul, List.take_zero]

/-- The attempt returned at the run's last step. -/
structure Ended (plan : TrainingPlan) (shape : BatchShape) (before after : Loop) : Prop where
  advances : Advances plan shape before after
  sane : after.failed = false
  last : after.globalStep = plan.finalStep shape.effectiveBatch

theorem BatchShape.Fits.epochs_mul (fits : shape.Fits plan) :
    plan.epochs * plan.size =
      plan.epochs * (plan.size / shape.effectiveBatch) * shape.effectiveBatch := by
  rw [Nat.mul_assoc, Nat.div_mul_cancel fits.full]

theorem Stopped.last (stopped : Stopped plan shape loop) (fits : shape.Fits plan) :
    loop.globalStep = plan.finalStep shape.effectiveBatch := by
  have bound := stopped.bound
  rw [fits.epochs_mul] at bound
  have le := Nat.le_of_mul_le_mul_right bound fits.positive
  have reached := stopped.reached
  rw [TrainingPlan.finalStep, if_pos stopped.limited]
  omega

theorem Between.last {origin : Position}
    (between : Between plan shape origin plan.epochs loop) (fits : shape.Fits plan)
    (rests : origin.base plan.epochs = 0) :
    loop.globalStep = plan.finalStep shape.effectiveBatch := by
  have place := between.place
  rw [rests, Nat.add_zero, fits.epochs_mul] at place
  have whole := Nat.eq_of_mul_eq_mul_right fits.positive place
  have limit := between.limit
  rw [TrainingPlan.finalStep]
  split_ifs with limited
  · have := limit limited
    omega
  · exact whole

/-- The epochs that are left; the induction is on how many. -/
theorem Between.trainEpochs {origin : Position} {restoredEpoch : Option Nat} {epoch : Nat}
    (count : Nat) (between : Between plan shape origin epoch loop) (fits : shape.Fits plan)
    (total : epoch + count = plan.epochs) (begun : origin.epoch ≤ epoch)
    (rests : origin.base plan.epochs = 0) :
    Ended plan shape loop
      (trainEpochs plan shape origin restoredEpoch (-1) (List.range' epoch count) loop) := by
  induction count generalizing epoch loop with
  | zero =>
      obtain rfl : epoch = plan.epochs := total
      exact ⟨.refl loop, between.sane, between.last fits rests⟩
  | succ count ih =>
      obtain ⟨advances, next⟩ :=
        @Between.trainEpoch _ _ _ _ _ restoredEpoch between fits (by omega) begun
      rw [List.range'_succ, Workers.trainEpochs]
      set after := Workers.trainEpoch plan shape origin restoredEpoch (-1) epoch loop with isAfter
      rcases next with stopped | next
      · have halted : after.halted = true := by simp [Loop.halted, stopped.stopped]
        rw [halted, if_pos rfl]
        exact ⟨advances, stopped.sane, stopped.last fits⟩
      · have running : after.halted = false := by simp [Loop.halted, next.running, next.sane]
        rw [running]
        have rest := ih next (by omega) (by omega)
        exact ⟨advances.trans rest.advances, rest.sane, rest.last⟩

theorem Ended.of_train (fits : shape.Fits plan) :
    Ended plan shape (.begin 0 0 0) (train plan shape none) := by
  have accepted := BatchShape.fits_iff.mpr fits
  have between : Between plan shape ⟨0, 0⟩ 0 (.begin 0 0 0) := by
    refine ⟨?_, by simp [Position.base], rfl, by simp [Loop.begin], rfl, rfl, ?_, ?_⟩
    · simp [Loop.begin, Position.base]
    · intro limited
      simp only [Loop.begin]
      omega
    · intro limited
      simp only [Loop.begin]
      omega
  have rests : (Position.mk 0 0).base plan.epochs = 0 := by simp [Position.base]
  have ended := @Between.trainEpochs _ _ _ _ none _ plan.epochs between fits (Nat.zero_add _)
    (Nat.le_refl _) rests
  simpa [Workers.train, accepted, List.range_eq_range'] using ended

/-- A checkpoint of the run's last permitted step, with samples left. -/
def TrainingPlan.Spent (plan : TrainingPlan) (batch : Nat) (checkpoint : TrainingCheckpoint) :
    Prop :=
  0 < plan.maxSteps ∧ (checkpoint.optimizerStep : Int) = plan.maxSteps ∧
    checkpoint.optimizerStep < plan.epochs * (plan.size / batch)

instance (plan : TrainingPlan) (batch : Nat) (checkpoint : TrainingCheckpoint) :
    Decidable (plan.Spent batch checkpoint) := inferInstanceAs (Decidable (_ ∧ _))

theorem bindRestore_placed {checkpoint : TrainingCheckpoint}
    (placed : plan.Placed shape.effectiveBatch checkpoint) :
    bindRestore plan shape checkpoint =
      .ok ⟨checkpoint.cursor.epoch, checkpoint.cursor.nextSampleOffset⟩ := by
  have agrees : ¬(checkpoint.sampler ≠ ⟨plan.seed, checkpoint.cursor.epoch,
      checkpoint.cursor.nextSampleOffset, plan.size⟩ ∨
      checkpoint.cursor.nextSampleOffset % shape.effectiveBatch ≠ 0) := by
    rintro (other | ragged)
    · exact other placed.sampler
    · exact ragged (Nat.mod_eq_zero_of_dvd placed.aligned)
  have inside : ¬plan.size < checkpoint.cursor.nextSampleOffset := by
    have := placed.offset
    omega
  simp only [bindRestore, if_neg agrees, if_neg inside]

theorem Ended.of_train_restored (fits : shape.Fits plan) {checkpoint : TrainingCheckpoint}
    (placed : plan.Placed shape.effectiveBatch checkpoint)
    (unspent : ¬plan.Spent shape.effectiveBatch checkpoint) :
    Ended plan shape (.begin checkpoint.cursor.epoch checkpoint.optimizerStep (-1))
      (Workers.train plan shape (some checkpoint)) := by
  have accepted := BatchShape.fits_iff.mpr fits
  set origin : Position := ⟨checkpoint.cursor.epoch, checkpoint.cursor.nextSampleOffset⟩
    with isOrigin
  have base : origin.base checkpoint.cursor.epoch = checkpoint.cursor.nextSampleOffset :=
    if_pos rfl
  have epoch := placed.epoch
  have between : Between plan shape origin checkpoint.cursor.epoch
      (.begin checkpoint.cursor.epoch checkpoint.optimizerStep (-1)) := by
    refine ⟨?_, ?_, rfl, by simp [Loop.begin], rfl, rfl, placed.limit, ?_⟩
    · rw [base]
      exact placed.place
    · rw [base]
      exact placed.offset
    · intro limited
      rcases Int.lt_or_eq_of_le (placed.limit limited) with below | reached
      · exact .inl below
      · refine .inr ?_
        rw [fits.epochs_mul]
        apply Nat.mul_le_mul_right
        by_contra more
        exact unspent ⟨limited, reached, Nat.not_le.mp more⟩
  have rests : origin.base plan.epochs = 0 := by
    apply if_neg
    simp only [isOrigin]
    omega
  have ended := @Between.trainEpochs _ _ _ _ (some checkpoint.cursor.epoch) _
    (plan.epochs - checkpoint.cursor.epoch) between fits (by omega) (Nat.le_refl _) rests
  simpa [Workers.train, accepted, bindRestore_placed placed] using ended

theorem mem_stepsOf {events : List TrainEvent} {globalStep : Nat} {samples : List Nat} :
    (globalStep, samples) ∈ stepsOf events ↔ .stepped globalStep samples ∈ events := by
  simp only [stepsOf, List.mem_filterMap]
  constructor
  · rintro ⟨event, member, found⟩
    cases event with
    | stepped other others =>
        obtain ⟨rfl, rfl⟩ := Prod.mk.inj (Option.some.inj found)
        exact member
    | captured _ => cases found
    | raised _ => cases found
  · intro member
    exact ⟨_, member, rfl⟩

theorem TrainingPlan.mem_windows {batch first last number : Nat} {samples : List Nat} :
    (number, samples) ∈ plan.windows batch first last ↔
      first < number ∧ number ≤ last ∧ samples = plan.windowOf batch number := by
  simp only [windows, List.mem_map, List.mem_range'_1, Prod.mk.injEq]
  constructor
  · rintro ⟨other, ⟨above, below⟩, rfl, rfl⟩
    exact ⟨by omega, by omega, rfl⟩
  · rintro ⟨above, below, rfl⟩
    exact ⟨number, ⟨by omega, by omega⟩, rfl, rfl⟩

/-- What an attempt that returned has stepped through. -/
theorem Ended.stepped_iff (ended : Ended plan shape before after) (fresh : before.events = [])
    {globalStep : Nat} {samples : List Nat} :
    .stepped globalStep samples ∈ after.events ↔ before.globalStep < globalStep ∧
      globalStep ≤ plan.finalStep shape.effectiveBatch ∧
      samples = plan.windowOf shape.effectiveBatch globalStep := by
  rw [← mem_stepsOf, ended.advances.steps, fresh, ended.last]
  exact TrainingPlan.mem_windows

theorem Ended.captured (ended : Ended plan shape before after) (fresh : before.events = [])
    {checkpoint : TrainingCheckpoint} (member : .captured checkpoint ∈ after.events) :
    plan.Placed shape.effectiveBatch checkpoint := by
  rcases ended.advances.captures checkpoint member with earlier | placed
  · rw [fresh] at earlier
    cases earlier
  · exact placed

theorem Ended.unraised (ended : Ended plan shape before after) (fresh : before.events = [])
    (text : String) : .raised text ∉ after.events := by
  intro member
  have earlier := ended.advances.unraised text member
  rw [fresh] at earlier
  cases earlier

theorem schedulerSteps_eq (fits : shape.Fits plan) :
    schedulerSteps plan shape =
      let total : Int := (plan.size / shape.effectiveBatch : Nat) * plan.epochs
      if 0 < plan.maxSteps then min total plan.maxSteps else total := by
  have positive := fits.micro
  have divides : shape.micro ∣ plan.size := (Nat.dvd_mul_right _ _).trans fits.full
  obtain ⟨count, size⟩ := divides
  have batches : (plan.size + shape.micro - 1) / shape.micro = plan.size / shape.micro := by
    rw [size, Nat.mul_div_cancel_left _ positive]
    apply Nat.div_eq_of_lt_le
    · rw [Nat.mul_comm count]
      omega
    · rw [Nat.succ_mul, Nat.mul_comm count]
      omega
  have perEpoch : (if 1 < shape.accumulation then
      (plan.size + shape.micro - 1) / shape.micro / shape.accumulation
      else (plan.size + shape.micro - 1) / shape.micro) =
        plan.size / shape.effectiveBatch := by
    rw [batches, BatchShape.effectiveBatch]
    have := fits.accumulation
    split_ifs with several
    · rw [Nat.div_div_eq_div_mul]
    · rw [show shape.accumulation = 1 by omega, Nat.mul_one]
  simp only [schedulerSteps, perEpoch]

end Attempt

/-- The next attempt runs in windows of `batch` and restores a checkpoint of the run, if any. -/
structure Chained (plan : TrainingPlan) (batch : Nat) (run : TrainingRun) (next : AttemptPlan) :
    Prop where
  accepted : next.shape.refused plan = none
  effective : next.shape.effectiveBatch = batch
  restored : ∀ checkpoint, next.restored = some checkpoint → checkpoint ∈ run.checkpoints

/-- It restores no checkpoint of the last permitted step with samples left. -/
structure Proper (plan : TrainingPlan) (batch : Nat) (run : TrainingRun) (next : AttemptPlan) :
    Prop extends Chained plan batch run next where
  unspent : ∀ checkpoint, next.restored = some checkpoint → ¬plan.Spent batch checkpoint

variable {plan : TrainingPlan} {batch : Nat}

theorem TrainingAttempt.mem_checkpoints {made : TrainingAttempt} {checkpoint : TrainingCheckpoint} :
    checkpoint ∈ made.checkpoints ↔ .captured checkpoint ∈ made.events := by
  simp only [TrainingAttempt.checkpoints, List.mem_filterMap]
  constructor
  · rintro ⟨event, member, found⟩
    cases event with
    | captured other =>
        obtain rfl := Option.some.inj found
        exact member
    | stepped _ _ => cases found
    | raised _ => cases found
  · intro member
    exact ⟨_, member, rfl⟩

/-- What an attempt of the run has done, interrupted or not. -/
structure Continues (plan : TrainingPlan) (batch : Nat) (made : TrainingAttempt) : Prop where
  steps : ∀ globalStep samples, .stepped globalStep samples ∈ made.events →
    0 < globalStep ∧ globalStep ≤ plan.finalStep batch ∧ samples = plan.windowOf batch globalStep
  ended : ∀ last, made.ended = some last → last = plan.finalStep batch
  unraised : ∀ text, .raised text ∉ made.events
  captures : ∀ checkpoint, .captured checkpoint ∈ made.events → plan.Placed batch checkpoint
  scheduler : made.schedulerSteps =
    let total : Int := (plan.size / batch : Nat) * plan.epochs
    if 0 < plan.maxSteps then min total plan.maxSteps else total

theorem attempt_events_subset (next : AttemptPlan) :
    ∀ event ∈ (attempt plan next).events, event ∈ (train plan next.shape next.restored).events := by
  intro event member
  cases interrupted : next.interrupted with
  | none => simpa [attempt, interrupted] using member
  | some count =>
      simp only [attempt, interrupted] at member
      exact List.mem_of_mem_take member

theorem Ended.continues {next : AttemptPlan} {before : Loop} (fits : next.shape.Fits plan)
    (ended : Ended plan next.shape before (train plan next.shape next.restored))
    (fresh : before.events = []) :
    Continues plan next.shape.effectiveBatch (attempt plan next) := by
  refine ⟨?_, ?_, ?_, ?_, schedulerSteps_eq fits⟩
  · intro globalStep samples member
    obtain ⟨above, below, window⟩ :=
      (ended.stepped_iff fresh).mp (attempt_events_subset next _ member)
    exact ⟨by omega, below, window⟩
  · intro last isLast
    cases interrupted : next.interrupted with
    | none =>
        simp only [attempt, interrupted, ended.sane, Bool.false_eq_true, if_false] at isLast
        exact (Option.some.inj isLast).symm.trans ended.last
    | some count => simp [attempt, interrupted] at isLast
  · intro text member
    exact ended.unraised fresh text (attempt_events_subset next _ member)
  · intro checkpoint member
    exact ended.captured fresh (attempt_events_subset next _ member)

theorem Continues.of_reaches {run : TrainingRun}
    (reached : Reaches (TrainingRun.step plan) (Proper plan batch) [] run) :
    ∀ made ∈ run, Continues plan batch made := by
  refine reached.invariant (I := fun run => ∀ made ∈ run, Continues plan batch made) nofun ?_
  intro run next sound proper made member
  rcases List.mem_cons.mp member with rfl | earlier
  · have fits := BatchShape.fits_iff.mp proper.accepted
    have effective := proper.effective
    subst effective
    cases restored : next.restored with
    | none =>
        have ended := Ended.of_train fits
        rw [← restored] at ended
        exact @Ended.continues _ _ (.begin 0 0 0) fits ended rfl
    | some checkpoint =>
        obtain ⟨earlier, isEarlier, captured⟩ :=
          List.mem_flatMap.mp (proper.restored checkpoint restored)
        have placed := (sound earlier isEarlier).captures checkpoint
          (TrainingAttempt.mem_checkpoints.mp captured)
        have ended := Ended.of_train_restored fits placed (proper.unspent checkpoint restored)
        rw [← restored] at ended
        exact @Ended.continues _ _ (.begin _ _ _) fits ended rfl
  · exact sound made earlier

/-- In every run whose attempts keep the window size and restore no checkpoint of the last
permitted step with samples left: each step consumes what the uninterrupted run's step of that
number does; an attempt that ends stops where the uninterrupted run does; every capture is accepted
and tells the examples seen; and the scheduler always gets the same step count. -/
theorem resumes_exactly {run : TrainingRun} {shape : BatchShape}
    (reached : Reaches (TrainingRun.step plan) (Proper plan batch) [] run)
    (accepted : shape.refused plan = none) (effective : shape.effectiveBatch = batch) :
    ∀ made ∈ run,
      (∀ globalStep samples, .stepped globalStep samples ∈ made.events →
        .stepped globalStep samples ∈ (train plan shape none).events ∧
        ∀ others, .stepped globalStep others ∈ (train plan shape none).events →
          others = samples) ∧
      (∀ last, made.ended = some last →
        (train plan shape none).failed = false ∧ last = (train plan shape none).globalStep) ∧
      (∀ text, .raised text ∉ made.events) ∧
      (∀ checkpoint ∈ made.checkpoints,
        checkpoint.cursor.examplesSeen = checkpoint.optimizerStep * batch) ∧
      made.schedulerSteps = schedulerSteps plan shape := by
  intro made member
  have continues := Continues.of_reaches reached made member
  have fits := BatchShape.fits_iff.mp accepted
  have whole := Ended.of_train fits
  subst effective
  refine ⟨?_, ?_, continues.unraised, ?_, ?_⟩
  · intro globalStep samples stepped
    obtain ⟨above, below, window⟩ := continues.steps globalStep samples stepped
    refine ⟨(whole.stepped_iff rfl).mpr ⟨above, below, window⟩, ?_⟩
    intro others again
    rw [window]
    exact ((whole.stepped_iff rfl).mp again).2.2
  · intro last isLast
    exact ⟨whole.sane, (continues.ended last isLast).trans whole.last.symm⟩
  · intro checkpoint captured
    exact (continues.captures checkpoint (TrainingAttempt.mem_checkpoints.mp captured)).seen
  · exact continues.scheduler.trans (schedulerSteps_eq fits).symm

/-- Four samples in the same order every epoch, two epochs, a checkpoint behind every step. -/
def fourSamples (maxSteps : Int) : TrainingPlan where
  size := 4
  seed := 7
  epochs := 2
  maxSteps
  everySteps := 1
  order := fun _ => [2, 0, 3, 1]
  orders := fun _ => by decide

def checkpointAt (optimizerStep epoch offset : Nat) : TrainingCheckpoint :=
  ⟨optimizerStep, ⟨epoch, offset, epoch * 4 + offset⟩, ⟨7, epoch, offset, 4⟩⟩

/-- An attempt interrupted behind its first capture, and its successor with larger batches. -/
def interruptedRun : TrainingRun :=
  TrainingRun.step (fourSamples 3) ⟨⟨2, 1⟩, some (checkpointAt 1 0 2), none⟩
    (TrainingRun.step (fourSamples 3) ⟨⟨1, 2⟩, none, some 2⟩ [])

theorem resumes_exactly_interrupted :
    Reaches (TrainingRun.step (fourSamples 3)) (Proper (fourSamples 3) 2) [] interruptedRun ∧
      ∃ made ∈ interruptedRun, .stepped 2 [3, 1] ∈ made.events ∧ made.ended = some 3 ∧
        .stepped 2 [3, 1] ∈ (train (fourSamples 3) ⟨1, 2⟩ none).events := by
  have first : Proper (fourSamples 3) 2 [] ⟨⟨1, 2⟩, none, some 2⟩ :=
    { accepted := by decide, effective := rfl, restored := nofun, unspent := nofun }
  have second :
    Proper (fourSamples 3) 2 (TrainingRun.step (fourSamples 3) ⟨⟨1, 2⟩, none, some 2⟩ [])
      ⟨⟨2, 1⟩, some (checkpointAt 1 0 2), none⟩ :=
    { accepted := by decide
      effective := rfl
      restored := by
        rintro _ ⟨⟩
        decide
      unspent := by
        rintro _ ⟨⟩
        decide }
  have reached : Reaches (TrainingRun.step (fourSamples 3)) (Proper (fourSamples 3) 2) []
      interruptedRun := (Reaches.start.next first).next second
  have stepped : TrainEvent.stepped 2 [3, 1] ∈
      (attempt (fourSamples 3) ⟨⟨2, 1⟩, some (checkpointAt 1 0 2), none⟩).events := by decide
  have continues :=
    resumes_exactly reached (show BatchShape.refused _ ⟨1, 2⟩ = none by decide) rfl _
    List.mem_cons_self
  exact ⟨reached, _, List.mem_cons_self, stepped, by decide, (continues.1 2 _ stepped).1⟩

/-- The first attempt runs to the limit of three steps; the second restores its last checkpoint. -/
def overrun : TrainingRun :=
  TrainingRun.step (fourSamples 3) ⟨⟨1, 2⟩, some (checkpointAt 3 1 2), none⟩
    (TrainingRun.step (fourSamples 3) ⟨⟨1, 2⟩, none, none⟩ [])

theorem resumed_past_the_limit :
    Reaches (TrainingRun.step (fourSamples 3)) (Chained (fourSamples 3) 2) [] overrun ∧
      ∃ made ∈ overrun, .stepped 4 [3, 1] ∈ made.events ∧ made.ended = some 4 ∧
        (∀ samples, .stepped 4 samples ∉ (train (fourSamples 3) ⟨1, 2⟩ none).events) ∧
        (train (fourSamples 3) ⟨1, 2⟩ none).globalStep = 3 := by
  have first : Chained (fourSamples 3) 2 [] ⟨⟨1, 2⟩, none, none⟩ :=
    ⟨by decide, rfl, nofun⟩
  have second : Chained (fourSamples 3) 2 (TrainingRun.step (fourSamples 3) ⟨⟨1, 2⟩, none, none⟩ [])
      ⟨⟨1, 2⟩, some (checkpointAt 3 1 2), none⟩ := by
    refine ⟨by decide, rfl, ?_⟩
    rintro _ ⟨⟩
    decide
  refine ⟨(Reaches.start.next first).next second, _, List.mem_cons_self, by decide, by decide, ?_,
    by decide⟩
  intro samples stepped
  have steps : stepsOf (train (fourSamples 3) ⟨1, 2⟩ none).events =
      [(1, [2, 0]), (2, [3, 1]), (3, [2, 0])] := by
    decide
  have member := mem_stepsOf.mpr stepped
  rw [steps] at member
  simp at member

end Xaytune.Workers
