import Xaytune.Core.Event

/-!
# Retained trajectories

The checkpoints an attempt descends from, through the attempts that produced them, and the
applications its model state embodies.
-/

namespace Xaytune.Core

/-- The immutable facts of one attempt that lineage needs. -/
structure AttemptAncestry where
  attemptId : String
  attemptNumber : Nat
  restoredFrom : Option String

/-- A committed checkpoint's producer and the applications it embodies, if it says. -/
structure CheckpointAncestry where
  checkpointId : String
  producerAttemptId : String
  embodiedApplicationIds : Option (List String)

structure RetainedTrajectory where
  headAttemptId : String
  checkpointAncestry : List String
  applicationIds : List String

def attemptBy (attempts : List AttemptAncestry) (attemptId : String) : Option AttemptAncestry :=
  attempts.find? fun attempt => attempt.attemptId = attemptId

def checkpointBy (checkpoints : List CheckpointAncestry) (checkpointId : String) :
    Option CheckpointAncestry :=
  checkpoints.find? fun checkpoint => checkpoint.checkpointId = checkpointId

/--
The checkpoints `current` descends from, nearest first. `none` when a link is
unknown or an attempt is met twice; `fuel` bounds the attempts left to meet.
-/
def checkpointAncestry (attempts : List AttemptAncestry) (checkpoints : List CheckpointAncestry) :
    Nat → AttemptAncestry → List String → Option (List String)
  | 0, _, _ => none
  | fuel + 1, current, seen =>
      match current.restoredFrom with
      | none => some []
      | some restored =>
          if current.attemptId ∈ seen then none
          else do
            let checkpoint ← checkpointBy checkpoints restored
            let _ ← checkpoint.embodiedApplicationIds
            let producer ← attemptBy attempts checkpoint.producerAttemptId
            let rest ← checkpointAncestry attempts checkpoints fuel producer
              (current.attemptId :: seen)
            some (checkpoint.checkpointId :: rest)

/-- The applications the head's own restore checkpoint embodies; none for a fresh start. -/
def headEmbodied (checkpoints : List CheckpointAncestry) (head : AttemptAncestry) :
    Option (List String) :=
  match head.restoredFrom with
  | none => some []
  | some restored => (checkpointBy checkpoints restored).bind (·.embodiedApplicationIds)

/-- The applications and checkpoint ancestry that the head's model state descends from. -/
def retainedTrajectory (head : String) (attempts : List AttemptAncestry)
    (checkpoints : List CheckpointAncestry) (applications : List InterventionApplication) :
    Option RetainedTrajectory := do
  let current ← attemptBy attempts head
  let ancestry ← checkpointAncestry attempts checkpoints (attempts.length + 1) current []
  let embodied ← headEmbodied checkpoints current
  if ∀ item ∈ embodied, item ∈ applications.map InterventionApplication.id then
    some
      { headAttemptId := head
        checkpointAncestry := ancestry.reverse
        applicationIds :=
          ((sortedBy InterventionApplication.eventSequence applications).filter fun application =>
            embodied.contains application.id || application.attemptId = head).map
              InterventionApplication.id }
  else none

end Xaytune.Core
