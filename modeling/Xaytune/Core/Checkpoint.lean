import Mathlib.Data.List.Sort
import Mathlib.Data.String.Basic
import Xaytune.Core.Aggregates

/-!
# Checkpoint bundles

What a checkpoint declares: the files of its bundle, the captured state they hold, the guarantee
a restore of it gives, and the compatibility a consumer needs. A declaration describes captured
state; it neither captures nor applies any.
-/

namespace Xaytune.Checkpoints

open Xaytune.Core

abbrev Digest := String

/-- A time with a zone, in microseconds. -/
abbrev Moment := Int

/-! ## Guarantees and cursors -/

inductive StateRestore where
  | full | modelOnly
  deriving DecidableEq

inductive DataResume where
  | exact | atLeastOnce | epochBoundary | none
  deriving DecidableEq

inductive CheckpointBoundary where
  | optimizerStep | midAccumulation
  deriving DecidableEq

structure ResumeGuarantee where
  state : StateRestore
  data : DataResume
  boundary : CheckpointBoundary
  deriving DecidableEq

/-- A component of the captured state: a file of the bundle, by its path and digest. -/
structure StateRef where
  id : String
  kind : String
  uri : String
  digest : Option Digest
  producerAttemptId : Option String
  producerEvaluationId : Option String
  content : Document
  deriving DecidableEq

structure SamplerState where
  provider : String
  version : String
  stateRef : StateRef
  deriving DecidableEq

/-- The next unconsumed sample in an identified deterministic stream: an indexed offset and a
provider's own position are alternatives. -/
structure DataCursor where
  datasetFingerprint : String
  orderingFingerprint : String
  epoch : Option Nat
  nextSampleOffset : Option Nat
  samplerState : Option SamplerState
  iterableCursor : Option Document
  examplesSeen : Option Nat
  tokensSeen : Option Nat
  onePosition : nextSampleOffset.isNone ∨ iterableCursor.isNone
  deriving DecidableEq

structure WorkerRNGState where
  logicalWorkerId : String
  accelerator : Option StateRef
  dataloader : List StateRef
  deriving DecidableEq

/-- Captured streams, one entry for each worker. -/
structure RNGState where
  python : StateRef
  numpy : StateRef
  torchCpu : StateRef
  workers : List WorkerRNGState
  uniqueWorkers : (workers.map WorkerRNGState.logicalWorkerId).Nodup
  deriving DecidableEq

/-- What was captured: `none` means it was not, an empty list of applications that there were
none. -/
structure CheckpointStateManifest where
  schemaVersion : String
  model : StateRef
  optimizer : Option StateRef
  scheduler : Option StateRef
  scaler : Option StateRef
  rng : Option RNGState
  microStep : Nat
  appliedInterventionApplicationIds : Option (List String)
  deriving DecidableEq

def CheckpointStateManifest.hasFullState (state : CheckpointStateManifest) : Bool :=
  state.optimizer.isSome && state.scheduler.isSome && state.scaler.isSome && state.rng.isSome &&
    state.appliedInterventionApplicationIds.isSome

/-- Every component backing the declared capture, worker streams included. -/
def checkpointStateRefs (state : CheckpointStateManifest) (cursor : Option DataCursor) :
    List StateRef :=
  [state.model] ++ state.optimizer.toList ++ state.scheduler.toList ++ state.scaler.toList ++
    (match state.rng with
      | none => []
      | some rng => [rng.python, rng.numpy, rng.torchCpu] ++
          rng.workers.flatMap fun worker => worker.accelerator.toList ++ worker.dataloader) ++
    ((cursor.bind DataCursor.samplerState).map SamplerState.stateRef).toList

/-! ## Compatibility -/

/-- Conservative exact-match compatibility. -/
structure CheckpointCompatibilityKey where
  stateFormat : String
  modelFingerprint : String
  optimizerLayout : Option String
  schedulerLayout : Option String
  distributedStrategy : String
  shardingScheme : String
  topologyFingerprint : String
  frameworkVersions : List (String × String)
  adapterFingerprint : Option String
  tokenizerFingerprint : Option String
  deriving DecidableEq

/-- Provenance chosen before serialization, the same on a retry. -/
structure CheckpointContext where
  checkpointId : String
  producerAttemptId : String
  candidateFingerprint : String
  executionFingerprint : String
  compatibility : CheckpointCompatibilityKey
  createdAt : Moment
  deriving DecidableEq

/-- What a consumer restores for. -/
structure RestoreContext where
  candidateFingerprint : String
  compatibility : CheckpointCompatibilityKey
  datasetFingerprint : Option String
  orderingFingerprint : Option String
  requiredGuarantee : Option ResumeGuarantee

/-- A committed checkpoint, by its id, place and manifest digest. -/
structure CheckpointRef where
  id : String
  uri : String
  globalStep : Option Nat
  digest : Option Digest
  compatibilityKey : Option Digest
  createdAt : Option Moment
  deriving DecidableEq

end Xaytune.Checkpoints
