import Mathlib.Logic.Function.Basic

/-!
# The local runtime's registry

Two tables: every request received, and every workload one of them started. Each function is one
write transaction. An operation either started a workload or was refused, so its effect is a sum.
-/

namespace Xaytune.Runtimes

inductive OperationType where
  | submit
  | cancel
  deriving DecidableEq

inductive Effect (Op : Type) where
  | workload (externalId : Op)
  | rejected (detail : String)

structure OperationRecord (Op Digest : Type) where
  operationType : OperationType
  requestDigest : Digest
  effect : Effect Op

structure WorkloadRecord where
  spawnedPid : Option Nat
  launcherPid : Option Nat
  cancelRequested : Bool

structure Registry (Op Digest : Type) where
  operations : Op → Option (OperationRecord Op Digest)
  workloads : Op → Option WorkloadRecord

/-- What a claim of an operation id comes to. -/
inductive Claimed (Op Digest : Type) where
  | recorded
  | existing (record : OperationRecord Op Digest)
  | conflict (differing : List String)
  | integrityError

variable {Op Digest : Type} [DecidableEq Op] [DecidableEq Digest]

/-- The fields in which a request differs from the recorded one. -/
def differing (existing : OperationRecord Op Digest) (operationType : OperationType)
    (requestDigest : Digest) : List String :=
  (if existing.operationType = operationType then [] else ["operation_type"]) ++
    (if existing.requestDigest = requestDigest then [] else ["request_digest"])

namespace Registry

def empty : Registry Op Digest := ⟨fun _ => none, fun _ => none⟩

def insertOperation (op : Op) (record : OperationRecord Op Digest) (registry : Registry Op Digest) :
    Registry Op Digest :=
  { registry with operations := Function.update registry.operations op (some record) }

def updateWorkload (externalId : Op) (change : WorkloadRecord → WorkloadRecord)
    (registry : Registry Op Digest) : Registry Op Digest :=
  { registry with
    workloads := Function.update registry.workloads externalId
      ((registry.workloads externalId).map change) }

/-- The record under an id, checked to be of the same request. -/
def sameRequest (existing : OperationRecord Op Digest) (operationType : OperationType)
    (requestDigest : Digest) : Claimed Op Digest :=
  match differing existing operationType requestDigest with
  | [] => .existing existing
  | fields => .conflict fields

def claimSubmission (op : Op) (requestDigest : Digest) (registry : Registry Op Digest) :
    Registry Op Digest × Claimed Op Digest :=
  match registry.operations op with
  | some existing => (registry, sameRequest existing .submit requestDigest)
  | none =>
      match registry.workloads op with
      | some _ => (registry, .integrityError)
      | none =>
          ({ operations :=
                Function.update registry.operations op (some ⟨.submit, requestDigest, .workload op⟩)
             workloads := Function.update registry.workloads op (some ⟨none, none, false⟩) },
            .recorded)

def recordRejection (op : Op) (requestDigest : Digest) (detail : String)
    (registry : Registry Op Digest) : Registry Op Digest × Claimed Op Digest :=
  match registry.operations op with
  | some existing => (registry, sameRequest existing .submit requestDigest)
  | none => (registry.insertOperation op ⟨.submit, requestDigest, .rejected detail⟩, .recorded)

def claimCancellation (op : Op) (requestDigest : Digest) (externalId : Op)
    (registry : Registry Op Digest) : Registry Op Digest × Claimed Op Digest :=
  match registry.operations op with
  | some existing => (registry, sameRequest existing .cancel requestDigest)
  | none => (registry.insertOperation op ⟨.cancel, requestDigest, .workload externalId⟩, .recorded)

/-- The compare-and-set of `launcher_pid`, and whether this caller got it. -/
def claimLauncherOwnership (externalId : Op) (pid : Nat) (registry : Registry Op Digest) :
    Registry Op Digest × Bool :=
  match registry.workloads externalId with
  | some ⟨_, none, _⟩ =>
      (registry.updateWorkload externalId fun record => { record with launcherPid := some pid },
        true)
  | _ => (registry, false)

def recordSpawnedPid (externalId : Op) (pid : Nat) : Registry Op Digest → Registry Op Digest :=
  updateWorkload externalId fun record => { record with spawnedPid := some pid }

def recordCancellationRequest (externalId : Op) : Registry Op Digest → Registry Op Digest :=
  updateWorkload externalId fun record => { record with cancelRequested := true }

end Registry

end Xaytune.Runtimes
