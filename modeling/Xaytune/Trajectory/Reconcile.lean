import Xaytune.Trajectory.Writer

/-!
# Sealing attempts whose writer is gone

Past the commit point the staged manifest is verified again and linked into place; before it the
events are rebuilt from the rolled chunks and the tail, and what of them verifies is sealed.
-/

namespace Xaytune.Trajectory

open Xaytune.Library

variable {σ : Type}

inductive ReconcileOutcome where
  | skippedLive | alreadySealed | newlySealed | unreadable

/-- What reconciliation did to one attempt. -/
structure Reconciled (formats : Formats) where
  trajectoryId : AttemptId
  outcome : ReconcileOutcome
  manifest : Option (TrajectoryManifest formats.fingerprints) := none

/-- Run the body with the attempt's lock if its writer is gone; an attempt without a lock file
counts as free. -/
def unlocked {α : Type} (body : Bool → Act σ α) : Act σ α := do
  match ← ask .tryLock with
  | .missing => body true
  | .busy => body false
  | .acquired => do
      let outcome ← (body true).attempt
      ask .unlock
      Act.ofExcept outcome

/-- Seal once. If another reconciler sealed first, its manifest is the seal. -/
def writeSeal (formats : Formats) (manifest : TrajectoryManifest formats.fingerprints) :
    Act σ (TrajectoryManifest formats.fingerprints) := do
  let created ← tryCatch (ask (.writeNew .manifest (formats.manifestBytes manifest)))
    fun error => if error = .storeConflict then pure false else throw error
  if created then pure manifest
  else do
    let found ← readManifest formats .manifest
    pure (found.getD manifest)

/-- The evidence of a published result no longer verifies: name the result as unattested. -/
def evidenceLost (formats : Formats) (trajectoryId : AttemptId) (record : TrajectoryOpenRecord)
    (staged : Option (TrajectoryManifest formats.fingerprints)) (now : String) :
    Act σ (TrajectoryManifest formats.fingerprints) := do
  let location ← ask .readLocation
  match location with
  | none => throw .os
  | some file => do
      let unattested := formats.digestOf file.data
      let chunks ← match staged with
        | some staged => pure staged.chunks
        | none => do pure (← readProgress formats trajectoryId).chunks
      let events ← match staged with
        | none => pure []
        | some staged => do
            let view ← observe (evidenceFiles formats staged)
            match loadEvents formats view staged.trajectoryId staged.chunks with
            | (events, []) =>
                pure (if structuralRefusals record.trajectoryId events = [] then events else [])
            | _ => pure []
      let body ← Act.ofExcept (manifestBody record (if events = [] then [] else chunks) events
        { completeness := .partially, abandonment := some .postCommitEvidenceLost,
          unattestedResult := some unattested } now)
      let _ ← ask (.writeNew .incident (formats.incidentBytes trajectoryId unattested))
      writeSeal formats (body.seal formats.fingerprints)

def pastCommit (formats : Formats) (trajectoryId : AttemptId) (record : TrajectoryOpenRecord)
    (now : String) : Act σ (TrajectoryManifest formats.fingerprints) := do
  let staged ← readManifest formats .staged
  match staged with
  | none => evidenceLost formats trajectoryId record none now
  | some staged => do
      let problems ← TrajectoryWriter.verified formats trajectoryId staged
      let found ← ask .readLocation
      if problems ++ verifyPublication formats found staged = [] then do
        if ← ask .linkStaged then pure staged
        else do
          let existing ← readManifest formats .manifest
          pure (existing.getD staged)
      else evidenceLost formats trajectoryId record (some staged) now

/-- The events of a tail that continue the rolled ones as one causal history, and whether the
tail broke. -/
def continued (trajectoryId : AttemptId) : (events : List TrajectoryEvent) →
    List TrajectoryEvent → (broke : Bool) → List TrajectoryEvent × Bool
  | events, [], broke => (events, broke)
  | events, event :: tail, broke =>
      if event.sequence ≠ events.length ∨
          structuralRefusals trajectoryId (events ++ [event]) ≠ [] then (events, true)
      else continued trajectoryId (events ++ [event]) tail broke

/-- The rolled events, the progress that names them, and whether they were lost: chunks that do
not load are given up. -/
def loadRolled (formats : Formats) (record : TrajectoryOpenRecord) (progress : TrajectoryProgress)
    (now : String) : Act σ (List TrajectoryEvent × TrajectoryProgress × Bool) :=
  if progress.chunks = [] then pure ([], progress, false)
  else do
    let _ ← Act.ofExcept (manifestBody record progress.chunks []
      { completeness := .partially, abandonment := some .writerLost } now)
    let view ← observe (progress.chunks.map fun ref => .chunk ref.index ref.digest)
    match loadEvents formats view record.trajectoryId progress.chunks with
    | (rolled, []) => pure (rolled, progress, false)
    | _ => pure ([], { progress with chunks := [] }, true)

/-- Empty the tail, if there is one. -/
def clearTail : Act σ Unit := do
  if (← ask (.read .tail)).isSome then ask (.truncateDurably .tail .sealing)

/-- Why an attempt that was not committed is sealed partial. -/
def abandonedBecause (unverifiable : Bool) (location : Option PublishedFile)
    (events : List TrajectoryEvent) : Abandonment :=
  let terminated := events.any fun event => event.kind = .runTerminated
  if unverifiable then .unverifiableTail
  else if location.any (fun file => !file.same) ∧ terminated then .resultPublishedByAnotherAttempt
  else if terminated then .resultUnpublished
  else .writerLost

def beforeCommit (formats : Formats) (trajectoryId : AttemptId) (record : TrajectoryOpenRecord)
    (now : String) : Act σ (TrajectoryManifest formats.fingerprints) := do
  let progress ← readProgress formats trajectoryId
  let (rolled, progress, lost) ← loadRolled formats record progress now
  let data ← ask (.read .tail)
  let (tail, torn, broke) := parseTail formats (data.getD []) rolled
  let (events, broke) := continued record.trajectoryId rolled tail broke
  let progress ← roll formats trajectoryId progress (events.drop rolled.length)
  clearTail
  let location ← ask .readLocation
  let body ← Act.ofExcept (manifestBody record progress.chunks events
    { completeness := .partially
      abandonment := some (abandonedBecause (lost || broke) location events)
      tornTailBytes := torn } now)
  writeSeal formats (body.seal formats.fingerprints)

/-- Seal an attempt, on the side of the commit point it is on. -/
def sealAttempt (formats : Formats) (trajectoryId : AttemptId) (now : String) :
    Act σ (Reconciled formats) := do
  match ← readOpenRecord formats with
  | none => pure ⟨trajectoryId, .unreadable, none⟩
  | some record => do
      let location ← ask .readLocation
      let manifest ←
        if location.any PublishedFile.same then pastCommit formats trajectoryId record now
        else beforeCommit formats trajectoryId record now
      pure ⟨trajectoryId, .newlySealed, some manifest⟩

/-- Seal an attempt whose writer is gone. -/
def reconcileAttempt (formats : Formats) (trajectoryId : AttemptId) (now : String) :
    Act σ (Reconciled formats) := do
  match ← readManifest formats .manifest with
  | some existing => pure ⟨trajectoryId, .alreadySealed, some existing⟩
  | none =>
      unlocked fun free =>
        if free then sealAttempt formats trajectoryId now
        else pure ⟨trajectoryId, .skippedLive, none⟩

end Xaytune.Trajectory
