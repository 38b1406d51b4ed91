import Mathlib.Logic.Function.Basic
import Xaytune.Checkpoints.Bundle

/-!
# The local checkpoint store and its manager

Bundles are copied into a staging directory, verified, and published by renaming that directory
under their checkpoint id. What is published is never replaced: a second commit under an id is
compared with the bundle that is there.
-/

namespace Xaytune.Checkpoints

open Xaytune.Library

structure StagingRef where
  checkpointId : String
  directory : Nat
  manifestDigest : Digest

/-- The directories of a store; `made` staging directories have been created so far. -/
structure CheckpointStore where
  staging : Nat → Option Directory
  committed : String → Option Directory
  made : Nat

def CheckpointStore.empty : CheckpointStore := ⟨fun _ => none, fun _ => none, 0⟩

variable (formats : BundleFormats)

/-- The manifest's own file. -/
def manifestEntry (manifest : CheckpointManifest) : Entry :=
  ("manifest.json", formats.dump manifest)

/-- The files of a source that a manifest lists, in the manifest's order. -/
def listedEntries (source : Directory) (manifest : CheckpointManifest) : List Entry :=
  manifest.files.filterMap fun file => source.find? file.path

def putStaging (source : Directory) (manifest : CheckpointManifest) (store : CheckpointStore) :
    Except CheckpointError (CheckpointStore × StagingRef) := do
  match manifestFault formats manifest with
  | some text => .error (.validation text)
  | none =>
      verify formats source manifest
      let copied ← writeFiles (listedEntries source manifest) (.empty _)
      let directory ← writeFiles [manifestEntry formats manifest] copied
      verify formats directory manifest
      .ok ({ store with
          staging := Function.update store.staging store.made (some directory)
          made := store.made + 1 },
        ⟨manifest.context.checkpointId, store.made, manifest.manifestDigest⟩)

/-- `_existing`: the bundle under an id, compared with what was to be committed. -/
def existing (checkpointId : String) (directory : Directory) (expected : Digest) :
    Except CheckpointError CheckpointRef := do
  let manifest ← readManifest formats (some directory)
  verify formats directory manifest
  if manifest.manifestDigest ≠ expected then .error (.conflict checkpointId)
  else if manifest.context.checkpointId ≠ checkpointId then
    .error (.corruption "checkpoint ID disagrees with its directory")
  else .ok (manifest.reference (formats.uri checkpointId))

/-- `_discard_replay`: the staging of a commit that has been made already. -/
def discardReplay (staging : StagingRef) (store : CheckpointStore) :
    Except CheckpointError CheckpointStore :=
  match store.staging staging.directory with
  | none => .ok store
  | some directory => do
      let manifest ← readManifest formats (some directory)
      if manifest.manifestDigest ≠ staging.manifestDigest then
        .error (.corruption "replay staging digest disagrees")
      else
        verify formats directory manifest
        .ok { store with staging := Function.update store.staging staging.directory none }

def commit (staging : StagingRef) (store : CheckpointStore) :
    Except CheckpointError (CheckpointStore × CheckpointRef) :=
  match store.committed staging.checkpointId with
  | some directory => do
      let reference ← existing formats staging.checkpointId directory staging.manifestDigest
      let store ← discardReplay formats staging store
      .ok (store, reference)
  | none => do
      let manifest ← readManifest formats (store.staging staging.directory)
      if manifest.context.checkpointId ≠ staging.checkpointId ∨
          manifest.manifestDigest ≠ staging.manifestDigest then
        .error (.corruption "staging reference disagrees with its manifest")
      else
        match store.staging staging.directory with
        | none => .error (.corruption "checkpoint directory is missing or is a symlink")
        | some directory =>
            verify formats directory manifest
            .ok ({ store with
                staging := Function.update store.staging staging.directory none
                committed :=
                  Function.update store.committed staging.checkpointId (some directory) },
              manifest.reference (formats.uri staging.checkpointId))

/-- The bundle a reference names, byte for byte as it was committed. -/
def get (committed : String → Option Directory) (reference : CheckpointRef) :
    Except CheckpointError (Directory × CheckpointManifest) := do
  let manifest ← readManifest formats (committed reference.id)
  match committed reference.id with
  | none => .error (.corruption "checkpoint directory is missing or is a symlink")
  | some directory =>
      verify formats directory manifest
      if reference = manifest.reference (formats.uri reference.id) then .ok (directory, manifest)
      else .error (.corruption "checkpoint reference disagrees with its committed bundle")

/-- `list`, over the names of the committed directories. -/
def listed (committed : String → Option Directory) :
    List String → Except CheckpointError (List CheckpointRef)
  | [] => .ok []
  | name :: rest => do
      let manifest ← readManifest formats (committed name)
      let (_, localized) ← get formats committed (manifest.reference (formats.uri name))
      let refs ← listed committed rest
      .ok (localized.reference (formats.uri name) :: refs)

/-! ## The manager -/

def save (state : CheckpointState) (context : CheckpointContext) (store : CheckpointStore) :
    Except CheckpointError (CheckpointStore × CheckpointRef) := do
  let (directory, manifest) ← encode formats state context
  if manifest.context ≠ context ∨ manifest.codec ≠ codecName ∨
      manifest.codecVersion ≠ codecVersion ∨
      manifest.compatibilityKey ≠ compatibilityKey formats context.compatibility then
    .error (.corruption "codec returned conflicting checkpoint provenance")
  else
    let (store, staging) ← putStaging formats directory manifest store
    commit formats staging store

def incompatibility (manifest : CheckpointManifest) (context : RestoreContext) : Option String :=
  if manifest.codec ≠ codecName ∨ manifest.codecVersion ≠ codecVersion ∨
      manifest.compatibilityKey ≠ compatibilityKey formats context.compatibility ∨
      manifest.context.candidateFingerprint ≠ context.candidateFingerprint then
    some "checkpoint scientific identity or state layout differs"
  else if manifest.dataCursor.any fun cursor =>
      some cursor.datasetFingerprint ≠ context.datasetFingerprint ||
        some cursor.orderingFingerprint ≠ context.orderingFingerprint then
    some "checkpoint dataset or ordering differs or is unknown"
  else if context.requiredGuarantee.any fun guarantee => manifest.resumeGuarantee ≠ guarantee then
    some "checkpoint does not provide the requested guarantee"
  else none

def restore (committed : String → Option Directory) (reference : CheckpointRef)
    (context : RestoreContext) : Except CheckpointError (Directory × CheckpointManifest) := do
  let (directory, manifest) ← get formats committed reference
  match incompatibility formats manifest context with
  | some text => .error (.compatibility text)
  | none => decode formats directory manifest context

end Xaytune.Checkpoints
