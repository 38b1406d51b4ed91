import Xaytune.Checkpoints.Store
import Xaytune.Library.System

/-!
# Publishing bundles, a file at a time

Writers stage and commit bundles in one store, each call a process of its own that may crash
between any two of its file steps. A staging directory is named by the process that made it.
-/

namespace Xaytune.Checkpoints

open Xaytune.Library

/-- Where `put_staging` stands; `creating` and `filling` write the files that are left. -/
inductive PutStage where
  | checking
  | making
  | creating (left : List Entry)
  | filling (entry : Entry) (left : List Entry)
  | verifying
  | cleaning (error : CheckpointError)
  | returned (staging : StagingRef)
  | raised (error : CheckpointError)

/-- Where `commit` stands; `removing` is inside the `rmtree` of a replayed staging, and `syncing`
behind a rename that has not been acknowledged. -/
inductive CommitStage where
  | looking
  | reading
  | verifying (manifest : CheckpointManifest)
  | publishing (manifest : CheckpointManifest)
  | comparing
  | discarding (reference : CheckpointRef)
  | removing (reference : CheckpointRef)
  | syncing (reference : CheckpointRef)
  | returned (reference : CheckpointRef)
  | raised (error : CheckpointError)

def CommitStage.running : CommitStage → Bool
  | .returned _ | .raised _ => false
  | _ => true

inductive StoreTask where
  | put (source : Directory) (manifest : CheckpointManifest) (stage : PutStage)
  | commit (staging : StagingRef) (stage : CommitStage)

structure StoreProcess where
  task : StoreTask
  alive : Bool

/-- The directories, the processes, and the stagings that have been renamed. -/
structure StoreHost where
  staging : Nat → Option Directory
  committed : String → Option Directory
  processes : Nat → Option StoreProcess
  renamed : List StagingRef

/-- The directory without the file at a place. -/
def removeFile (place : Nat) (directory : Directory) : Directory :=
  ⟨directory.rows.eraseIdx place, ((List.eraseIdx_sublist ..).map Prod.fst).nodup directory.nodup⟩

/-- One step of `rmtree`: some file goes, or the directory once it is empty. -/
def removeStep (place : Nat) (directory : Directory) : Option Directory :=
  if directory.rows = [] then none else some (removeFile (place % directory.rows.length) directory)

variable (formats : BundleFormats)

/-- The files `put_staging` writes, the manifest last. -/
def bundleEntries (source : Directory) (manifest : CheckpointManifest) : List Entry :=
  listedEntries source manifest ++ [manifestEntry formats manifest]

namespace StoreHost

def goTo (pid : Nat) (task : StoreTask) (host : StoreHost) : StoreHost :=
  { host with processes := Function.update host.processes pid (some ⟨task, true⟩) }

def writeStaging (number : Nat) (directory : Option Directory) (host : StoreHost) : StoreHost :=
  { host with staging := Function.update host.staging number directory }

/-- The next step of `put_staging`. -/
def putStep (pid : Nat) (source : Directory) (manifest : CheckpointManifest) (stage : PutStage)
    (place : Nat) (host : StoreHost) : StoreHost :=
  let next := fun stage host => goTo pid (.put source manifest stage) host
  match stage with
  | .checking =>
      match manifestFault formats manifest, verify formats source manifest with
      | some text, _ => next (.raised (.validation text)) host
      | none, .error error => next (.raised error) host
      | none, .ok _ => next .making host
  | .making =>
      next (.creating (bundleEntries formats source manifest))
        (host.writeStaging pid (some (.empty _)))
  | .creating [] => next .verifying host
  | .creating (entry :: left) =>
      match (host.staging pid).bind fun directory => directory.insert? (entry.1, []) with
      | none => next (.cleaning (.fileExists entry.1)) host
      | some directory => next (.filling entry left) (host.writeStaging pid (some directory))
  | .filling entry left =>
      next (.creating left)
        (host.writeStaging pid ((host.staging pid).map fun directory => directory.replace entry))
  | .verifying =>
      match host.staging pid with
      | none => next (.raised (.fileMissing "staging")) host
      | some directory =>
          match verify formats directory manifest with
          | .error error => next (.cleaning error) host
          | .ok _ =>
              next (.returned ⟨manifest.context.checkpointId, pid, manifest.manifestDigest⟩) host
  | .cleaning error =>
      match host.staging pid with
      | none => next (.raised error) host
      | some directory =>
          next (.cleaning error) (host.writeStaging pid (removeStep place directory))
  | .returned _ | .raised _ => host

/-- `_discard_replay` up to its `rmtree`; `none` when there is nothing to remove. -/
def checkReplay (staging : StagingRef) (host : StoreHost) :
    Option (Except CheckpointError Unit) :=
  (host.staging staging.directory).map fun directory => do
    let manifest ← readManifest formats (some directory)
    if manifest.manifestDigest ≠ staging.manifestDigest then
      .error (.corruption "replay staging digest disagrees")
    else verify formats directory manifest

/-- The next step of `commit`. -/
def commitStep (pid : Nat) (staging : StagingRef) (stage : CommitStage) (place : Nat)
    (host : StoreHost) : StoreHost :=
  let next := fun stage host => goTo pid (.commit staging stage) host
  match stage with
  | .looking =>
      match host.committed staging.checkpointId with
      | some _ => next .comparing host
      | none => next .reading host
  | .reading =>
      match readManifest formats (host.staging staging.directory) with
      | .error error => next (.raised error) host
      | .ok manifest =>
          if manifest.context.checkpointId ≠ staging.checkpointId ∨
              manifest.manifestDigest ≠ staging.manifestDigest then
            next (.raised (.corruption "staging reference disagrees with its manifest")) host
          else next (.verifying manifest) host
  | .verifying manifest =>
      match host.staging staging.directory with
      | none =>
          next (.raised (.corruption "checkpoint directory is missing or is a symlink")) host
      | some directory =>
          match verify formats directory manifest with
          | .error error => next (.raised error) host
          | .ok _ => next (.publishing manifest) host
  | .publishing manifest =>
      match host.staging staging.directory, host.committed staging.checkpointId with
      | none, _ => next (.raised (.fileMissing "staging")) host
      | some _, some _ => next .comparing host
      | some directory, none =>
          next (.syncing (manifest.reference (formats.uri staging.checkpointId)))
            { host.writeStaging staging.directory none with
              committed :=
                Function.update host.committed staging.checkpointId (some directory)
              renamed := staging :: host.renamed }
  | .comparing =>
      match host.committed staging.checkpointId with
      | none => next (.raised (.corruption "checkpoint manifest is missing or invalid")) host
      | some directory =>
          match existing formats staging.checkpointId directory staging.manifestDigest with
          | .error error => next (.raised error) host
          | .ok reference => next (.discarding reference) host
  | .discarding reference =>
      match checkReplay formats staging host with
      | none => next (.returned reference) host
      | some (.error error) => next (.raised error) host
      | some (.ok _) => next (.removing reference) host
  | .removing reference =>
      match host.staging staging.directory with
      | none => next (.returned reference) host
      | some directory =>
          next (.removing reference)
            (host.writeStaging staging.directory (removeStep place directory))
  | .syncing reference => next (.returned reference) host
  | .returned _ | .raised _ => host

def act (pid place : Nat) (host : StoreHost) : StoreHost :=
  match host.processes pid with
  | some ⟨.put source manifest stage, true⟩ => host.putStep formats pid source manifest stage place
  | some ⟨.commit staging stage, true⟩ => host.commitStep formats pid staging stage place
  | some ⟨_, false⟩ | none => host

def start (pid : Nat) (task : StoreTask) (host : StoreHost) : StoreHost :=
  if (host.processes pid).isNone then host.goTo pid task else host

def crash (pid : Nat) (host : StoreHost) : StoreHost :=
  { host with
    processes :=
      Function.update host.processes pid
        ((host.processes pid).map fun process => { process with alive := false }) }

def empty : StoreHost := ⟨fun _ => none, fun _ => none, fun _ => none, []⟩

end StoreHost

/-- What may happen next. An `rmtree` removes the file at `place`. -/
inductive StoreMove where
  | putStaging (pid : Nat) (source : Directory) (manifest : CheckpointManifest)
  | commit (pid : Nat) (staging : StagingRef)
  | act (pid place : Nat)
  | crash (pid : Nat)

def StoreHost.step : StoreMove → StoreHost → StoreHost
  | .putStaging pid source manifest, host => host.start pid (.put source manifest .checking)
  | .commit pid staging, host => host.start pid (.commit staging .looking)
  | .act pid place, host => host.act formats pid place
  | .crash pid, host => host.crash pid

end Xaytune.Checkpoints
