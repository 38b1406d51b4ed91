import Mathlib.Data.List.Sort
import Mathlib.Data.List.Lex
import Xaytune.Core.Checkpoint
import Xaytune.Library.Table

/-!
# Bundles and their manifests

A bundle is a directory of regular files with a manifest that lists them. The manifest is checked
on its own when it is built or read, and against a directory's bytes whenever the bundle changes
hands. Files are listed in the order of their paths' components; a manifest wants them in the
order of their paths' texts.
-/

namespace Xaytune.Checkpoints

open Xaytune.Library

abbrev Content : Type := List UInt8

abbrev Entry : Type := String × Content

/-- The regular files of a directory by their relative paths. -/
abbrev Directory : Type := Table (Prod.fst : Entry → String)

inductive CheckpointError where
  | corruption (text : String)
  | compatibility (text : String)
  | validation (text : String)
  | conflict (checkpointId : String)
  | fileExists (path : String)
  | fileMissing (path : String)

/-! ## Paths -/

/-- The components of a path as it is spelled. -/
def components (path : String) : List (List Char) := path.toList.splitOn '/'

/-- The parts of a `PurePosixPath`. -/
def pureParts (path : String) : List (List Char) :=
  (components path).filter fun part => part ≠ [] ∧ part ≠ ['.']

/-- An exact relative path, never a URI or a traversal. -/
def checkpointPath (path : String) : Bool :=
  pureParts path ≠ [] ∧ path.toList.head? ≠ some '/' ∧
    ['/'].intercalate (pureParts path) = path.toList ∧ ['.', '.'] ∉ pureParts path ∧
    '\\' ∉ path.toList ∧ ':' ∉ path.toList ∧ '\x00' ∉ path.toList ∧
    (pureParts path).head? ≠ some "manifest.json".toList

/-- How `sorted` orders two paths: component by component. -/
def entryLe (first second : Entry) : Bool := components first.1 ≤ components second.1

/-- `files_in`: the files of a directory but for a committed bundle's manifest. -/
def filesIn (committed : Bool) (directory : Directory) : Except CheckpointError (List Entry) :=
  let entries := directory.rows.filter fun entry => ¬(committed ∧ entry.1 = "manifest.json")
  if entries.all fun entry => checkpointPath entry.1 then .ok (entries.mergeSort entryLe)
  else .error (.corruption "checkpoint files require canonical relative paths")

/-! ## Manifests -/

structure CheckpointFile where
  path : String
  sizeBytes : Nat
  digest : Digest
  deriving DecidableEq

/-- What a manifest's digest is taken of. -/
structure ManifestBody where
  context : CheckpointContext
  codec : String
  codecVersion : String
  compatibilityKey : Digest
  files : List CheckpointFile
  optimizerStep : Nat
  dataCursor : Option DataCursor
  resumeGuarantee : ResumeGuarantee
  stateManifest : CheckpointStateManifest
  deriving DecidableEq

structure CheckpointManifest extends ManifestBody where
  manifestDigest : Digest
  deriving DecidableEq

/-- Digests, the JSON text of a manifest, and the URI of a committed bundle. -/
structure BundleFormats where
  sha256 : Content → Digest
  bodyFingerprint : ManifestBody → Digest
  keyFingerprint : String → String → CheckpointCompatibilityKey → Digest
  dump : CheckpointManifest → Content
  load : Content → Option CheckpointManifest
  uri : String → String

/-- A guarantee that the captured state does not bear out. -/
def claimsWithoutEvidence (guarantee : ResumeGuarantee) (state : CheckpointStateManifest)
    (cursor : Option DataCursor) : Option String :=
  if guarantee.state = .full ∧ ¬state.hasFullState then
    some "FULL requires model, optimizer, scheduler, scaler, RNG and intervention state"
  else if ¬(guarantee.boundary = .optimizerStep ↔ state.microStep = 0) then
    some "checkpoint boundary and micro_step disagree"
  else if guarantee.data = .exact ∧ ¬state.hasFullState then
    some "EXACT requires captured resumable state (ADR-012 AC-19)"
  else if guarantee.data = .exact ∧ guarantee.boundary ≠ .optimizerStep then
    some "EXACT requires a closed optimizer-step boundary"
  else if guarantee.data = .exact ∧ ¬(cursor.any fun cursor => cursor.samplerState.isSome &&
      (cursor.nextSampleOffset.isSome || cursor.iterableCursor.isSome)) then
    some "EXACT requires a consumption cursor and captured sampler/ordering state"
  else if (guarantee.data = .atLeastOnce ∨ guarantee.data = .epochBoundary) ∧ cursor.isNone then
    some "a data resume guarantee requires a cursor"
  else if guarantee.data = .epochBoundary ∧ cursor.any fun cursor => cursor.epoch.isNone then
    some "epoch-boundary resume requires an epoch"
  else none

/-- `a.startswith(b + "/")`. -/
def insideOf (inner outer : String) : Bool := (outer.toList ++ ['/']).isPrefixOf inner.toList

/-- What `CheckpointManifest` refuses. -/
def manifestFault (formats : BundleFormats) (manifest : CheckpointManifest) : Option String :=
  let paths := manifest.files.map CheckpointFile.path
  if ¬paths.all checkpointPath then
    some "checkpoint files require canonical relative paths"
  else if manifest.files = [] then some "Tuple should have at least 1 item after validation, not 0"
  else if ¬paths.Pairwise (fun first second => first.toList < second.toList) then
    some "checkpoint files must be unique and sorted by path"
  else if paths.any fun inner => paths.any fun outer => inner ≠ outer && insideOf inner outer then
    some "a checkpoint path cannot be both a file and a directory"
  else if manifest.manifestDigest ≠ formats.bodyFingerprint manifest.toManifestBody then
    some "checkpoint manifest digest disagrees with its contents"
  else
    claimsWithoutEvidence manifest.resumeGuarantee manifest.stateManifest manifest.dataCursor

def CheckpointManifest.reference (manifest : CheckpointManifest) (uri : String) :
    CheckpointRef where
  id := manifest.context.checkpointId
  uri := uri
  globalStep := some manifest.optimizerStep
  digest := some manifest.manifestDigest
  compatibilityKey := some manifest.compatibilityKey
  createdAt := some manifest.context.createdAt

variable (formats : BundleFormats)

def describe (entry : Entry) : CheckpointFile :=
  ⟨entry.1, entry.2.length, formats.sha256 entry.2⟩

/-- The directory holds what the manifest lists, byte for byte. -/
def verify (directory : Directory) (manifest : CheckpointManifest) :
    Except CheckpointError Unit := do
  let files ← filesIn true directory
  if files.map (describe formats) = manifest.files then .ok ()
  else .error (.corruption "checkpoint file set, sizes, or digests disagree")

/-- `_manifest`: what a directory says it holds. -/
def readManifest (directory : Option Directory) : Except CheckpointError CheckpointManifest :=
  match (directory.bind fun directory => directory.find? "manifest.json").bind
      (fun entry => formats.load entry.2) with
  | none => .error (.corruption "checkpoint manifest is missing or invalid")
  | some manifest =>
      if (manifestFault formats manifest).isNone then .ok manifest
      else .error (.corruption "checkpoint manifest is missing or invalid")

/-- Files written one by one, each of which must be new. -/
def writeFiles : List Entry → Directory → Except CheckpointError Directory
  | [], directory => .ok directory
  | entry :: rest, directory =>
      match directory.insert? entry with
      | none => .error (.fileExists entry.1)
      | some directory => writeFiles rest directory

/-! ## The codec of serialized state -/

def codecName : String := "serialized-state"

def codecVersion : String := "1"

def compatibilityKey (compatibility : CheckpointCompatibilityKey) : Digest :=
  formats.keyFingerprint codecName codecVersion compatibility

/-- What a captured component must be: a file of the bundle, under its digest, of the producer. -/
def componentFault (files : List CheckpointFile) (producer : String) (ref : StateRef) :
    Option CheckpointError :=
  if ¬checkpointPath ref.uri then
    some (.corruption "state references must point inside the bundle")
  else if ¬(files.find? fun file => file.path = ref.uri).any fun file =>
      ref.digest = some file.digest then
    some (.corruption "state reference is missing or has a wrong digest")
  else if ref.producerAttemptId ≠ some producer ∨ ref.producerEvaluationId.isSome then
    some (.corruption "state reference names a different producer")
  else none

def validateComponents (manifest : CheckpointManifest) : Except CheckpointError Unit :=
  let state := manifest.stateManifest
  let compatibility := manifest.context.compatibility
  if state.schemaVersion ≠ "xaytune.checkpoint-state/v1alpha1" then
    .error (.compatibility "unsupported checkpoint state schema")
  else if manifest.compatibilityKey ≠ compatibilityKey formats compatibility then
    .error (.corruption "compatibility key disagrees with its declaration")
  else if (state.optimizer.isSome ∧ compatibility.optimizerLayout.isNone) ∨
      (state.scheduler.isSome ∧ compatibility.schedulerLayout.isNone) then
    .error (.compatibility "captured optimizer/scheduler layout is unknown")
  else
    match (checkpointStateRefs state manifest.dataCursor).findSome?
        (componentFault manifest.files manifest.context.producerAttemptId) with
    | some fault => .error fault
    | none => .ok ()

/-- A quiescent directory of captured state, with what is declared of it. -/
structure CheckpointState where
  source : Directory
  optimizerStep : Nat
  dataCursor : Option DataCursor
  resumeGuarantee : ResumeGuarantee
  stateManifest : CheckpointStateManifest

/-- `encode`: copies the files and declares the copy. -/
def encode (state : CheckpointState) (context : CheckpointContext) :
    Except CheckpointError (Directory × CheckpointManifest) := do
  let sourceFiles ← filesIn false state.source
  let destination ← writeFiles sourceFiles (.empty _)
  let files ← filesIn false destination
  let body : ManifestBody :=
    { context
      codec := codecName
      codecVersion
      compatibilityKey := compatibilityKey formats context.compatibility
      files := files.map (describe formats)
      optimizerStep := state.optimizerStep
      dataCursor := state.dataCursor
      resumeGuarantee := state.resumeGuarantee
      stateManifest := state.stateManifest }
  let manifest : CheckpointManifest := ⟨body, formats.bodyFingerprint body⟩
  match manifestFault formats manifest with
  | some text => .error (.validation text)
  | none =>
      validateComponents formats manifest
      .ok (destination, manifest)

def decode (source : Directory) (manifest : CheckpointManifest) (context : RestoreContext) :
    Except CheckpointError (Directory × CheckpointManifest) :=
  if manifest.codec ≠ codecName ∨ manifest.codecVersion ≠ codecVersion ∨
      manifest.compatibilityKey ≠ compatibilityKey formats context.compatibility then
    .error (.compatibility "checkpoint codec or state layout is incompatible")
  else do
    verify formats source manifest
    validateComponents formats manifest
    .ok (source, manifest)

end Xaytune.Checkpoints
