import Xaytune.Core.Trajectory
import Xaytune.Library.Program

/-!
# The local trajectory store

One directory per attempt instance, and the durable, no-overwrite file operations that act on it.
What `json`, `pydantic` and `hashlib` do with the records is a parameter: each record is found
again in the bytes written for it, and no event's line holds a newline.
-/

namespace Xaytune.Trajectory

open Xaytune.Library

abbrev Bytes := List UInt8

def newline : UInt8 := 10

/-! ## Errors -/

inductive Raised where
  | os
  | storeConflict
  | secretDetected (role : String)
  | recording (reason : String)
  | validation (reasons : List String)
  | value (reason : String)
  | unverified (reasons : List String)
  | other (name : String)
  deriving DecidableEq

/-- A text has no bytes in UTF-8. -/
def Raised.unencodable : Raised := .other "UnicodeEncodeError"

/-! ## Files -/

inductive FileName where
  | openRecord | tail | progress | result | staged | manifest | expiry | incident
  | chunk (index : Nat) (digest : Digest)
  | blob (tier : Tier) (digest : Digest)
  deriving DecidableEq

inductive DirectoryName where
  | attempt | chunks | blobs | ordinaryBlobs | restrictedBlobs

/-- What the result's declared location holds: this attempt's `result.json`, or another file. -/
inductive Location where
  | thisResult
  | another (data : Bytes)

/-- The lock file of an attempt, as one process sees it. -/
inductive Lock where
  | missing | free | mine | others

structure Directory where
  files : FileName → Option Bytes
  location : Option Location
  lock : Lock

/-- Where a tail is truncated: by a roll that more events may follow, or by the last one before
the seal. -/
inductive Site where
  | recording | sealing

inductive Call where
  | makeDirectory (name : DirectoryName)
  | openLock
  | flock
  | tryLock
  | unlock
  | writeNew (file : FileName) (data : Bytes)
  | replaceAtomically (file : FileName) (data : Bytes)
  | createDurably (file : FileName)
  | appendDurably (file : FileName) (data : Bytes)
  | truncateDurably (file : FileName) (site : Site)
  | linkResult
  | linkStaged
  | read (file : FileName)
  | readLocation

/-- Whether the lock was free, held, or not there. -/
inductive TryLock where
  | acquired | busy | missing

/-- A file at the declared location: whether it is this attempt's `result.json`, and its bytes. -/
structure PublishedFile where
  same : Bool
  data : Bytes

@[reducible]
def Answer : Call → Type
  | .writeNew _ _ | .linkResult | .linkStaged => Bool
  | .tryLock => TryLock
  | .read _ => Option Bytes
  | .readLocation => Option PublishedFile
  | _ => Unit

namespace Directory

def put (directory : Directory) (file : FileName) (data : Bytes) : Directory :=
  { directory with files := Function.update directory.files file (some data) }

/-- What is read at the declared location. -/
def published (directory : Directory) : Option PublishedFile :=
  match directory.location with
  | none => none
  | some .thisResult => some ⟨true, (directory.files .result).getD []⟩
  | some (.another data) => some ⟨false, data⟩

/-- One call: it completes durably, or raises and leaves the directory as it is. -/
def perform (directory : Directory) : (call : Call) → Directory × Except Raised (Answer call)
  | .makeDirectory _ => (directory, .ok ())
  | .openLock =>
      match directory.lock with
      | .missing => ({ directory with lock := .free }, .ok ())
      | _ => (directory, .ok ())
  | .flock => ({ directory with lock := .mine }, .ok ())
  | .tryLock =>
      match directory.lock with
      | .missing => (directory, .ok .missing)
      | .free => ({ directory with lock := .mine }, .ok .acquired)
      | .mine | .others => (directory, .ok .busy)
  | .unlock =>
      match directory.lock with
      | .mine => ({ directory with lock := .free }, .ok ())
      | _ => (directory, .ok ())
  | .writeNew file data =>
      match directory.files file with
      | none => (directory.put file data, .ok true)
      | some found => (directory, if found = data then .ok false else .error .storeConflict)
  | .replaceAtomically file data => (directory.put file data, .ok ())
  | .createDurably file =>
      match directory.files file with
      | none => (directory.put file [], .ok ())
      | some _ => (directory, .error .os)
  | .appendDurably file data =>
      (directory.put file ((directory.files file).getD [] ++ data), .ok ())
  | .truncateDurably file _ =>
      match directory.files file with
      | none => (directory, .error .os)
      | some _ => (directory.put file [], .ok ())
  | .linkResult =>
      match directory.location, directory.files .result with
      | some _, _ => (directory, .ok false)
      | none, none => (directory, .error .os)
      | none, some _ => ({ directory with location := some .thisResult }, .ok true)
  | .linkStaged =>
      match directory.files .manifest, directory.files .staged with
      | some _, _ => (directory, .ok false)
      | none, none => (directory, .error .os)
      | none, some data => (directory.put .manifest data, .ok true)
  | .read file => (directory, .ok (directory.files file))
  | .readLocation => (directory, .ok directory.published)

/-- What a crash inside a call may leave: an append may have written some of its bytes. -/
inductive Torn (directory : Directory) : Call → Directory → Prop
  | append (file : FileName) (data written : Bytes) (some_of : written <+: data) :
      Torn directory (.appendDurably file data)
        (directory.put file ((directory.files file).getD [] ++ written))

/-- No process is left that holds the lock. -/
def released (directory : Directory) : Directory :=
  { directory with lock := match directory.lock with
    | .missing => .missing
    | _ => .free }

def machine : Machine Call Answer Raised Directory where
  perform := perform
  torn := Torn

end Directory

/-! ## What the records' libraries do -/

/-- The removal of one blob after its retention. -/
structure ExpiryRecord where
  trajectoryId : AttemptId
  trajectoryFingerprint : Digest
  digest : Digest
  tier : Tier
  retentionSeconds : Nat
  deadline : String
  actor : String
  removedAt : String
  deriving DecidableEq

/-- The bytes of every record, the digests of bytes, and the records found again; the strings a
JSON text or a record holds, keys included; a moment, a time with a zone, in microseconds. An
event's line in the tail is escaped; in a chunk it is not, and UTF-8 may have no bytes for it. -/
structure Formats where
  fingerprints : Fingerprints
  digestOf : Bytes → Digest
  eventLine : TrajectoryEvent → Bytes
  chunkLine : TrajectoryEvent → Except Raised Bytes
  parseEvent : Bytes → Option TrajectoryEvent
  headerLine : ChunkHeader → Bytes
  parseHeader : Bytes → Option ChunkHeader
  openRecordBytes : TrajectoryOpenRecord → Bytes
  parseOpenRecord : Bytes → Option TrajectoryOpenRecord
  progressBytes : TrajectoryProgress → Bytes
  parseProgress : Bytes → Option TrajectoryProgress
  manifestBytes : TrajectoryManifest fingerprints → Bytes
  validateManifest : Bytes → Option (TrajectoryManifest fingerprints)
  parseResult : Bytes → Option HarnessRunResult
  incidentBytes : AttemptId → Digest → Bytes
  decode : Bytes → Option String
  eventStrings : TrajectoryEvent → List String
  openRecordStrings : TrajectoryOpenRecord → List String
  jsonStrings : String → Option (List String)
  parseExpiry : Bytes → Option ExpiryRecord
  moment : String → Option Int
  chunkLine_ok : ∀ event, event.isUnicode = true → ∃ line, chunkLine event = .ok line
  chunkLine_raises : ∀ event, event.isUnicode = false → chunkLine event = .error .unencodable
  parse_eventLine : ∀ event, event.isUnicode = true → parseEvent (eventLine event) = some event
  parse_chunkLine : ∀ event line, chunkLine event = .ok line → parseEvent line = some event
  newline_notMem_eventLine : ∀ event, newline ∉ eventLine event
  newline_notMem_chunkLine : ∀ event line, chunkLine event = .ok line → newline ∉ line
  parse_headerLine : ∀ header, parseHeader (headerLine header) = some header
  newline_notMem_headerLine : ∀ header, newline ∉ headerLine header
  parse_openRecordBytes : ∀ record, parseOpenRecord (openRecordBytes record) = some record
  parse_progressBytes : ∀ progress, parseProgress (progressBytes progress) = some progress
  validate_manifestBytes : ∀ manifest, validateManifest (manifestBytes manifest) = some manifest

end Xaytune.Trajectory
