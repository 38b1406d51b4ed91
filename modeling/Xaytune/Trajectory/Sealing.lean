import Xaytune.Trajectory.Store

/-!
# Rolling chunks and sealing manifests

What the writer and the reconciler share: the bytes of a chunk and of the tail, the chunk a
tail is rolled into, and the manifest that names the chunks.
-/

namespace Xaytune.Trajectory

open Xaytune.Library

abbrev Act (σ α : Type) := Action Call Answer Raised σ α

variable {σ : Type}

/-- One file operation. -/
def ask (request : Call) : Act σ (Answer request) := Action.ask request

def Act.ofExcept {α : Type} : Except Raised α → Act σ α
  | .ok value => pure value
  | .error error => throw error

/-! ## Bytes -/

/-- The lines of `bytes.split(b"\n")`: what follows the last newline is the last line. -/
def lines (data : Bytes) : List Bytes := data.splitOn newline

/-- A line and its newline. -/
def closed (line : Bytes) : Bytes := line ++ [newline]

/-- The UTF-8 bytes of a text. -/
def encode (text : String) : Bytes := text.toList.flatMap String.utf8EncodeChar

section Formats

variable (formats : Formats)

/-- The bytes of a chunk: a header naming the chunk before it, then one event per line. -/
def chunkBytes (trajectoryId : AttemptId) (index : Nat) (previous : Option Digest)
    (events : List TrajectoryEvent) : Except Raised Bytes := do
  let lines ← events.mapM formats.chunkLine
  .ok (closed (formats.headerLine ⟨index, previous, trajectoryId⟩) ++ lines.flatMap closed)

/-- The bytes the tail holds for the events appended to it. -/
def tailBytes (events : List TrajectoryEvent) : Bytes :=
  events.flatMap fun event => closed (formats.eventLine event)

/-- A chunk's header and events, if every line is what it claims. -/
def parseChunk (data : Bytes) : Option (ChunkHeader × List TrajectoryEvent) :=
  match lines data with
  | header :: rest =>
      if rest.getLast? = some [] then do
        let header ← formats.parseHeader header
        let events ← rest.dropLast.mapM formats.parseEvent
        some (header, events)
      else none
  | [] => none

/-! ## Reading -/

abbrev View := FileName → Option Bytes

/-- The events of one chunk, and every problem reading it. -/
def loadChunk (view : View) (trajectoryId : AttemptId) (ref : ChunkRef) :
    List TrajectoryEvent × List String :=
  match view (.chunk ref.index ref.digest) with
  | none => ([], [s!"chunk {ref.index} is missing"])
  | some data =>
      if formats.digestOf data ≠ ref.digest then
        ([], [s!"chunk {ref.index} does not have its digest"])
      else
        let size := if data.length ≠ ref.bytes then
          [s!"chunk {ref.index} is not its recorded size"] else []
        match parseChunk formats data with
        | none => ([], size ++ [s!"chunk {ref.index} does not parse"])
        | some (header, events) =>
            (events, size ++
              (if header ≠ ⟨ref.index, ref.previous, trajectoryId⟩ then
                [s!"chunk {ref.index}'s header is not its place in the chain"] else []) ++
              (if events.map TrajectoryEvent.sequence ≠
                  List.range' ref.firstSequence (ref.lastSequence + 1 - ref.firstSequence) then
                [s!"chunk {ref.index} does not hold exactly its range"] else []))

/-- The events of every chunk, and every problem reading them. -/
def loadEvents (view : View) (trajectoryId : AttemptId) (chunks : List ChunkRef) :
    List TrajectoryEvent × List String :=
  (chunks.flatMap fun ref => (loadChunk formats view trajectoryId ref).1,
    chunks.flatMap fun ref => (loadChunk formats view trajectoryId ref).2)

/-- The lines of a tail behind the rolled events: a redelivery is left out, a conflict or a line
that does not parse breaks the tail, and a last line that does not parse is torn. -/
def parseLines (rolled : List TrajectoryEvent) (torn : Nat) : List Bytes →
    (events : List TrajectoryEvent) → List TrajectoryEvent × Nat × Bool
  | [], events => (events, torn, false)
  | line :: rest, events =>
      match formats.parseEvent line with
      | none =>
          if rest = [] ∧ torn = 0 then (events, line.length + 1, false) else (events, torn, true)
      | some event =>
          match rolled[event.sequence]? with
          | some known =>
              if known ≠ event then (events, torn, true)
              else parseLines rolled torn rest events
          | none => parseLines rolled torn rest (events ++ [event])

/-- The tail's events beyond the rolled ones, the torn bytes discarded, and whether it broke. -/
def parseTail (data : Bytes) (rolled : List TrajectoryEvent) :
    List TrajectoryEvent × Nat × Bool :=
  parseLines formats rolled ((lines data).getLast?.elim 0 List.length) (lines data).dropLast []

end Formats

/-- The bytes of some files, read one after another. -/
def observe : List FileName → Act σ View
  | [] => pure fun _ => none
  | file :: files => do
      let data ← ask (.read file)
      let view ← observe files
      pure (Function.update view file data)

/-- The bytes of a file; none if it is absent or cannot be read. -/
def readIfAny (file : FileName) : Act σ (Option Bytes) :=
  tryCatch (ask (.read file)) fun _ => pure none

def readOpenRecord (formats : Formats) : Act σ (Option TrajectoryOpenRecord) := do
  let data ← readIfAny .openRecord
  pure (data.bind formats.parseOpenRecord)

/-- The chunks rolled so far: none before the first roll. -/
def readProgress (formats : Formats) (trajectoryId : AttemptId) : Act σ TrajectoryProgress := do
  match ← ask (.read .progress) with
  | none => pure { trajectoryId := trajectoryId }
  | some data =>
      match formats.parseProgress data with
      | some progress => pure progress
      | none => throw (.validation ["progress.json does not validate"])

/-- The manifest of a file, validated alone; none if absent or invalid. -/
def readManifest (formats : Formats) (file : FileName) :
    Act σ (Option (TrajectoryManifest formats.fingerprints)) := do
  let data ← readIfAny file
  pure (data.bind formats.validateManifest)

/-! ## Writing -/

/-- The place of a chunk in the chain, refused unless it holds exactly its range. -/
def chunkRef (index firstSequence lastSequence : Nat) (digest : Digest) (previous : Option Digest)
    (bytes events : Nat) : Except Raised ChunkRef :=
  if nonempty : 0 < bytes ∧ 0 < events then
    if forward : firstSequence ≤ lastSequence then
      if counted : events = lastSequence - firstSequence + 1 then
        .ok ⟨index, firstSequence, lastSequence, digest, previous, bytes, events, nonempty, forward,
          counted⟩
      else .error (.validation ["a chunk holds exactly the events of its range"])
    else .error (.validation ["a chunk's range runs forward"])
  else .error (.validation ["a chunk is not empty"])

/-- Publish the events as the next immutable chunk, then advance `progress.json`. -/
def roll (formats : Formats) (trajectoryId : AttemptId) (progress : TrajectoryProgress)
    (events : List TrajectoryEvent) : Act σ TrajectoryProgress :=
  match events.head?, events.getLast? with
  | some first, some last => do
      let previous := progress.chunks.getLast?.map ChunkRef.digest
      let index := progress.chunks.length
      let data ← Act.ofExcept (chunkBytes formats trajectoryId index previous events)
      let ref ← Act.ofExcept (chunkRef index first.sequence last.sequence (formats.digestOf data)
        previous data.length events.length)
      let _ ← ask (.writeNew (.chunk ref.index ref.digest) data)
      let advanced : TrajectoryProgress := ⟨progress.trajectoryId, progress.chunks ++ [ref]⟩
      ask (.replaceAtomically .progress (formats.progressBytes advanced))
      pure advanced
  | _, _ => pure progress

/-- A body that contradicts itself is refused. -/
def TrajectoryManifestBody.validate (body : TrajectoryManifestBody) : Except Raised ManifestBody :=
  if consistent : manifestProblems body = [] then .ok ⟨body, consistent⟩
  else .error (.validation (manifestProblems body))

/-- How a manifest ends: with an attested result, or with a reason it has none. -/
structure Sealing where
  completeness : Completeness
  abandonment : Option Abandonment := none
  resultDigest : Option Digest := none
  unattestedResult : Option Digest := none
  tornTailBytes : Nat := 0

def manifestBody (record : TrajectoryOpenRecord) (chunks : List ChunkRef)
    (events : List TrajectoryEvent) (sealing : Sealing) (sealedAt : String) :
    Except Raised ManifestBody :=
  TrajectoryManifestBody.validate
    { trajectoryId := record.trajectoryId
      attribution := record.attribution
      writer := record.writer
      runner := record.runner
      recording := record.recording
      chunks := chunks
      content := contentReferences events
      completeness := sealing.completeness
      abandonment := sealing.abandonment
      termination := (terminatedOf events).map Terminated.termination
      resultDigest := sealing.resultDigest
      unattestedResult := sealing.unattestedResult
      tornTailBytes := sealing.tornTailBytes
      sealedAt := sealedAt }

end Xaytune.Trajectory
