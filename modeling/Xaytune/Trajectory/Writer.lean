import Mathlib.Data.List.Infix
import Xaytune.Trajectory.Verify

/-!
# The trajectory writer

One writer records one attempt instance, from its open record to its seal: every blob and every
event is durable before anything depends on it, the result is published by a link that never
overwrites, and the manifest is sealed once.
-/

namespace Xaytune.Trajectory

open Xaytune.Library

def localWriter : WriterIdentity := ⟨"xaytune.local-trajectory-writer", "1"⟩

/-- A host's redaction rules, named by the digest the recording spec carries. -/
structure Redactor where
  policyDigest : Digest
  ruleFor : (role text : String) → Option String

inductive WriterState where
  | opened | staged | committed | complete | contained | released
  deriving DecidableEq

def WriterState.text : WriterState → String
  | opened => "open"
  | staged => "staged"
  | committed => "committed"
  | complete => "sealed"
  | contained => "contained"
  | released => "released"

structure TrajectoryWriter (formats : Formats) where
  opened : TrajectoryOpenRecord
  secrets : List String
  redactor : Option Redactor
  events : List TrajectoryEvent := []
  tail : List TrajectoryEvent := []
  tailBytes : Nat := 0
  progress : TrajectoryProgress
  staged : Option (TrajectoryManifest formats.fingerprints) := none
  state : WriterState := .opened

namespace TrajectoryWriter

variable {formats : Formats}

abbrev Method (formats : Formats) (α : Type) := Act (TrajectoryWriter formats) α

/-! ## Secrets -/

def occurs (value text : String) : Bool := value.toList <:+: text.toList

def scan (secrets : List String) (text role : String) : Except Raised Unit :=
  if secrets.any (fun value => occurs value text) then .error (.secretDetected role) else .ok ()

def scanAll (secrets : List String) (texts : List String) (role : String) : Except Raised Unit :=
  texts.forM fun text => scan secrets text role

/-- The line of an event, scanned as it is written. -/
def scanLine (secrets : List String) (line : Bytes) (role : String) : Except Raised Unit :=
  if secrets.any (fun value => encode value <:+: line) then .error (.secretDetected role)
  else .ok ()

/-! ## Recording -/

def requireOpen : Method formats Unit := do
  let writer ← get
  if writer.state ≠ .opened then
    throw (.recording s!"the attempt is {writer.state.text}; nothing more is recorded")

/-- An error that is not a file operation's is raised on; a refused one is a recording error. -/
def refused {σ α : Type} (reason : String) (error : Raised) : Act σ α :=
  if error = .os then throw (.recording reason) else throw error

/-- No registered secret stands in a text, nor in the strings of a JSON text. -/
def scanContent (formats : Formats) (secrets : List String) (text role mediaType : String) :
    Except Raised Unit := do
  scan secrets text role
  if mediaType.startsWith "application/json" then
    match formats.jsonStrings text with
    | none => throw (.recording s!"{role} is not the JSON it claims")
    | some strings => scanAll secrets strings role

/-- Capture a text as a blob, durably, before any event names it. -/
def content (text role mediaType : String) (sensitive : Bool) : Method formats ContentSlot := do
  requireOpen
  let writer ← get
  Act.ofExcept (scanContent formats writer.secrets text role mediaType)
  match writer.redactor.bind (fun redactor => redactor.ruleFor role text) with
  | some rule => pure (.redacted rule false (some (formats.digestOf (encode text))))
  | none => do
      let digest := formats.digestOf (encode text)
      let tier : Tier := if sensitive then .restricted else .ordinary
      let _ ← tryCatch (ask (.writeNew (.blob tier digest) (encode text)))
        (refused "the store refused a blob")
      pure (.captured tier digest (encode text).length mediaType)

/-- An event whose fields do not cohere is refused. -/
def makeEvent (trajectoryId : AttemptId) (sequence : Nat) (parent : Option Nat)
    (emittedAt : Option Core.Text) (body : EventBody) : Except Raised TrajectoryEvent :=
  if coherent : body.incoherences = [] then
    if earlier : ∀ place ∈ parent, place < sequence then
      if first : body.kind = .runStarted → sequence = 0 ∧ parent = none then
        .ok ⟨trajectoryId, sequence, parent, emittedAt, body, coherent, earlier, first⟩
      else .error (.validation ["run-started is sequence 0, with no parent"])
    else .error (.validation ["a parent is always an earlier event"])
  else .error (.validation body.incoherences)

/-- What the header of a chunk behind another takes. -/
def headerSize (formats : Formats) (trajectoryId : AttemptId) (index : Nat) : Nat :=
  (chunkBytes formats trajectoryId index
    (some ("sha256:" ++ String.ofList (List.replicate 64 '0'))) []).toOption.elim 0 List.length

/-- The room a chunk's header takes. -/
def headerRoom (formats : Formats) (trajectoryId : AttemptId) : Nat :=
  headerSize formats trajectoryId 999999

/-- Roll the tail into a chunk, then truncate it. -/
def rollTail (site : Site) : Method formats Unit := do
  tryCatch (do
      let writer ← get
      let progress ← roll formats writer.opened.trajectoryId writer.progress writer.tail
      modify fun writer => { writer with progress := progress }
      ask (.truncateDurably .tail site))
    (refused "the store refused a chunk")
  modify fun writer => { writer with tail := [], tailBytes := 0 }

/-- Whether the tail has no room left for a line. -/
def full (writer : TrajectoryWriter formats) (line : Bytes) : Bool :=
  writer.tail ≠ [] ∧
    (writer.opened.recording.maxEvents ≤ writer.tail.length ∨
      writer.opened.recording.maxBytes <
        headerRoom formats writer.opened.trajectoryId + writer.tailBytes + line.length)

/-- Append an event's line to the tail, then remember the event. -/
def appendEvent (event : TrajectoryEvent) : Method formats TrajectoryEvent := do
  let line := closed (formats.eventLine event)
  tryCatch (ask (.appendDurably .tail line)) (refused "the store refused an event")
  modify fun writer => { writer with
    events := writer.events ++ [event]
    tail := writer.tail ++ [event]
    tailBytes := writer.tailBytes + line.length }
  pure event

/-- Append one event, durably. -/
def record (body : EventBody) (parent : Option Nat) (now : Core.Text) :
    Method formats TrajectoryEvent := do
  requireOpen
  let writer ← get
  let id := writer.opened.trajectoryId
  let event ← Act.ofExcept (makeEvent id writer.events.length parent (some now) body)
  let line := closed (formats.eventLine event)
  let role := s!"the {event.kind.text} event"
  Act.ofExcept (scanAll writer.secrets (formats.eventStrings event) role)
  Act.ofExcept (scanLine writer.secrets line role)
  if writer.opened.recording.maxBytes < headerRoom formats id + line.length then
    throw (.recording "an event is larger than the chunk's max_bytes")
  if writer.full line then rollTail .recording
  appendEvent event

/-! ## Before the commit point -/

/-- Read the evidence a manifest names and verify it. -/
def verified {σ : Type} (formats : Formats) (trajectoryId : AttemptId)
    (manifest : TrajectoryManifest formats.fingerprints) : Act σ (List String) := do
  let view ← observe (evidenceFiles formats manifest)
  pure (verifyTrajectory formats view trajectoryId manifest)

/-- No registered secret stands in a result, which is JSON. -/
def scanResult (formats : Formats) (secrets : List String) (resultBytes : Bytes) :
    Except Raised Unit := do
  match formats.decode resultBytes with
  | none => throw (.value "the result is not utf-8")
  | some text =>
      scan secrets text "the result"
      match formats.jsonStrings text with
      | none => throw (.recording "the result is not JSON")
      | some strings => scanAll secrets strings "the result"

/-- The digest of a result that is the one run-terminated named, and holds no secret. -/
def checkResult (writer : TrajectoryWriter formats) (resultBytes : Bytes) : Except Raised Digest :=
  match writer.events.getLast?.bind (fun event => event.body.terminated) with
  | none => .error (.recording "a run is staged only after run-terminated")
  | some terminated =>
      if terminated.resultDigest ≠ formats.digestOf resultBytes then
        .error (.recording "the result is not the one run-terminated named")
      else (scanResult formats writer.secrets resultBytes).map fun _ => terminated.resultDigest

/-- Write the result and the manifest that attests it. -/
def writeStaged (resultBytes : Bytes) (resultDigest : Digest) (now : String) :
    Method formats (TrajectoryManifest formats.fingerprints) :=
  tryCatch (do
      let _ ← ask (.writeNew .result resultBytes)
      let writer ← get
      let body ← Act.ofExcept (manifestBody writer.opened writer.progress.chunks writer.events
        { completeness := .complete, resultDigest := some resultDigest } now)
      let staged := body.seal formats.fingerprints
      let _ ← ask (.writeNew .staged (formats.manifestBytes staged))
      pure staged)
    (refused "the store refused the staged evidence")

/-- Stage everything the commit point needs, then verify it. -/
def stage (resultBytes : Bytes) (now : String) :
    Method formats (TrajectoryManifest formats.fingerprints) := do
  requireOpen
  let resultDigest ← Act.ofExcept (checkResult (← get) resultBytes)
  rollTail .recording
  let staged ← writeStaged resultBytes resultDigest now
  let problems ← verified formats (← get).opened.trajectoryId staged
  if problems ≠ [] then
    throw (.recording ("the staged evidence does not verify: " ++
      String.intercalate "; " problems))
  modify fun writer => { writer with staged := some staged, state := .staged }
  pure staged

/-! ## The commit point and after -/

/-- Publish `result.json` by a link that never overwrites. -/
def commit : Method formats Bool := do
  let writer ← get
  if writer.state ≠ .staged then
    throw (.recording "only staged evidence can be committed")
  let linked ← tryCatch (ask .linkResult) fun error => do
    let found ← ask .readLocation
    if found.any PublishedFile.same then
      modify fun writer => { writer with state := .committed }
    throw error
  if linked then modify fun writer => { writer with state := .committed }
  pure linked

/-! ## Opening -/

/-- What an attempt is opened with. -/
structure Opening where
  trajectoryId : AttemptId
  attribution : TrajectoryAttribution
  recording : TrajectoryRecordingSpec
  runner : WriterIdentity
  secrets : List String
  secretSources : List String
  redactor : Option Redactor
  openedAt : String

/-- The registered secrets, each once, in order. -/
def Opening.frozen (opening : Opening) : List String :=
  (opening.secrets.filter (· ≠ "")).dedup.insertionSort (· ≤ ·)

def Opening.openRecord (opening : Opening) : TrajectoryOpenRecord where
  trajectoryId := opening.trajectoryId
  attribution := opening.attribution
  writer := localWriter
  runner := opening.runner
  recording := opening.recording
  secretsRegistered := opening.frozen.length
  secretSources := opening.secretSources
  openedAt := some opening.openedAt

def createAttempt {σ : Type} : Act σ Unit := do
  ask (.makeDirectory .attempt)
  ask (.makeDirectory .chunks)
  ask (.makeDirectory .blobs)
  ask (.makeDirectory .ordinaryBlobs)
  ask (.makeDirectory .restrictedBlobs)

/-- The recording spec names this writer, and a redactor with its policy is at hand. -/
def Opening.check (opening : Opening) : Except Raised Unit :=
  if opening.recording.writer ≠ localWriter then
    .error (.value "the recording spec names another trajectory writer")
  else if opening.recording.redactionPolicyDigest.any fun digest =>
      opening.redactor.all fun redactor => redactor.policyDigest ≠ digest then
    .error (.value "the recording spec's redaction policy has no matching redactor")
  else .ok ()

/-- Write the open record, then the tail that names it durably. -/
def persist {σ : Type} (formats : Formats) (opening : Opening) : Act σ Unit := do
  Act.ofExcept (scanAll opening.frozen (formats.openRecordStrings opening.openRecord)
    "the open record")
  -- the record is serialised as UTF-8 itself
  if ¬ opening.attribution.texts.all isUnicode then throw (.other "PydanticSerializationError")
  let _ ← ask (.writeNew .openRecord (formats.openRecordBytes opening.openRecord))
  ask (.createDurably .tail)

/-- Mint an attempt instance and persist its open record before anything else. -/
def «open» {σ : Type} (formats : Formats) (opening : Opening) :
    Act σ (TrajectoryWriter formats) := do
  Act.ofExcept opening.check
  createAttempt
  ask .openLock
  ask .flock
  tryCatch (persist formats opening) fun error => do
    ask .unlock
    throw error
  pure { opened := opening.openRecord, secrets := opening.frozen, redactor := opening.redactor,
         progress := { trajectoryId := opening.trajectoryId } }

end TrajectoryWriter

end Xaytune.Trajectory
