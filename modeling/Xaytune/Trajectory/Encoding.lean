import Xaytune.Library.Json
import Xaytune.Trajectory.Chain

/-!
# The JSON lines of a chunk

Every event and every header as one JSON line. The line the writer budgets an event by is the
escaped one, the line a chunk holds is not. What is left to the libraries is that a text decodes
to the value it was encoded from, and that the event is validated from its own fields.
-/

namespace Xaytune.Trajectory

open Xaytune.Library

/-! ## Words -/

def Tier.disposition : Tier → String
  | ordinary => "captured"
  | restricted => "captured-restricted"

def ContextRule.text : ContextRule → String
  | fullHistory => "full-history"
  | recentTurns => "recent-turns"

def CallOutcome.text : CallOutcome → String
  | replied => "replied"
  | failed => "failed"
  | cancelled => "cancelled"

def ToolOutcome.text : ToolOutcome → String
  | executed => "executed"
  | refused => "refused"
  | failed => "failed"

def ToolReason.text : ToolReason → String
  | notEnabled => "not-enabled"
  | invalidArguments => "invalid-arguments"
  | toolRaised => "tool-raised"
  | nonTextResult => "non-text-result"

def DropRule.text : DropRule → String
  | recentTurns => "recent-turns"
  | truncateOldest => "truncate-oldest"

def ErrorCode.text : ErrorCode → String
  | secretDetected => "secret-detected"
  | recordingFailed => "recording-failed"

/-! ## Values -/

/-- A value, or `null`. -/
def optional {α : Type} (dump : α → Json) : Option α → Json
  | none => .null
  | some value => dump value

def count (value : Nat) : Json := .int value

/-- A text without surrogates. -/
def text (value : String) : Json := .str (Json.points value)

def texts (values : List Core.Text) : Json := .array (values.map .str)

/-! ## Records

The fields of a record, in the order of their keys. -/

def WriterIdentity.modelDump (identity : WriterIdentity) : Json :=
  .object [("name", text identity.name), ("version", text identity.version)]

def ContentSlot.modelDump : ContentSlot → Json
  | captured tier digest size mediaType =>
      .object [("digest", text digest), ("disposition", text tier.disposition),
        ("media_type", text mediaType), ("size", count size)]
  | redacted rule secret removedDigest =>
      .object [("disposition", text "redacted"), ("removed_digest", optional text removedDigest),
        ("rule", text rule), ("secret", .bool secret)]
  | notProvided => .object [("disposition", text "not-provided")]

def TrajectoryTask.modelDump (task : TrajectoryTask) : Json :=
  .object [("revision", optional .str task.revision),
    ("task_fingerprint", optional text task.taskFingerprint), ("task_id", text task.taskId)]

def TrajectoryAttribution.modelDump (attribution : TrajectoryAttribution) : Json :=
  .object [("assignment_cohort", optional text attribution.assignmentCohort),
    ("attempt_id", optional .str attribution.attemptId),
    ("attempt_ordinal", optional count attribution.attemptOrdinal),
    ("execution_fingerprint", text attribution.executionFingerprint),
    ("experiment_id", optional .str attribution.experimentId),
    ("harness_fingerprint", text attribution.harnessFingerprint),
    ("node_id", optional .str attribution.nodeId),
    ("replicate", count attribution.replicate),
    ("request_digest", text attribution.requestDigest),
    ("run_id", optional .str attribution.runId),
    ("seed", .int attribution.seed),
    ("task", attribution.task.modelDump)]

/-- An event's fields, in the order of their keys, with the id derived for it. -/
def TrajectoryEvent.modelDump (event : TrajectoryEvent) (eventId : String) : Json :=
  let emitted := ("emitted_at", optional .str event.emittedAt)
  let id := ("event_id", text eventId)
  let kind := ("kind", text event.kind.text)
  let parent := ("parent", optional count event.parent)
  let sequence := ("sequence", count event.sequence)
  let trajectory := ("trajectory_id", text event.trajectoryId)
  match event.body with
  | .runStarted attribution runner writer effectiveTools configurationDigest =>
      .object [("attribution", attribution.modelDump),
        ("configuration_digest", text configurationDigest),
        ("effective_tools", texts effectiveTools), emitted, id, kind, parent,
        ("runner", runner.modelDump), sequence, trajectory, ("writer", writer.modelDump)]
  | .modelCallStarted turn request messagesDigest toolsDigest contextRule messagesShown =>
      .object [("context_rule", text contextRule.text), emitted, id, kind,
        ("messages_digest", text messagesDigest), ("messages_shown", count messagesShown), parent,
        ("request", request.modelDump), sequence, ("tools_digest", text toolsDigest), trajectory,
        ("turn", count turn)]
  | .modelCallFinished outcome reply errorClass promptTokens outputTokens toolCallsRequested
      outputTruncated latencyMs =>
      .object [emitted, ("error_class", optional text errorClass), id, kind,
        ("latency_ms", optional count latencyMs), ("outcome", text outcome.text),
        ("output_tokens", count outputTokens), ("output_truncated", .bool outputTruncated), parent,
        ("prompt_tokens", count promptTokens), ("reply", optional ContentSlot.modelDump reply),
        sequence, ("tool_calls_requested", texts toolCallsRequested), trajectory]
  | .toolCallStarted callId tool version arguments =>
      .object [("arguments", arguments.modelDump), ("call_id", text callId), emitted, id, kind,
        parent, sequence, ("tool", text tool), trajectory, ("version", optional .str version)]
  | .toolCallFinished outcome reason output shown truncated errorClass =>
      .object [emitted, ("error_class", optional text errorClass), id, kind,
        ("outcome", text outcome.text), ("output", optional ContentSlot.modelDump output), parent,
        ("reason", optional (fun reason => text reason.text) reason), sequence,
        ("shown", shown.modelDump), trajectory, ("truncated", .bool truncated)]
  | .contextChanged rule turnsDropped beforeDigest afterDigest =>
      .object [("after_digest", text afterDigest), ("before_digest", text beforeDigest), emitted,
        id, kind, parent, ("rule", text rule.text), sequence, trajectory,
        ("turns_dropped", count turnsDropped)]
  | .errorObserved code role =>
      .object [("code", text code.text), emitted, id, kind, parent, ("role", optional text role),
        sequence, trajectory]
  | .runTerminated termination completed answer errorClass resultDigest =>
      .object [("answer", optional ContentSlot.modelDump answer), ("completed", .bool completed),
        emitted, ("error_class", optional text errorClass), id, kind, parent,
        ("result_digest", text resultDigest), sequence, ("termination", text termination.text),
        trajectory]

/-- The fields of a chunk's header. -/
def ChunkHeader.record (header : ChunkHeader) : Json :=
  .object [("chunk", count header.chunk), ("previous", optional text header.previous),
    ("trajectory_id", text header.trajectoryId)]

def headerKeys : List String := ["chunk", "previous", "trajectory_id"]

/-- The header an object with exactly its fields says. -/
def readHeader : Json → Option ChunkHeader
  | .object fields =>
      if (fields.map Prod.fst) ⊆ headerKeys ∧ headerKeys ⊆ fields.map Prod.fst then
        match fields.lookup "chunk", fields.lookup "previous", fields.lookup "trajectory_id" with
        | some (.int (.ofNat chunk)), some .null, some (.str trajectoryId) => do
            some ⟨chunk, none, ← Json.spelling trajectoryId⟩
        | some (.int (.ofNat chunk)), some (.str previous), some (.str trajectoryId) => do
            some ⟨chunk, some (← Json.spelling previous), ← Json.spelling trajectoryId⟩
        | _, _, _ => none
      else none
  | _ => none

theorem readHeader_record (header : ChunkHeader) : readHeader header.record = some header := by
  obtain ⟨chunk, previous, trajectoryId⟩ := header
  cases previous with
  | none =>
      change (Json.spelling (Json.points trajectoryId)).bind _ = _
      rw [Json.spelling_points]
      rfl
  | some previous =>
      change (Json.spelling (Json.points previous)).bind _ = _
      rw [Json.spelling_points]
      change (Json.spelling (Json.points trajectoryId)).bind _ = _
      rw [Json.spelling_points]
      rfl

/-! ## Digests -/

/-- What `hashlib` writes for a digest: sixty-four hexadecimal letters. -/
structure HexDigest where
  hex : Bytes → List Char
  length : ∀ data, (hex data).length = 64
  letters : ∀ data, ∀ letter ∈ hex data, letter ∈ "0123456789abcdef".toList

namespace HexDigest

variable (sha256 : HexDigest)

def digestOf (data : Bytes) : Digest := "sha256:" ++ String.ofList (sha256.hex data)

/-- The stable id of the event at a sequence. -/
def eventIdFor (trajectoryId : AttemptId) (sequence : Nat) : String :=
  "tev_" ++ String.ofList ((sha256.hex (encode (trajectoryId ++ "\x00" ++ sequence.repr))).take 40)

/-- The fields of an event, its id among them. -/
def eventRecord (event : TrajectoryEvent) : Json :=
  event.modelDump (sha256.eventIdFor event.trajectoryId event.sequence)

end HexDigest

/-! ## Lines -/

/-- What the libraries do with the lines; every other record is as in some formats. -/
structure Encoding where
  others : Formats
  sha256 : HexDigest
  loads : Bytes → Option Json
  validateEvent : Json → Option TrajectoryEvent
  loads_event : ∀ ensureAscii event, event.isUnicode = true →
    loads (Json.utf8 (Json.dumps ensureAscii (sha256.eventRecord event))) =
      some (sha256.eventRecord event)
  loads_header : ∀ header : ChunkHeader,
    loads (Json.utf8 (Json.dumps false header.record)) = some header.record
  validate_event : ∀ event, validateEvent (sha256.eventRecord event) = some event

namespace Encoding

variable (encoding : Encoding)

/-- The text of an event without its newline. -/
def line (ensureAscii : Bool) (event : TrajectoryEvent) : Bytes :=
  Json.utf8 (Json.dumps ensureAscii (encoding.sha256.eventRecord event))

def parseEvent (line : Bytes) : Option TrajectoryEvent :=
  (encoding.loads line).bind encoding.validateEvent

def parseHeader (line : Bytes) : Option ChunkHeader := (encoding.loads line).bind readHeader

theorem parseEvent_line (ensureAscii : Bool) (event : TrajectoryEvent)
    (unicode : event.isUnicode = true) :
    encoding.parseEvent (encoding.line ensureAscii event) = some event := by
  rw [parseEvent, line, encoding.loads_event ensureAscii event unicode]
  exact encoding.validate_event event

/-- The line of an event in a chunk, as bytes if UTF-8 has them. -/
def chunkLine (event : TrajectoryEvent) : Except Raised Bytes :=
  if event.isUnicode then .ok (encoding.line false event) else .error .unencodable

theorem chunkLine_eq_ok_iff {event : TrajectoryEvent} {line : Bytes} :
    encoding.chunkLine event = .ok line ↔
      event.isUnicode = true ∧ encoding.line false event = line := by
  unfold chunkLine
  split_ifs with unicode
  · exact ⟨fun same => ⟨unicode, Except.ok.inj same⟩, fun same => congrArg Except.ok same.2⟩
  · exact ⟨nofun, fun same => absurd same.1 unicode⟩

/-- The formats whose lines these are. -/
def formats : Formats where
  fingerprints := encoding.others.fingerprints
  digestOf := encoding.sha256.digestOf
  eventLine := encoding.line true
  chunkLine := encoding.chunkLine
  parseEvent := encoding.parseEvent
  headerLine header := Json.utf8 (Json.dumps false header.record)
  parseHeader := encoding.parseHeader
  openRecordBytes := encoding.others.openRecordBytes
  parseOpenRecord := encoding.others.parseOpenRecord
  progressBytes := encoding.others.progressBytes
  parseProgress := encoding.others.parseProgress
  manifestBytes := encoding.others.manifestBytes
  validateManifest := encoding.others.validateManifest
  parseResult := encoding.others.parseResult
  incidentBytes := encoding.others.incidentBytes
  decode := encoding.others.decode
  eventStrings := encoding.others.eventStrings
  openRecordStrings := encoding.others.openRecordStrings
  jsonStrings := encoding.others.jsonStrings
  parseExpiry := encoding.others.parseExpiry
  moment := encoding.others.moment
  chunkLine_ok event unicode := ⟨_, encoding.chunkLine_eq_ok_iff.mpr ⟨unicode, rfl⟩⟩
  chunkLine_raises event broken := if_neg (by rw [broken]; exact Bool.false_ne_true)
  parse_eventLine := encoding.parseEvent_line true
  parse_chunkLine event line isLine := by
    obtain ⟨unicode, rfl⟩ := encoding.chunkLine_eq_ok_iff.mp isLine
    exact encoding.parseEvent_line false event unicode
  newline_notMem_eventLine event := Json.newline_notMem_dumps _
  newline_notMem_chunkLine event line isLine := by
    obtain ⟨_, rfl⟩ := encoding.chunkLine_eq_ok_iff.mp isLine
    exact Json.newline_notMem_dumps _
  parse_headerLine header := by
    rw [parseHeader, encoding.loads_header]
    exact readHeader_record header
  newline_notMem_headerLine header := Json.newline_notMem_dumps _
  parse_openRecordBytes := encoding.others.parse_openRecordBytes
  parse_progressBytes := encoding.others.parse_progressBytes
  validate_manifestBytes := encoding.others.validate_manifestBytes

theorem formats_chunkLine_ok_iff {event : TrajectoryEvent} {line : Bytes} :
    encoding.formats.chunkLine event = .ok line ↔
      event.isUnicode = true ∧ encoding.line false event = line :=
  encoding.chunkLine_eq_ok_iff

end Encoding

/-! ## A line tells its event -/

section Inj

variable {α : Type} {dump : α → Json}

theorem optional_inj (each : ∀ value other, dump value = dump other ↔ value = other)
    (present : ∀ value, dump value ≠ .null) (first second : Option α) :
    optional dump first = optional dump second ↔ first = second := by
  cases first with
  | none =>
      cases second with
      | none => exact iff_of_true rfl rfl
      | some value => exact iff_of_false (present value).symm (by simp)
  | some value =>
      cases second with
      | none => exact iff_of_false (present value) (by simp)
      | some other => exact (each value other).trans Option.some_inj.symm

@[simp]
theorem text_inj (first second : String) : text first = text second ↔ first = second := by
  rw [text, text, Json.str.injEq, Json.points_injective.eq_iff]

@[simp]
theorem optional_text_inj (first second : Option String) :
    optional text first = optional text second ↔ first = second :=
  optional_inj text_inj (fun _ => by simp [text]) first second

@[simp]
theorem optional_str_inj (first second : Option Core.Text) :
    optional .str first = optional .str second ↔ first = second :=
  optional_inj (fun _ _ => by rw [Json.str.injEq]) (fun _ => by simp) first second

@[simp]
theorem count_inj (first second : Nat) : count first = count second ↔ first = second := by
  rw [count, count, Json.int.injEq, Int.natCast_inj]

@[simp]
theorem optional_count_inj (first second : Option Nat) :
    optional count first = optional count second ↔ first = second :=
  optional_inj count_inj (fun _ => by simp [count]) first second

@[simp]
theorem texts_inj (first second : List Core.Text) :
    texts first = texts second ↔ first = second := by
  rw [texts, texts, Json.array.injEq]
  exact (List.map_injective_iff.mpr fun _ _ => Json.str.inj).eq_iff

@[simp]
theorem writer_modelDump_inj (first second : WriterIdentity) :
    first.modelDump = second.modelDump ↔ first = second := by
  cases first
  cases second
  simp [WriterIdentity.modelDump]

@[simp]
theorem disposition_inj (first second : Tier) :
    first.disposition = second.disposition ↔ first = second := by
  cases first <;> cases second <;> decide

@[simp]
theorem slot_modelDump_inj (first second : ContentSlot) :
    first.modelDump = second.modelDump ↔ first = second := by
  cases first <;> cases second <;> simp [ContentSlot.modelDump] <;> tauto

@[simp]
theorem optional_slot_inj (first second : Option ContentSlot) :
    optional ContentSlot.modelDump first = optional ContentSlot.modelDump second ↔
      first = second :=
  optional_inj slot_modelDump_inj (fun slot => by cases slot <;> simp [ContentSlot.modelDump])
    first second

@[simp]
theorem attribution_modelDump_inj (first second : TrajectoryAttribution) :
    first.modelDump = second.modelDump ↔ first = second := by
  obtain ⟨_, _, _, ⟨_, _, _⟩, _, _, _, _, _, _, _, _⟩ := first
  obtain ⟨_, _, _, ⟨_, _, _⟩, _, _, _, _, _, _, _, _⟩ := second
  simp [TrajectoryAttribution.modelDump, TrajectoryTask.modelDump]
  tauto

@[simp]
theorem contextRule_text_inj (first second : ContextRule) :
    first.text = second.text ↔ first = second := by
  cases first <;> cases second <;> decide

@[simp]
theorem callOutcome_text_inj (first second : CallOutcome) :
    first.text = second.text ↔ first = second := by
  cases first <;> cases second <;> decide

@[simp]
theorem toolOutcome_text_inj (first second : ToolOutcome) :
    first.text = second.text ↔ first = second := by
  cases first <;> cases second <;> decide

theorem toolReason_text_inj (first second : ToolReason) :
    first.text = second.text ↔ first = second := by
  cases first <;> cases second <;> decide

@[simp]
theorem optional_reason_inj (first second : Option ToolReason) :
    optional (fun reason : ToolReason => text reason.text) first =
      optional (fun reason : ToolReason => text reason.text) second ↔ first = second :=
  optional_inj (fun _ _ => (text_inj _ _).trans (toolReason_text_inj _ _))
    (fun _ => by simp [text]) first second

@[simp]
theorem dropRule_text_inj (first second : DropRule) :
    first.text = second.text ↔ first = second := by
  cases first <;> cases second <;> decide

@[simp]
theorem errorCode_text_inj (first second : ErrorCode) :
    first.text = second.text ↔ first = second := by
  cases first <;> cases second <;> decide

@[simp]
theorem termination_text_inj (first second : TerminationReason) :
    first.text = second.text ↔ first = second := by
  cases first <;> cases second <;> decide

theorem kind_text_inj (first second : EventKind) : first.text = second.text ↔ first = second := by
  cases first <;> cases second <;> decide

end Inj

/-- The value of a field of an object. -/
def field (key : String) : Json → Option Json
  | .object fields => fields.lookup key
  | _ => none

theorem field_kind (event : TrajectoryEvent) (eventId : String) :
    field "kind" (event.modelDump eventId) = some (text event.kind.text) := by
  obtain ⟨_, _, _, _, body, _, _, _⟩ := event
  cases body <;> rfl

theorem modelDump_inj {first second : TrajectoryEvent} {firstId secondId : String}
    (same : first.modelDump firstId = second.modelDump secondId) : first = second := by
  have kinds : some (text first.kind.text) = some (text second.kind.text) := by
    rw [← field_kind first firstId, same, field_kind]
  have kinds := (kind_text_inj _ _).mp ((text_inj _ _).mp (Option.some.inj kinds))
  obtain ⟨_, _, _, _, body, _, _, _⟩ := first
  obtain ⟨_, _, _, _, other, _, _, _⟩ := second
  replace kinds : body.kind = other.kind := kinds
  cases body <;> cases other <;>
    simp only [EventBody.kind, reduceCtorEq] at kinds <;>
    simp [TrajectoryEvent.modelDump] at same ⊢ <;> tauto

theorem eventRecord_injective (sha256 : HexDigest) : Function.Injective sha256.eventRecord :=
  fun _ _ same => modelDump_inj same

/-! ## No surrogate in the fields -/

section Unicode

theorem spelled_of_isUnicode {value : Core.Text} (unicode : isUnicode value = true) :
    Json.Spelled value := by
  intro point member
  have fine := List.all_eq_true.mp unicode point member
  have inside := point.isLt
  simp only [Bool.or_eq_true, decide_eq_true_eq] at fine
  have valid : point.val.isValidChar := by
    unfold Nat.isValidChar
    omega
  rw [Json.letterAt, dif_pos valid]
  rfl

@[simp]
theorem text_unicode (value : String) : (text value).Unicode := .str (Json.spelled_points value)

@[simp]
theorem count_unicode (value : Nat) : (count value).Unicode := .int _

@[simp]
theorem bool_unicode (value : Bool) : (Json.bool value).Unicode := .bool value

theorem optional_unicode {α : Type} {dump : α → Json} {value : Option α}
    (each : ∀ present ∈ value, (dump present).Unicode) : (optional dump value).Unicode := by
  cases value with
  | none => exact .null
  | some present => exact each present rfl

@[simp]
theorem optional_text_unicode (value : Option String) : (optional text value).Unicode :=
  optional_unicode fun present _ => text_unicode present

@[simp]
theorem optional_count_unicode (value : Option Nat) : (optional count value).Unicode :=
  optional_unicode fun present _ => count_unicode present

theorem optional_str_unicode {value : Option Core.Text}
    (unicode : ∀ present ∈ value, isUnicode present = true) : (optional .str value).Unicode :=
  optional_unicode fun present isPresent => .str (spelled_of_isUnicode (unicode present isPresent))

theorem texts_unicode {values : List Core.Text}
    (unicode : ∀ value ∈ values, isUnicode value = true) : (texts values).Unicode := by
  refine .array fun item member => ?_
  obtain ⟨value, isValue, rfl⟩ := List.mem_map.mp member
  exact .str (spelled_of_isUnicode (unicode value isValue))

@[simp]
theorem writer_unicode (identity : WriterIdentity) : identity.modelDump.Unicode :=
  .object (by simp)

@[simp]
theorem slot_unicode (slot : ContentSlot) : slot.modelDump.Unicode := by
  cases slot <;> exact .object (by simp)

@[simp]
theorem optional_slot_unicode (slot : Option ContentSlot) :
    (optional ContentSlot.modelDump slot).Unicode :=
  optional_unicode fun present _ => slot_unicode present

theorem attribution_unicode {attribution : TrajectoryAttribution}
    (unicode : ∀ value ∈ attribution.texts, isUnicode value = true) :
    attribution.modelDump.Unicode := by
  have free : ∀ value : Option Core.Text, (∀ present ∈ value.toList, present ∈ attribution.texts) →
      (optional .str value).Unicode :=
    fun value within => optional_str_unicode fun present isPresent =>
      unicode present (within present (Option.mem_toList.mpr isPresent))
  simp only [TrajectoryAttribution.texts, List.mem_append] at free
  have revision := free attribution.task.revision (by tauto)
  have experiment := free attribution.experimentId (by tauto)
  have node := free attribution.nodeId (by tauto)
  have run := free attribution.runId (by tauto)
  have attempt := free attribution.attemptId (by tauto)
  have task : attribution.task.modelDump.Unicode := .object (by simp [revision])
  exact .object (by simp [experiment, node, run, attempt, task, Json.Unicode.int])

theorem modelDump_unicode {event : TrajectoryEvent} (unicode : event.isUnicode = true)
    (eventId : String) : (event.modelDump eventId).Unicode := by
  obtain ⟨_, _, _, emittedAt, body, _, _, _⟩ := event
  have all : ∀ value ∈ emittedAt.toList ++ body.texts, isUnicode value = true :=
    List.all_eq_true.mp unicode
  obtain ⟨emitted, free⟩ := List.forall_mem_append.mp all
  have moment : (optional .str emittedAt).Unicode :=
    optional_str_unicode fun present isPresent =>
      emitted present (Option.mem_toList.mpr isPresent)
  cases body with
  | runStarted attribution runner writer effectiveTools configurationDigest =>
      obtain ⟨inside, tools⟩ := List.forall_mem_append.mp free
      exact .object (by simp [moment, attribution_unicode inside, texts_unicode tools])
  | modelCallFinished outcome reply errorClass promptTokens outputTokens toolCallsRequested
      outputTruncated latencyMs =>
      have requested : (texts toolCallsRequested).Unicode := texts_unicode free
      exact .object (by simp [moment, requested])
  | toolCallStarted callId tool version arguments =>
      have given : (optional .str version).Unicode :=
        optional_str_unicode fun present isPresent =>
          free present (Option.mem_toList.mpr isPresent)
      exact .object (by simp [moment, given])
  | toolCallFinished outcome reason output shown truncated errorClass =>
      have told : (optional (fun reason : ToolReason => text reason.text) reason).Unicode :=
        optional_unicode fun present _ => text_unicode _
      exact .object (by simp [moment, told])
  | modelCallStarted | contextChanged | runTerminated =>
      exact .object (by simp [moment])
  | errorObserved code role => exact .object (by simp [moment])

theorem header_unicode (header : ChunkHeader) : header.record.Unicode := .object (by simp)

end Unicode

/-! ## There is an encoding for every digest -/

open Classical in
/-- The value that was encoded into a text. -/
noncomputable def decoded (text : Bytes) : Option Json :=
  if found : ∃ value ensureAscii, value.Unicode ∧
      Json.utf8 (Json.dumps ensureAscii value) = text then
    some found.choose
  else none

theorem decoded_dumps (ensureAscii : Bool) {value : Json} (unicode : value.Unicode) :
    decoded (Json.utf8 (Json.dumps ensureAscii value)) = some value := by
  have found : ∃ other mode, other.Unicode ∧ Json.utf8 (Json.dumps mode other) =
      Json.utf8 (Json.dumps ensureAscii value) := ⟨value, ensureAscii, unicode, rfl⟩
  obtain ⟨mode, fine, same⟩ := found.choose_spec
  rw [decoded, dif_pos found, Json.dumps_inj fine unicode same]

noncomputable def Encoding.ofDigest (others : Formats) (sha256 : HexDigest) : Encoding where
  others := others
  sha256 := sha256
  loads := decoded
  validateEvent := Function.partialInv sha256.eventRecord
  loads_event ensureAscii _ unicode := decoded_dumps ensureAscii (modelDump_unicode unicode _)
  loads_header header := decoded_dumps false (header_unicode header)
  validate_event := Function.partialInv_left (eventRecord_injective sha256)

/-! ## How many bytes a line takes -/

/-- How many digits a number is written with. -/
def digits (value : Nat) : Nat := (Nat.toDigits 10 value).length

theorem digits_le {value width : Nat} (some_of : 0 < width) (small : value < 10 ^ width) :
    digits value ≤ width :=
  (Nat.length_toDigits_le_iff (by decide) some_of).mpr small

namespace HexDigest

variable (sha256 : HexDigest)

theorem toList_digestOf (data : Bytes) :
    (sha256.digestOf data).toList = "sha256:".toList ++ sha256.hex data := by
  have hex : (String.ofList (sha256.hex data)).toList = sha256.hex data := String.toList_ofList
  rw [digestOf, String.toList_append, hex]

theorem digestOf_plain (data : Bytes) :
    ∀ letter ∈ (sha256.digestOf data).toList, Json.Plain letter := by
  intro letter member
  rw [toList_digestOf] at member
  rcases List.mem_append.mp member with scheme | hex
  · have all : ∀ letter ∈ "sha256:".toList, Json.Plain letter := Json.every (by decide)
    exact all letter scheme
  · have all : ∀ letter ∈ "0123456789abcdef".toList, Json.Plain letter := Json.every (by decide)
    exact all letter (sha256.letters data letter hex)

theorem digestOf_length (data : Bytes) : (sha256.digestOf data).length = 71 := by
  have scheme : "sha256:".toList.length = 7 := rfl
  rw [← String.length_toList, toList_digestOf, List.length_append, sha256.length, scheme]

end HexDigest

namespace Encoding

variable (encoding : Encoding)

/-- The events take no more bytes in a chunk than in the tail. -/
theorem written_le {events : List TrajectoryEvent} {lines : List Bytes}
    (each : List.Forall₂ (fun event line => encoding.formats.chunkLine event = .ok line) events
      lines) : (lines.flatMap closed).length ≤ (tailBytes encoding.formats events).length := by
  induction each with
  | nil => exact Nat.le_refl 0
  | @cons event line events lines first _ ih =>
      obtain ⟨_, rfl⟩ := encoding.formats_chunkLine_ok_iff.mp first
      have shorter : (encoding.line false event).length ≤ (encoding.line true event).length :=
        Json.dumps_noLonger _
      have isLine : encoding.formats.eventLine event = encoding.line true event := rfl
      rw [tailBytes] at ih ⊢
      simp only [List.flatMap_cons, List.length_append, closed, List.length_singleton, isLine]
        at ih ⊢
      omega

/-- What a header takes. -/
theorem header_length (index : Nat) (previous : Option Digest) (trajectoryId : AttemptId) :
    (closed (encoding.formats.headerLine ⟨index, previous, trajectoryId⟩)).length =
      40 + digits index + (Json.utf8 (Json.dumps false (optional text previous))).length +
        (Json.utf8 (Json.quote false (Json.points trajectoryId))).length := by
  have chunk : ∀ value, (Json.utf8 (Json.dumpField false ("chunk", value))).length =
      8 + (Json.utf8 (Json.dumps false value)).length := Json.field_length (by decide)
  have before : ∀ value, (Json.utf8 (Json.dumpField false ("previous", value))).length =
      11 + (Json.utf8 (Json.dumps false value)).length := Json.field_length (by decide)
  have trajectory : ∀ value, (Json.utf8 (Json.dumpField false ("trajectory_id", value))).length =
      16 + (Json.utf8 (Json.dumps false value)).length := Json.field_length (by decide)
  change (closed (Json.utf8 (Json.dumps false (ChunkHeader.record ⟨_, _, _⟩)))).length = _
  rw [closed, List.length_append, ChunkHeader.record, Json.object_length (by simp)]
  simp only [List.flatMap_cons, List.flatMap_nil, List.append_nil, Json.utf8_append,
    List.length_append, List.length_cons, List.length_nil, chunk, before, trajectory]
  rw [count, Json.dumps_nat, text, Json.dumps, ← digits]
  omega

theorem digest_length {digest : Digest} (plain : ∀ letter ∈ digest.toList, Json.Plain letter)
    (length : digest.length = 71) :
    (Json.utf8 (Json.dumps false (optional text (some digest)))).length = 73 := by
  rw [optional, text, Json.dumps, Json.quote_plain plain, length]

/-- What a header behind another chunk takes. -/
theorem headerSize_eq (trajectoryId : AttemptId) (index : Nat) :
    TrajectoryWriter.headerSize encoding.formats trajectoryId index =
      113 + digits index + (Json.utf8 (Json.quote false (Json.points trajectoryId))).length := by
  have zeros := digest_length
    (show ∀ letter ∈ ("sha256:" ++ String.ofList (List.replicate 64 '0')).toList, Json.Plain letter
      from Json.every (by decide)) (by decide)
  have header := encoding.header_length index
    (some ("sha256:" ++ String.ofList (List.replicate 64 '0'))) trajectoryId
  rw [zeros] at header
  rw [TrajectoryWriter.headerSize, chunkBytes, List.mapM_nil]
  exact (congrArg List.length (List.append_nil _)).trans (header.trans (by omega))

/-- A header takes what one behind another chunk takes, and no more where it is the first. -/
theorem header_le (index : Nat) {previous : Option Digest} (trajectoryId : AttemptId)
    (chained : ∀ digest ∈ previous, ∃ data, digest = encoding.sha256.digestOf data) :
    (closed (encoding.formats.headerLine ⟨index, previous, trajectoryId⟩)).length ≤
      TrajectoryWriter.headerSize encoding.formats trajectoryId index := by
  rw [header_length, headerSize_eq]
  cases previous with
  | none =>
      have null : (Json.utf8 (Json.dumps false (optional text none))).length = 4 := by
        rw [optional, Json.dumps]
        rfl
      rw [null]
      omega
  | some digest =>
      obtain ⟨data, rfl⟩ := chained digest rfl
      rw [digest_length (encoding.sha256.digestOf_plain data)
        (encoding.sha256.digestOf_length data)]
      omega

theorem header_eq (index : Nat) (data : Bytes) (trajectoryId : AttemptId) :
    (closed (encoding.formats.headerLine
        ⟨index, some (encoding.sha256.digestOf data), trajectoryId⟩)).length =
      TrajectoryWriter.headerSize encoding.formats trajectoryId index := by
  rw [header_length, headerSize_eq,
    digest_length (encoding.sha256.digestOf_plain data) (encoding.sha256.digestOf_length data)]
  omega

/-- A header takes the room the writer counts for it, and the digits its number has beyond six. -/
theorem headerSize_le (index : Nat) (trajectoryId : AttemptId) :
    TrajectoryWriter.headerSize encoding.formats trajectoryId index ≤
      TrajectoryWriter.headerRoom encoding.formats trajectoryId + (digits index - 6) := by
  have widest : digits 999999 = 6 := by decide
  rw [TrajectoryWriter.headerRoom, headerSize_eq, headerSize_eq, widest]
  omega

end Encoding

end Xaytune.Trajectory
