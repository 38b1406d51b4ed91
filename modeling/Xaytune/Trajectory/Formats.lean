import Mathlib.Data.Countable.Basic
import Mathlib.Logic.Equiv.List
import Mathlib.Tactic.DeriveCountable
import Xaytune.Library.Spelling
import Xaytune.Trajectory.Writer

/-!
# Formats with given texts

What the libraries do with the records is known on the texts of some of them. There are formats
that write these records so and every other record in some way of its own, and digests that are
as given for some bytes and differ wherever the bytes do.
-/

namespace Xaytune.Trajectory

open Xaytune.Library

deriving instance Countable for Tier, Readers, ReplayLevel, Abandonment, WriterIdentity,
  ContextRule, CallOutcome, ToolOutcome, ToolReason, DropRule, ErrorCode, TerminationReason,
  TierPolicy, TrajectoryRecordingSpec, ContentSlot, TrajectoryTask, TrajectoryAttribution,
  TrajectoryOpenRecord, EventBody, TrajectoryEvent, ChunkRef, TrajectoryProgress, ChunkHeader,
  ContentField, ContentReference, Completeness, TrajectoryManifestBody, ManifestBody,
  TrajectoryManifest

/-- A line holds no newline. -/
def Plain {α : Type} (spelling : Spelling α UInt8) : Prop :=
  newline ≠ spelling.mark ∧ ∀ entry ∈ spelling.known, newline ∉ entry.2

/-- The texts of some records. An event has one line, in the tail and in a chunk, unless no chunk
holds it. -/
structure Texts where
  fingerprints : Fingerprints
  digests : Spelling Bytes Char
  events : Spelling TrajectoryEvent UInt8
  headers : Spelling ChunkHeader UInt8
  openRecords : Spelling TrajectoryOpenRecord UInt8
  progress : Spelling TrajectoryProgress UInt8
  manifests : Spelling (TrajectoryManifest fingerprints) UInt8
  parseResult : Bytes → Option HarnessRunResult
  incidentBytes : AttemptId → Digest → Bytes
  decode : Bytes → Option String
  eventStrings : TrajectoryEvent → List String
  openRecordStrings : TrajectoryOpenRecord → List String
  jsonStrings : String → Option (List String)
  parseExpiry : Bytes → Option ExpiryRecord
  moment : String → Option Int
  plainEvents : Plain events
  plainHeaders : Plain headers

namespace Texts

theorem plain_spell {α : Type} [Countable α] [DecidableEq α] {spelling : Spelling α UInt8}
    (plain : Plain spelling) (value : α) : newline ∉ spelling.spell value :=
  spelling.not_mem_spell plain.1 plain.2

/-- The formats with these texts. -/
noncomputable def formats (texts : Texts) : Formats where
  fingerprints := texts.fingerprints
  digestOf data := String.ofList (texts.digests.spell data)
  eventLine := texts.events.spell
  chunkLine event := if event.isUnicode then .ok (texts.events.spell event)
    else .error .unencodable
  parseEvent := texts.events.read
  headerLine := texts.headers.spell
  parseHeader := texts.headers.read
  openRecordBytes := texts.openRecords.spell
  parseOpenRecord := texts.openRecords.read
  progressBytes := texts.progress.spell
  parseProgress := texts.progress.read
  manifestBytes := texts.manifests.spell
  validateManifest := texts.manifests.read
  parseResult := texts.parseResult
  incidentBytes := texts.incidentBytes
  decode := texts.decode
  eventStrings := texts.eventStrings
  openRecordStrings := texts.openRecordStrings
  jsonStrings := texts.jsonStrings
  parseExpiry := texts.parseExpiry
  moment := texts.moment
  chunkLine_ok event unicode := ⟨_, if_pos unicode⟩
  chunkLine_raises event broken := if_neg (by rw [broken]; exact Bool.false_ne_true)
  parse_eventLine event _ := texts.events.read_spell event
  parse_chunkLine event line := by
    split
    · rintro ⟨rfl⟩
      exact texts.events.read_spell event
    · exact nofun
  newline_notMem_eventLine event := plain_spell texts.plainEvents event
  newline_notMem_chunkLine event line := by
    split
    · rintro ⟨rfl⟩
      exact plain_spell texts.plainEvents event
    · exact nofun
  parse_headerLine := texts.headers.read_spell
  newline_notMem_headerLine header := plain_spell texts.plainHeaders header
  parse_openRecordBytes := texts.openRecords.read_spell
  parse_progressBytes := texts.progress.read_spell
  validate_manifestBytes := texts.manifests.read_spell

theorem digestOf_injective (texts : Texts) : Function.Injective texts.formats.digestOf :=
  fun _ _ same => texts.digests.spell_injective (String.ofList_injective same)

theorem eventLine_of_given {texts : Texts} {event : TrajectoryEvent} {line : Bytes}
    (isGiven : texts.events.given event = some line) : texts.formats.eventLine event = line :=
  texts.events.spell_of_given isGiven

theorem headerLine_of_given {texts : Texts} {header : ChunkHeader} {line : Bytes}
    (isGiven : texts.headers.given header = some line) : texts.formats.headerLine header = line :=
  texts.headers.spell_of_given isGiven

end Texts

/-! ## The texts of one attempt -/

namespace Sample

def digit (letter : Char) : Digest := "sha256:" ++ String.ofList (List.replicate 64 letter)

def recording : TrajectoryRecordingSpec where
  maxEvents := 1000
  maxBytes := 1048576
  replay := .recordedResponses
  redactionPolicyDigest := none
  ordinary := ⟨none, .experiment⟩
  restricted := ⟨none, .owner⟩
  writer := localWriter
  events_bounded := by decide
  bytes_bounded := by decide

def attribution : TrajectoryAttribution where
  requestDigest := digit '1'
  executionFingerprint := digit '2'
  harnessFingerprint := digit '3'
  task := ⟨"task-1", none, none⟩
  seed := 0
  replicate := 0
  assignmentCohort := none
  experimentId := none
  nodeId := none
  runId := none
  attemptId := none
  attemptOrdinal := none

def trajectoryId : AttemptId := "ainst_01JZ0000000000000000000001"

def moment : String := "2026-01-01T00:00:00+00:00"

def emitted : Core.Text := Core.spell moment.toList

def runner : WriterIdentity := ⟨"xaytune.scripted-harness-runner", "1"⟩

def opening : TrajectoryWriter.Opening where
  trajectoryId := trajectoryId
  attribution := attribution
  recording := recording
  runner := runner
  secrets := []
  secretSources := []
  redactor := none
  openedAt := moment

/-- How an open record begins. -/
def openRecordHead : String :=
  "\x7b\"schema_version\":\"xaytune.agent-trajectory-open/v1alpha1\",\"trajectory_id\":\"ainst_01JZ0000000000000000000001\",\"attribution\":\x7b\"request_digest\":\"sha256:1111111111111111111111111111111111111111111111111111111111111111\",\"execution_fingerprint\":\"sha256:2222222222222222222222222222222222222222222222222222222222222222\",\"harness_fingerprint\":\"sha256:3333333333333333333333333333333333333333333333333333333333333333\",\"task\":\x7b\"task_id\":\"task-1\",\"revision\":null,\"task_fingerprint\":null\x7d,\"seed\":0,\"replicate\":0,\"assignment_cohort\":null,\"experiment_id\":null,\"node_id\":null,\"run_id\":null,\"attempt_id\":null,\"attempt_ordinal\":null\x7d,\"writer\":\x7b\"name\":\"xaytune.local-trajectory-writer\",\"version\":\"1\"\x7d,\"runner\":\x7b\"name\":\"xaytune.scripted-harness-runner\",\"version\":\"1\"\x7d,\"recording\":\x7b\"schema_version\":\"xaytune.agent-trajectory-recording/v1alpha1\",\"max_events\":"

/-- The open record of a recording of at most so many events, kept as long as it says. -/
def openRecordOf (maxEvents retention : String) : String :=
  openRecordHead ++ (maxEvents ++
  ",\"max_bytes\":1048576,\"replay\":\"recorded-responses\",\"redaction_policy_digest\":null,\"ordinary\":\x7b\"retention_seconds\":" ++ retention ++
  ",\"readers\":\"experiment\"\x7d,\"restricted\":\x7b\"retention_seconds\":null,\"readers\":\"owner\"\x7d,\"writer\":\x7b\"name\":\"xaytune.local-trajectory-writer\",\"version\":\"1\"\x7d\x7d,\"secrets_registered\":0,\"secret_sources\":[],\"opened_at\":\"2026-01-01T00:00:00+00:00\"\x7d")

def openRecordText : String := openRecordOf "1000" "null"

/-- The run begins. -/
def startedBody : EventBody := .runStarted attribution runner localWriter [] (digit '4')

def started : TrajectoryEvent where
  trajectoryId := trajectoryId
  sequence := 0
  parent := none
  emittedAt := some emitted
  body := startedBody
  coherent := rfl
  earlier := by simp
  first := fun _ => ⟨rfl, rfl⟩

def startedText : String :=
  "\x7b\"attribution\":\x7b\"assignment_cohort\":null,\"attempt_id\":null,\"attempt_ordinal\":null,\"execution_fingerprint\":\"sha256:2222222222222222222222222222222222222222222222222222222222222222\",\"experiment_id\":null,\"harness_fingerprint\":\"sha256:3333333333333333333333333333333333333333333333333333333333333333\",\"node_id\":null,\"replicate\":0,\"request_digest\":\"sha256:1111111111111111111111111111111111111111111111111111111111111111\",\"run_id\":null,\"seed\":0,\"task\":\x7b\"revision\":null,\"task_fingerprint\":null,\"task_id\":\"task-1\"\x7d\x7d,\"configuration_digest\":\"sha256:4444444444444444444444444444444444444444444444444444444444444444\",\"effective_tools\":[],\"emitted_at\":\"2026-01-01T00:00:00+00:00\",\"event_id\":\"tev_07526c1317e1a1a2a617f5befed8ed7f4948503b\",\"kind\":\"run-started\",\"parent\":null,\"runner\":\x7b\"name\":\"xaytune.scripted-harness-runner\",\"version\":\"1\"\x7d,\"sequence\":0,\"trajectory_id\":\"ainst_01JZ0000000000000000000001\",\"writer\":\x7b\"name\":\"xaytune.local-trajectory-writer\",\"version\":\"1\"\x7d\x7d"

/-- An error before the run begins. -/
def earlyBody : EventBody := .errorObserved .recordingFailed none

def early : TrajectoryEvent where
  trajectoryId := trajectoryId
  sequence := 0
  parent := none
  emittedAt := some emitted
  body := earlyBody
  coherent := rfl
  earlier := by simp
  first := fun _ => ⟨rfl, rfl⟩

def earlyText : String :=
  "\x7b\"code\":\"recording-failed\",\"emitted_at\":\"2026-01-01T00:00:00+00:00\",\"event_id\":\"tev_07526c1317e1a1a2a617f5befed8ed7f4948503b\",\"kind\":\"error-observed\",\"parent\":null,\"role\":null,\"sequence\":0,\"trajectory_id\":\"ainst_01JZ0000000000000000000001\"\x7d"

/-- The model is asked behind the run's beginning. -/
def asks (request : ContentSlot) : TrajectoryEvent where
  trajectoryId := trajectoryId
  sequence := 1
  parent := some 0
  emittedAt := some emitted
  body := .modelCallStarted 0 request (digit '5') (digit '6') .fullHistory 0
  coherent := rfl
  earlier := by simp
  first := by simp [EventBody.kind]

def firstHeader : ChunkHeader := ⟨0, none, trajectoryId⟩

def firstHeaderText : String :=
  "\x7b\"chunk\":0,\"previous\":null,\"trajectory_id\":\"ainst_01JZ0000000000000000000001\"\x7d"

def widestHeader : ChunkHeader := ⟨999999, some (digit '0'), trajectoryId⟩

def widestHeaderText : String :=
  "\x7b\"chunk\":999999,\"previous\":\"sha256:0000000000000000000000000000000000000000000000000000000000000000\",\"trajectory_id\":\"ainst_01JZ0000000000000000000001\"\x7d"

/-- A text on one line. -/
def lineOf (text : String) : Bytes := (encode text).filter (· ≠ newline)

/-- The chunk with the run's beginning. -/
def firstChunk : Bytes := closed (lineOf firstHeaderText) ++ closed (lineOf startedText)

def firstRef : ChunkRef where
  index := 0
  firstSequence := 0
  lastSequence := 0
  digest := "sha256:a633e24b26ddd3bf486e9fb60a7015fb3c27fb7826cc88a3408081559d9246f5"
  previous := none
  bytes := 1037
  events := 1
  nonempty := by decide
  forward := by decide
  counted := by decide

/-- A first chunk with two events. -/
def firstOfTwo (digest : Digest) (bytes : Nat) (nonempty : 0 < bytes) : ChunkRef where
  index := 0
  firstSequence := 0
  lastSequence := 1
  digest := digest
  previous := none
  bytes := bytes
  events := 2
  nonempty := ⟨nonempty, by decide⟩
  forward := by decide
  counted := by decide

def rolled : TrajectoryProgress := ⟨trajectoryId, [firstRef]⟩

def rolledText : String :=
  "\x7b\"trajectory_id\":\"ainst_01JZ0000000000000000000001\",\"chunks\":[\x7b\"index\":0,\"first_sequence\":0,\"last_sequence\":0,\"digest\":\"sha256:a633e24b26ddd3bf486e9fb60a7015fb3c27fb7826cc88a3408081559d9246f5\",\"previous\":null,\"bytes\":1037,\"events\":1\x7d]\x7d"

def fingerprints : Fingerprints where
  recording := fun _ => "sha256:fd5c8b7ba1e69119829e4befa143adddeebd904227e918d3d73f9de82eab0297"
  trajectory := fun _ => "sha256:c8c04242c965f3c297fea14874efaee5cfd03f800ff40588ac1ac5a3cb832a7d"

/-- What reconciliation seals once only the beginning is recorded. -/
def lostBody : TrajectoryManifestBody where
  trajectoryId := trajectoryId
  attribution := attribution
  writer := localWriter
  runner := runner
  recording := recording
  chunks := [firstRef]
  content := []
  completeness := .partially
  abandonment := some .writerLost
  termination := none
  resultDigest := none
  unattestedResult := none
  tornTailBytes := 0
  sealedAt := "2026-01-01T00:00:01+00:00"

def lost : TrajectoryManifest fingerprints :=
  ManifestBody.seal fingerprints ⟨lostBody, by decide⟩

/-- How a partial manifest begins. -/
def manifestHead : String :=
  "\x7b\n \"abandonment\": \"writer-lost\",\n \"attribution\": \x7b\n  \"assignment_cohort\": null,\n  \"attempt_id\": null,\n  \"attempt_ordinal\": null,\n  \"execution_fingerprint\": \"sha256:2222222222222222222222222222222222222222222222222222222222222222\",\n  \"experiment_id\": null,\n  \"harness_fingerprint\": \"sha256:3333333333333333333333333333333333333333333333333333333333333333\",\n  \"node_id\": null,\n  \"replicate\": 0,\n  \"request_digest\": \"sha256:1111111111111111111111111111111111111111111111111111111111111111\",\n  \"run_id\": null,\n  \"seed\": 0,\n  \"task\": \x7b\n   \"revision\": null,\n   \"task_fingerprint\": null,\n   \"task_id\": \"task-1\"\n  \x7d\n \x7d,\n \"chunks\": [\n"

/-- The manifest of these chunks, this content, this recording and this torn tail. -/
def manifestOf (chunks content maxEvents retention torn fingerprint : String) : String :=
  manifestHead ++ (chunks ++
  "\n ],\n \"completeness\": \"partial\",\n \"content\": [" ++ content ++
  "],\n \"recording\": \x7b\n  \"max_bytes\": 1048576,\n  \"max_events\": " ++ maxEvents ++
  ",\n  \"ordinary\": \x7b\n   \"readers\": \"experiment\",\n   \"retention_seconds\": " ++
    retention ++
  "\n  \x7d,\n  \"redaction_policy_digest\": null,\n  \"replay\": \"recorded-responses\",\n  \"restricted\": \x7b\n   \"readers\": \"owner\",\n   \"retention_seconds\": null\n  \x7d,\n  \"schema_version\": \"xaytune.agent-trajectory-recording/v1alpha1\",\n  \"writer\": \x7b\n   \"name\": \"xaytune.local-trajectory-writer\",\n   \"version\": \"1\"\n  \x7d\n \x7d,\n \"result_digest\": null,\n \"runner\": \x7b\n  \"name\": \"xaytune.scripted-harness-runner\",\n  \"version\": \"1\"\n \x7d,\n \"schema_version\": \"xaytune.agent-trajectory/v1alpha1\",\n \"sealed_at\": \"2026-01-01T00:00:01+00:00\",\n \"termination\": null,\n \"torn_tail_bytes\": " ++ torn ++
  ",\n \"trajectory_fingerprint\": \"sha256:" ++ fingerprint ++
  "\",\n \"trajectory_id\": \"ainst_01JZ0000000000000000000001\",\n \"unattested_result\": null,\n \"writer\": \x7b\n  \"name\": \"xaytune.local-trajectory-writer\",\n  \"version\": \"1\"\n \x7d\n\x7d\n")

def lostText : String :=
  manifestOf
    "  \x7b\n   \"bytes\": 1037,\n   \"digest\": \"sha256:a633e24b26ddd3bf486e9fb60a7015fb3c27fb7826cc88a3408081559d9246f5\",\n   \"events\": 1,\n   \"first_sequence\": 0,\n   \"index\": 0,\n   \"last_sequence\": 0,\n   \"previous\": null\n  \x7d"
    "" "1000" "null" "0" "c8c04242c965f3c297fea14874efaee5cfd03f800ff40588ac1ac5a3cb832a7d"

/-! ## Their formats -/

theorem encode_ofList (letters : List Char) :
    encode (String.ofList letters) = letters.flatMap String.utf8EncodeChar := by
  rw [encode, String.toList_ofList]

theorem lineOf_ofList (letters more : List Char) :
    lineOf (String.ofList (letters ++ more)) =
      lineOf (String.ofList letters) ++ lineOf (String.ofList more) := by
  simp only [lineOf, encode_ofList, List.flatMap_append, List.filter_append]

/-- A text begins with some letters, and at most so many follow. -/
def Opens (text : String) (first : List Char) (bound : Nat) : Prop :=
  ∃ letters, text = String.ofList (first ++ letters) ∧ letters.length ≤ bound

section Opens

variable {text other : String} {first second : List Char} {bound limit : Nat}

theorem Opens.append (opens : Opens text first bound) (more : String) :
    Opens (text ++ more) first (bound + more.length) := by
  obtain ⟨letters, rfl, few⟩ := opens
  refine ⟨letters ++ more.toList, ?_, ?_⟩
  · simp only [String.ofList_append, String.ofList_toList, String.append_assoc]
  · rw [List.length_append, String.length_toList]
    exact Nat.add_le_add_right few _

/-- A text that opens an object is no row of marks. -/
theorem Opens.unmarked (opens : Opens text ('\x7b' :: first) bound) :
    ∃ letter ∈ encode text, letter ≠ (1 : UInt8) := by
  obtain ⟨letters, rfl, _⟩ := opens
  refine ⟨123, ?_, by decide⟩
  rw [encode_ofList, List.cons_append, List.flatMap_cons]
  exact List.mem_append_left _ (by decide)

theorem Opens.unmarked_lineOf (opens : Opens text ('\x7b' :: first) bound) :
    ∃ letter ∈ lineOf text, letter ≠ (1 : UInt8) := by
  obtain ⟨letters, rfl, _⟩ := opens
  refine ⟨123, List.mem_filter.mpr ⟨?_, by decide⟩, by decide⟩
  rw [encode_ofList, List.cons_append, List.flatMap_cons]
  exact List.mem_append_left _ (by decide)

/-- Texts that begin differently differ. -/
theorem Opens.lineOf_ne (opens : Opens text first bound) (others : Opens other second limit)
    (wide : (lineOf (String.ofList first)).length = (lineOf (String.ofList second)).length)
    (differ : lineOf (String.ofList first) ≠ lineOf (String.ofList second)) :
    lineOf text ≠ lineOf other := by
  obtain ⟨letters, rfl, _⟩ := opens
  obtain ⟨more, rfl, _⟩ := others
  rw [lineOf_ofList, lineOf_ofList]
  exact fun same => differ (List.append_inj_left same wide)

/-- A text takes at most four bytes a letter. -/
theorem length_encode_le (letters : List Char) :
    (encode (String.ofList letters)).length ≤ 4 * letters.length := by
  rw [encode_ofList]
  induction letters with
  | nil => exact Nat.le_refl _
  | cons letter letters ih =>
      have size := letter.utf8Size_le_four
      rw [List.flatMap_cons, List.length_append, String.length_utf8EncodeChar, List.length_cons]
      omega

theorem Opens.length_lineOf (opens : Opens text first bound) :
    (lineOf text).length ≤ 4 * (first.length + bound) := by
  obtain ⟨letters, rfl, few⟩ := opens
  have bytes := length_encode_le (first ++ letters)
  rw [List.length_append] at bytes
  exact (List.length_filter_le _ _).trans (by omega)

end Opens

theorem newline_notMem_lineOf (text : String) : newline ∉ lineOf text := by
  simp [lineOf]

set_option maxRecDepth 8000 in
theorem openRecordHead_opens : Opens openRecordHead ['\x7b'] 1000 := ⟨_, rfl, by decide⟩

theorem openRecordOf_unmarked (maxEvents retention : String) :
    ∃ letter ∈ encode (openRecordOf maxEvents retention), letter ≠ (1 : UInt8) :=
  (openRecordHead_opens.append _).unmarked

set_option maxRecDepth 8000 in
theorem startedText_opens : Opens startedText ['\x7b', '"', 'a'] 1000 := ⟨_, rfl, by decide⟩

set_option maxRecDepth 8000 in
theorem earlyText_opens : Opens earlyText ['\x7b', '"', 'c'] 300 := ⟨_, rfl, by decide⟩

set_option maxRecDepth 8000 in
theorem firstHeaderText_opens :
    Opens firstHeaderText ['\x7b', '"', 'c', 'h', 'u', 'n', 'k', '"', ':', '0'] 100 :=
  ⟨_, rfl, by decide⟩

set_option maxRecDepth 8000 in
theorem widestHeaderText_opens :
    Opens widestHeaderText ['\x7b', '"', 'c', 'h', 'u', 'n', 'k', '"', ':', '9'] 200 :=
  ⟨_, rfl, by decide⟩

set_option maxRecDepth 8000 in
theorem rolledText_opens : Opens rolledText ['\x7b'] 300 := ⟨_, rfl, by decide⟩

set_option maxRecDepth 8000 in
theorem manifestHead_opens : Opens manifestHead ['\x7b'] 1000 := ⟨_, rfl, by decide⟩

theorem manifestOf_unmarked (chunks content maxEvents retention torn fingerprint : String) :
    ∃ letter ∈ encode (manifestOf chunks content maxEvents retention torn fingerprint),
      letter ≠ (1 : UInt8) :=
  (manifestHead_opens.append _).unmarked

theorem firstDigest_begins : ['s', 'h', 'a', '2', '5', '6', ':'] <+: firstRef.digest.toList :=
  begins_of_eq_ofList ⟨_, rfl⟩

def digests : Spelling Bytes Char :=
  .one 'x' firstChunk firstRef.digest.toList
    (unmarked_of_begins 's' firstDigest_begins (by decide) (by decide))

theorem startedText_unmarked : ∃ letter ∈ lineOf startedText, letter ≠ (1 : UInt8) :=
  startedText_opens.unmarked_lineOf

/-- The formats in which the records of this attempt have these texts. -/
def texts : Texts where
  fingerprints := fingerprints
  digests := digests
  events :=
    .pair 1 started early (startedText_opens.lineOf_ne earlyText_opens (by decide) (by decide))
      startedText_unmarked earlyText_opens.unmarked_lineOf
  headers :=
    .pair 1 firstHeader widestHeader
      (firstHeaderText_opens.lineOf_ne widestHeaderText_opens (by decide) (by decide))
      firstHeaderText_opens.unmarked_lineOf widestHeaderText_opens.unmarked_lineOf
  openRecords :=
    Spelling.one 1 opening.openRecord (encode openRecordText) (openRecordOf_unmarked ..)
  progress :=
    Spelling.one 1 rolled (encode rolledText) rolledText_opens.unmarked
  manifests :=
    Spelling.one 1 lost (encode lostText) (manifestOf_unmarked ..)
  parseResult := fun _ => none
  incidentBytes := fun _ _ => []
  decode := fun _ => none
  eventStrings := fun event => if event = early then
      ["trajectory_id", "ainst_01JZ0000000000000000000001", "sequence", "event_id",
       "tev_07526c1317e1a1a2a617f5befed8ed7f4948503b", "parent", "emitted_at",
       "2026-01-01T00:00:00+00:00", "kind", "error-observed", "code", "recording-failed", "role"]
    else
      ["trajectory_id", "ainst_01JZ0000000000000000000001", "sequence", "event_id",
       "tev_07526c1317e1a1a2a617f5befed8ed7f4948503b", "parent", "emitted_at",
       "2026-01-01T00:00:00+00:00", "kind", "run-started", "attribution", "request_digest",
       "sha256:1111111111111111111111111111111111111111111111111111111111111111",
       "execution_fingerprint",
       "sha256:2222222222222222222222222222222222222222222222222222222222222222",
       "harness_fingerprint",
       "sha256:3333333333333333333333333333333333333333333333333333333333333333", "task",
       "task_id", "task-1", "revision", "task_fingerprint", "seed", "replicate",
       "assignment_cohort", "experiment_id", "node_id", "run_id", "attempt_id",
       "attempt_ordinal", "runner", "name", "xaytune.scripted-harness-runner", "version", "1",
       "writer", "name", "xaytune.local-trajectory-writer", "version", "1", "effective_tools",
       "configuration_digest",
       "sha256:4444444444444444444444444444444444444444444444444444444444444444"]
  openRecordStrings := fun _ =>
    ["schema_version", "xaytune.agent-trajectory-open/v1alpha1", "trajectory_id",
     "ainst_01JZ0000000000000000000001", "attribution", "request_digest",
     "sha256:1111111111111111111111111111111111111111111111111111111111111111",
     "execution_fingerprint",
     "sha256:2222222222222222222222222222222222222222222222222222222222222222",
     "harness_fingerprint",
     "sha256:3333333333333333333333333333333333333333333333333333333333333333", "task",
     "task_id", "task-1", "revision", "task_fingerprint", "seed", "replicate",
     "assignment_cohort", "experiment_id", "node_id", "run_id", "attempt_id", "attempt_ordinal",
     "writer", "name", "xaytune.local-trajectory-writer", "version", "1", "runner", "name",
     "xaytune.scripted-harness-runner", "version", "1", "recording", "schema_version",
     "xaytune.agent-trajectory-recording/v1alpha1", "max_events", "max_bytes", "replay",
     "recorded-responses", "redaction_policy_digest", "ordinary", "retention_seconds", "readers",
     "experiment", "restricted", "retention_seconds", "readers", "owner", "writer", "name",
     "xaytune.local-trajectory-writer", "version", "1", "secrets_registered", "secret_sources",
     "opened_at", "2026-01-01T00:00:00+00:00"]
  jsonStrings := fun _ => none
  parseExpiry := fun _ => none
  moment := fun _ => none
  plainEvents := by
    refine ⟨by decide, ?_⟩
    simp only [Spelling.pair, List.mem_cons, List.not_mem_nil, or_false, forall_eq_or_imp,
      forall_eq]
    exact ⟨newline_notMem_lineOf _, newline_notMem_lineOf _⟩
  plainHeaders := by
    refine ⟨by decide, ?_⟩
    simp only [Spelling.pair, List.mem_cons, List.not_mem_nil, or_false, forall_eq_or_imp,
      forall_eq]
    exact ⟨newline_notMem_lineOf _, newline_notMem_lineOf _⟩

theorem headerLine_widest : texts.formats.headerLine widestHeader = lineOf widestHeaderText := by
  refine Texts.headerLine_of_given ?_
  have differ : firstHeader ≠ widestHeader := fun same => nomatch congrArg ChunkHeader.chunk same
  simp [Spelling.given, Spelling.pair, texts, differ]

theorem eventLine_early : texts.formats.eventLine early = lineOf earlyText := by
  refine Texts.eventLine_of_given ?_
  have differ : started ≠ early := fun same => nomatch congrArg TrajectoryEvent.kind same
  simp [Spelling.given, Spelling.pair, texts, differ]

end Sample

end Xaytune.Trajectory
