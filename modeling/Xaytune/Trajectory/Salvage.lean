import Xaytune.Trajectory.Rolling

/-!
# What the last reconciler seals

A writer crashes, reconcilers crash behind it, and one does not: it seals the events that the
writer had rolled, and behind them every recorded event as long as all of them are one causal
history. One such run rolls a chunk, tears a line and loses a reconciler.
-/

namespace Xaytune.Trajectory

open Xaytune.Library Action TrajectoryWriter

variable {formats : Formats}

/-! ## Crashes that happen -/

section Crashes

variable {writer : TrajectoryWriter formats} {state : Directory}

/-- A crash inside the append leaves a part of an event's line on the tail. -/
theorem record_mayTear {body : EventBody} {parent : Option Nat} {now : Core.Text}
    {event : TrajectoryEvent} {part : Bytes}
    (records : (RollingCall.record body parent now).Records writer event)
    (notFull : writer.full (closed (formats.eventLine event)) = false)
    (within : part <+: closed (formats.eventLine event)) :
    (TrajectoryWriter.record body parent now).MayLeave Directory.machine
      (fun left => left = state.put .tail ((state.files .tail).getD [] ++ part)) writer state := by
  obtain ⟨made, isOpen, scanned, scannedLine, fits⟩ := records
  refine mayLeave_bind (requireOpen_keeps (fun _ => ⟨(), rfl, ?_⟩) fun shut _ => absurd isOpen shut)
  refine mayLeave_bind (keeps_get.mpr ⟨writer, rfl, ?_⟩)
  refine mayLeave_bind (keeps_ofExcept.mpr ⟨event, made, ?_⟩)
  refine mayLeave_bind (keeps_ofExcept.mpr ⟨(), scanned, ?_⟩)
  refine mayLeave_bind (keeps_ofExcept.mpr ⟨(), scannedLine, ?_⟩)
  dsimp only
  rw [if_neg (Nat.not_lt.mpr fits), notFull]
  exact MayLeave.bind (MayLeave.tryCatch (mayLeave_torn (.append .tail _ part within) rfl))

/-- An event that is recorded is appended, behind a roll if the tail is full. -/
theorem Recorded.records {opening : Opening} {published : Option Bytes}
    {events : List TrajectoryEvent} {body : EventBody} {parent : Option Nat} {now : Core.Text}
    {event : TrajectoryEvent} (collisionFree : Function.Injective formats.digestOf)
    (recorded : Recorded formats opening published events writer state)
    (budgeted : Budgeted formats writer state)
    (records : (RollingCall.record body parent now).Records writer event)
    (unicode : (WriterCall.record body parent now).isUnicode = true) :
    ∃ after later, Recorded formats opening published (events ++ [event]) after later ∧
      Budgeted formats after later ∧
      if writer.full (closed (formats.eventLine event)) then
        ∃ ref, RollsInto writer (some ref) ∧ after = (writer.rolledInto (some ref)).appended event
      else after = writer.appended event := by
  obtain ⟨⟨rolled, tracks⟩, isEvents⟩ := recorded.tracks collisionFree
  have only : ∀ other, (RollingCall.record body parent now).Records writer other →
      other = event := fun other others => Except.ok.inj (others.1.symm.trans records.1)
  let ends : Except Raised TrajectoryEvent → TrajectoryWriter formats → Directory → Prop :=
    fun outcome after later => outcome = .ok event ∧ Budgeted formats after later ∧
      if writer.full (closed (formats.eventLine event)) then
        ∃ ref, RollsInto writer (some ref) ∧ after = (writer.rolledInto (some ref)).appended event
      else after = writer.appended event
  have appends : (TrajectoryWriter.record body parent now).Keeps Directory.machine
      (fun _ => True) ends writer state := by
    refine record_rolls budgeted body parent now (fun _ refused => absurd records (refused event))
      (fun broken => ?_) (fun other later others notFull after => ?_)
      fun other ref later others isFull into after => ?_
    · obtain ⟨other, member, isFalse⟩ := broken
      rw [tracks.tail] at member
      rw [tracks.onDisk.unicode other (List.mem_of_mem_drop member)] at isFalse
      cases isFalse
    · obtain rfl := only other others
      refine ⟨rfl, after, ?_⟩
      rw [if_neg (Bool.eq_false_iff.mp notFull)]
    · obtain rfl := only other others
      refine ⟨rfl, after, ?_⟩
      rw [if_pos isFull]
      cases ref with
      | none =>
          rw [TrajectoryWriter.full, decide_eq_true_iff] at isFull
          exact absurd into isFull.1
      | some ref => exact ⟨ref, into, rfl⟩
  have keeps : ((WriterCall.record body parent now).run : Method formats _).Keeps Directory.machine
      (fun _ => True) (fun outcome after later => outcome = .ok [event] ∧
        ends (.ok event) after later) writer state := by
    refine Keeps.bind appends ?_ ?_
    · rintro other after later ⟨isOk, holds⟩
      cases isOk
      exact ⟨rfl, rfl, holds⟩
    · rintro _ _ _ ⟨isOk, _⟩
      cases isOk
  obtain ⟨isOk, _, holds⟩ := Program.Keeps.exec keeps
  refine ⟨_, _, ?_, holds⟩
  have called := Recorded.called (.record body parent now) recorded unicode rfl
  rwa [isOk] at called

end Crashes

section Reconcilers

variable {record : TrajectoryOpenRecord} {events left : List TrajectoryEvent}
  {state : Directory} {rolled kept : Nat} {torn : Bytes} (now : String)

/-- The attempt's directory with the events that are left in chunks, and its tail as before. -/
def RolledUp (formats : Formats) (record : TrajectoryOpenRecord)
    (events : List TrajectoryEvent) (rolled kept : Nat) (torn : Bytes) (state : Directory) :
    Prop :=
  state.files .openRecord = some (formats.openRecordBytes record) ∧
    state.files .manifest = none ∧ state.location ≠ some .thisResult ∧
    ∃ refs, OnDisk formats record.trajectoryId events state.files refs rolled kept torn

theorem RolledUp.rolled_eq (rolledUp : RolledUp formats record events rolled kept torn state) :
    state.rolled formats = rolled := by
  obtain ⟨_, _, _, refs, onDisk⟩ := rolledUp
  exact onDisk.rolled_eq

/-- A reconciler may crash behind its roll, with all that is left in chunks. -/
theorem beforeCommit_mayRoll {σ : Type} {memory : σ}
    (collisionFree : Function.Injective formats.digestOf)
    (rolledUp : RolledUp formats record events rolled kept torn state)
    (retains : Retains record.trajectoryId (events.take rolled) events left) :
    (beforeCommit formats record.trajectoryId record now).MayLeave Directory.machine
      (RolledUp formats record events left.length kept torn) memory state := by
  obtain ⟨opened, unsealed, uncommitted, refs, onDisk⟩ := rolledUp
  refine mayLeave_bind (readProgress_keeps onDisk.progress trivial ⟨_, rfl, ?_⟩)
  refine mayLeave_bind (loadRolled_keeps onDisk.chain (onDisk.numbered.take rolled) trivial
    ⟨_, rfl, ?_⟩)
  refine mayLeave_bind (keeps_read.mpr ⟨trivial, _, rfl, ?_⟩)
  dsimp only
  rw [onDisk.tail, parseTail_tailBytes onDisk.numbered onDisk.unicode onDisk.overlap onDisk.within
    onDisk.tornPlain]
  dsimp only
  have width : (events.take rolled).length = rolled := List.length_take_of_le onDisk.within
  have isLeft := onDisk.continued_eq retains
  generalize continued record.trajectoryId (events.take rolled) (events.drop rolled) false =
    continuation at isLeft
  obtain ⟨sealed, broke⟩ := continuation
  dsimp only at isLeft ⊢
  subst isLeft
  have atLeast : rolled ≤ sealed.length := width ▸ retains.longer.length_le
  have behindRolled : sealed.drop rolled = (events.take sealed.length).drop rolled := by
    rw [(List.prefix_iff_eq_take.mp retains.begins).symm]
  rw [width, behindRolled]
  refine mayLeave_bind (roll_onDisk_keeps collisionFree onDisk atLeast retains.begins.length_le
    trivial (fun _ _ _ => trivial) fun later longer same _ held => ⟨_, rfl, ?_⟩)
  exact mayLeave_here ⟨same.openRecord.trans opened, same.manifest.trans unsealed,
    same.location ▸ uncommitted, longer, held⟩

theorem sealAttempt_mayRoll {σ : Type} {memory : σ}
    (collisionFree : Function.Injective formats.digestOf)
    (rolledUp : RolledUp formats record events rolled kept torn state)
    (retains : Retains record.trajectoryId (events.take rolled) events left) :
    (sealAttempt formats record.trajectoryId now).MayLeave Directory.machine
      (RolledUp formats record events left.length kept torn) memory state := by
  have opened := rolledUp.1
  have uncommitted := rolledUp.2.2.1
  refine mayLeave_bind (keeps_bind.mpr (keeps_readIfAny.mpr ⟨trivial, ?_⟩))
  rw [opened]
  dsimp only [Option.bind_some]
  refine keeps_pure.mpr ⟨_, rfl, ?_⟩
  rw [formats.parse_openRecordBytes]
  refine mayLeave_bind (keeps_readLocation.mpr ⟨trivial, _, rfl, ?_⟩)
  rw [if_neg (Directory.published_other uncommitted)]
  exact (beforeCommit_mayRoll now collisionFree rolledUp retains).bind

theorem reconcileAttempt_mayRoll (collisionFree : Function.Injective formats.digestOf)
    (rolledUp : RolledUp formats record events rolled kept torn state)
    (retains : Retains record.trajectoryId (events.take rolled) events left)
    (released : state.lock = .missing ∨ state.lock = .free) :
    (reconcileAttempt formats record.trajectoryId now).MayLeave Directory.machine
      (RolledUp formats record events left.length kept torn) () state := by
  refine mayLeave_bind (readManifest_keeps.mpr ⟨trivial, ?_⟩)
  rw [rolledUp.2.1]
  refine ⟨_, rfl, mayLeave_bind
    ((keeps_atomic .tryLock fun _ torn => by cases torn).mpr ⟨trivial, ?_⟩)⟩
  rw [Directory.perform]
  rcases released with missing | free
  · rw [missing]
    exact ⟨_, rfl, sealAttempt_mayRoll now collisionFree rolledUp retains⟩
  · rw [free]
    have mine : RolledUp formats record events rolled kept torn { state with lock := .mine } :=
      rolledUp
    exact ⟨_, rfl, (sealAttempt_mayRoll now collisionFree mine retains).attempt.bind⟩

end Reconcilers

/-! ## One attempt -/

namespace Sample

/-- Two events to a chunk. -/
def paired : TrajectoryRecordingSpec :=
  { recording with
    maxEvents := 2
    events_bounded := by decide }

def pairedOpening : Opening := { opening with recording := paired }

def pairedOpenText : String := openRecordOf "2" "null"

/-- The model is asked, and nothing of it is captured. -/
def queried : TrajectoryEvent := asks .notProvided

def queriedText : String :=
  "\x7b\"context_rule\":\"full-history\",\"emitted_at\":\"2026-01-01T00:00:00+00:00\",\"event_id\":\"tev_061726d77f0d1dbf8036a9cacf8bd887c8bcd74f\",\"kind\":\"model-call-started\",\"messages_digest\":\"sha256:5555555555555555555555555555555555555555555555555555555555555555\",\"messages_shown\":0,\"parent\":0,\"request\":\x7b\"disposition\":\"not-provided\"\x7d,\"sequence\":1,\"tools_digest\":\"sha256:6666666666666666666666666666666666666666666666666666666666666666\",\"trajectory_id\":\"ainst_01JZ0000000000000000000001\",\"turn\":0\x7d"

/-- It does not answer. -/
def unansweredBody : EventBody :=
  .modelCallFinished .failed none (some "TimeoutError") 0 0 [] false none

def unanswered : TrajectoryEvent where
  trajectoryId := trajectoryId
  sequence := 2
  parent := some 1
  emittedAt := some emitted
  body := unansweredBody
  coherent := by decide
  earlier := by simp
  first := by simp [unansweredBody, EventBody.kind]

def unansweredText : String :=
  "\x7b\"emitted_at\":\"2026-01-01T00:00:00+00:00\",\"error_class\":\"TimeoutError\",\"event_id\":\"tev_2edd27e38d85707ac709aa4d27d0096b41375e97\",\"kind\":\"model-call-finished\",\"latency_ms\":null,\"outcome\":\"failed\",\"output_tokens\":0,\"output_truncated\":false,\"parent\":1,\"prompt_tokens\":0,\"reply\":null,\"sequence\":2,\"tool_calls_requested\":[],\"trajectory_id\":\"ainst_01JZ0000000000000000000001\"\x7d"

/-- The run ends without it. -/
def endedBody : EventBody := .runTerminated .modelError false none (some "TimeoutError") (digit '7')

def ended : TrajectoryEvent where
  trajectoryId := trajectoryId
  sequence := 3
  parent := some 2
  emittedAt := some emitted
  body := endedBody
  coherent := by decide
  earlier := by simp
  first := by simp [endedBody, EventBody.kind]

def endedText : String :=
  "\x7b\"answer\":null,\"completed\":false,\"emitted_at\":\"2026-01-01T00:00:00+00:00\",\"error_class\":\"TimeoutError\",\"event_id\":\"tev_fa6e1e090147364c792222456917d0b275afef53\",\"kind\":\"run-terminated\",\"parent\":2,\"result_digest\":\"sha256:7777777777777777777777777777777777777777777777777777777777777777\",\"sequence\":3,\"termination\":\"model-error\",\"trajectory_id\":\"ainst_01JZ0000000000000000000001\"\x7d"

/-- The chunk the writer rolls. -/
def pairChunk : Bytes :=
  closed (lineOf firstHeaderText) ++ closed (lineOf startedText) ++ closed (lineOf queriedText)

def pairRef : ChunkRef :=
  firstOfTwo "sha256:c4b8625c9b6ae74cf89e751e22b527ed498af17e5d7372863866c69da34517e5" 1521
    (by decide)

def secondHeader : ChunkHeader := ⟨1, some pairRef.digest, trajectoryId⟩

def secondHeaderText : String :=
  "\x7b\"chunk\":1,\"previous\":\"sha256:c4b8625c9b6ae74cf89e751e22b527ed498af17e5d7372863866c69da34517e5\",\"trajectory_id\":\"ainst_01JZ0000000000000000000001\"\x7d"

/-- The chunk a reconciler rolls. -/
def restChunk : Bytes := closed (lineOf secondHeaderText) ++ closed (lineOf unansweredText)

def restRef : ChunkRef where
  index := 1
  firstSequence := 2
  lastSequence := 2
  digest := "sha256:3322ebae2d8f6ff983f73345de538b267ce0092bd3834f9391e3f9b9b47db8eb"
  previous := some pairRef.digest
  bytes := 519
  events := 1
  nonempty := by decide
  forward := by decide
  counted := by decide

def pair : TrajectoryProgress := ⟨trajectoryId, [pairRef]⟩

def pairText : String :=
  "\x7b\"trajectory_id\":\"ainst_01JZ0000000000000000000001\",\"chunks\":[\x7b\"index\":0,\"first_sequence\":0,\"last_sequence\":1,\"digest\":\"sha256:c4b8625c9b6ae74cf89e751e22b527ed498af17e5d7372863866c69da34517e5\",\"previous\":null,\"bytes\":1521,\"events\":2\x7d]\x7d"

def both : TrajectoryProgress := ⟨trajectoryId, [pairRef, restRef]⟩

def bothText : String :=
  "\x7b\"trajectory_id\":\"ainst_01JZ0000000000000000000001\",\"chunks\":[\x7b\"index\":0,\"first_sequence\":0,\"last_sequence\":1,\"digest\":\"sha256:c4b8625c9b6ae74cf89e751e22b527ed498af17e5d7372863866c69da34517e5\",\"previous\":null,\"bytes\":1521,\"events\":2\x7d,\x7b\"index\":1,\"first_sequence\":2,\"last_sequence\":2,\"digest\":\"sha256:3322ebae2d8f6ff983f73345de538b267ce0092bd3834f9391e3f9b9b47db8eb\",\"previous\":\"sha256:c4b8625c9b6ae74cf89e751e22b527ed498af17e5d7372863866c69da34517e5\",\"bytes\":519,\"events\":1\x7d]\x7d"

def pairedFingerprints : Fingerprints where
  recording := fun _ => "sha256:951ed26c9e323f674d31f39730d214c8197332122f8c7325ffa054e6178121f1"
  trajectory := fun _ => "sha256:35aa4965ac4450a4cfa2f73f759a3c80c91c7765ac2214c36f5eed0c761f6a3b"

/-- What the last reconciler seals: the torn line had one byte. -/
def salvagedBody : TrajectoryManifestBody :=
  { lostBody with
    recording := paired
    chunks := [pairRef, restRef]
    content := [⟨1, .request, .notProvided⟩]
    tornTailBytes := 1 }

def salvaged : TrajectoryManifest pairedFingerprints :=
  ManifestBody.seal pairedFingerprints ⟨salvagedBody, by decide⟩

def salvagedText : String :=
  manifestOf
    "  \x7b\n   \"bytes\": 1521,\n   \"digest\": \"sha256:c4b8625c9b6ae74cf89e751e22b527ed498af17e5d7372863866c69da34517e5\",\n   \"events\": 2,\n   \"first_sequence\": 0,\n   \"index\": 0,\n   \"last_sequence\": 1,\n   \"previous\": null\n  \x7d,\n  \x7b\n   \"bytes\": 519,\n   \"digest\": \"sha256:3322ebae2d8f6ff983f73345de538b267ce0092bd3834f9391e3f9b9b47db8eb\",\n   \"events\": 1,\n   \"first_sequence\": 2,\n   \"index\": 1,\n   \"last_sequence\": 2,\n   \"previous\": \"sha256:c4b8625c9b6ae74cf89e751e22b527ed498af17e5d7372863866c69da34517e5\"\n  \x7d"
    "\n  \x7b\n   \"field\": \"request\",\n   \"sequence\": 1,\n   \"slot\": \x7b\n    \"disposition\": \"not-provided\"\n   \x7d\n  \x7d\n " "2" "null" "1" "35aa4965ac4450a4cfa2f73f759a3c80c91c7765ac2214c36f5eed0c761f6a3b"

/-! ### Their formats -/

/-- The text of an object on one line, of so many letters of one byte each. -/
def Spans (text : String) (count : Nat) : Prop :=
  ∃ letters, text = String.ofList ('\x7b' :: letters) ∧ letters.length + 1 = count ∧
    (letters.all fun letter => decide (32 ≤ letter.toNat ∧ letter.toNat ≤ 126)) = true

namespace Spans

variable {text : String} {count : Nat}

theorem opens (spans : Spans text count) : Opens text ['\x7b'] count := by
  obtain ⟨letters, rfl, isCount, _⟩ := spans
  exact ⟨letters, rfl, by omega⟩

theorem length_encode (spans : Spans text count) : (encode text).length = count := by
  obtain ⟨letters, rfl, rfl, plain⟩ := spans
  rw [encode_ofList]
  refine Json.utf8_ascii fun letter member => ?_
  rcases List.mem_cons.mp member with rfl | member
  · decide
  · exact (of_decide_eq_true (List.all_eq_true.mp plain letter member)).2

theorem length_lineOf (spans : Spans text count) : (lineOf text).length = count := by
  have unbroken : lineOf text = encode text := by
    obtain ⟨letters, rfl, _, plain⟩ := spans
    refine List.filter_eq_self.mpr fun byte member => decide_eq_true ?_
    rintro rfl
    rw [encode_ofList] at member
    obtain ⟨letter, isLetter, inLetter⟩ := List.mem_flatMap.mp member
    obtain rfl := Json.eq_newline_of_mem_utf8EncodeChar inLetter
    rcases List.mem_cons.mp isLetter with impossible | inside
    · exact absurd impossible (by decide)
    · exact absurd (of_decide_eq_true (List.all_eq_true.mp plain _ inside)).1 (by decide)
  rw [unbroken, spans.length_encode]

end Spans

set_option maxRecDepth 8000 in
theorem eventTexts_span : Spans startedText 957 ∧ Spans queriedText 483 ∧
    Spans unansweredText 370 ∧ Spans endedText 378 :=
  ⟨⟨_, rfl, by decide, by decide⟩, ⟨_, rfl, by decide, by decide⟩,
    ⟨_, rfl, by decide, by decide⟩, ⟨_, rfl, by decide, by decide⟩⟩

set_option maxRecDepth 8000 in
theorem headerTexts_span :
    Spans firstHeaderText 78 ∧ Spans secondHeaderText 147 ∧ Spans widestHeaderText 152 :=
  ⟨⟨_, rfl, by decide, by decide⟩, ⟨_, rfl, by decide, by decide⟩,
    ⟨_, rfl, by decide, by decide⟩⟩

set_option maxRecDepth 8000 in
theorem progressTexts_span : Spans pairText 235 ∧ Spans bothText 475 :=
  ⟨⟨_, rfl, by decide, by decide⟩, ⟨_, rfl, by decide, by decide⟩⟩

theorem pairDigest_begins : ['s', 'h', 'a', '2', '5', '6', ':', 'c'] <+: pairRef.digest.toList :=
  begins_of_eq_ofList ⟨_, rfl⟩

theorem restDigest_begins : ['s', 'h', 'a', '2', '5', '6', ':', '3'] <+: restRef.digest.toList :=
  begins_of_eq_ofList ⟨_, rfl⟩

def pairedDigests : Spelling Bytes Char :=
  .pair 'x' pairChunk restChunk
    (ne_of_begins pairDigest_begins restDigest_begins rfl (by decide))
    (unmarked_of_begins 's' pairDigest_begins (by decide) (by decide))
    (unmarked_of_begins 's' restDigest_begins (by decide) (by decide))

/-- The formats in which the records of this attempt have these texts. -/
noncomputable def pairedTexts : Texts where
  fingerprints := pairedFingerprints
  digests := pairedDigests
  events :=
    { mark := 1
      known := [(started, lineOf startedText), (queried, lineOf queriedText),
        (unanswered, lineOf unansweredText), (ended, lineOf endedText)]
      distinct := by
        obtain ⟨begins, asks, lacks, ends⟩ := eventTexts_span
        refine List.Nodup.of_map List.length ?_
        simp [begins.length_lineOf, asks.length_lineOf, lacks.length_lineOf, ends.length_lineOf]
      unmarked := by
        simp only [List.mem_cons, List.not_mem_nil, or_false, forall_eq_or_imp, forall_eq]
        obtain ⟨begins, asks, lacks, ends⟩ := eventTexts_span
        exact ⟨begins.opens.unmarked_lineOf, asks.opens.unmarked_lineOf,
          lacks.opens.unmarked_lineOf, ends.opens.unmarked_lineOf⟩ }
  headers :=
    { mark := 1
      known := [(firstHeader, lineOf firstHeaderText), (secondHeader, lineOf secondHeaderText),
        (widestHeader, lineOf widestHeaderText)]
      distinct := by
        obtain ⟨first, second, widest⟩ := headerTexts_span
        refine List.Nodup.of_map List.length ?_
        simp [first.length_lineOf, second.length_lineOf, widest.length_lineOf]
      unmarked := by
        simp only [List.mem_cons, List.not_mem_nil, or_false, forall_eq_or_imp, forall_eq]
        obtain ⟨first, second, widest⟩ := headerTexts_span
        exact ⟨first.opens.unmarked_lineOf, second.opens.unmarked_lineOf,
          widest.opens.unmarked_lineOf⟩ }
  openRecords :=
    Spelling.one 1 pairedOpening.openRecord (encode pairedOpenText) (openRecordOf_unmarked ..)
  progress :=
    { mark := 1
      known := [(pair, encode pairText), (both, encode bothText)]
      distinct := by
        refine List.Nodup.of_map List.length ?_
        simp [progressTexts_span.1.length_encode, progressTexts_span.2.length_encode]
      unmarked := by
        simp only [List.mem_cons, List.not_mem_nil, or_false, forall_eq_or_imp, forall_eq]
        exact ⟨progressTexts_span.1.opens.unmarked, progressTexts_span.2.opens.unmarked⟩ }
  manifests :=
    Spelling.one 1 salvaged (encode salvagedText) (manifestOf_unmarked ..)
  parseResult := texts.parseResult
  incidentBytes := texts.incidentBytes
  decode := texts.decode
  eventStrings := texts.eventStrings
  openRecordStrings := texts.openRecordStrings
  jsonStrings := texts.jsonStrings
  parseExpiry := texts.parseExpiry
  moment := texts.moment
  plainEvents := by
    refine ⟨by decide, ?_⟩
    simp only [List.mem_cons, List.not_mem_nil, or_false, forall_eq_or_imp, forall_eq]
    exact ⟨newline_notMem_lineOf _, newline_notMem_lineOf _, newline_notMem_lineOf _,
      newline_notMem_lineOf _⟩
  plainHeaders := by
    refine ⟨by decide, ?_⟩
    simp only [List.mem_cons, List.not_mem_nil, or_false, forall_eq_or_imp, forall_eq]
    exact ⟨newline_notMem_lineOf _, newline_notMem_lineOf _, newline_notMem_lineOf _⟩

/-! ### Their run -/

theorem event_given : (pairedTexts.events.known.map Prod.fst).Nodup := by
  refine List.Nodup.of_map TrajectoryEvent.kind ?_
  decide

theorem header_given : (pairedTexts.headers.known.map Prod.fst).Nodup := by
  refine List.Nodup.of_map ChunkHeader.chunk ?_
  decide

/-- An event of the attempt has its text as its line. -/
theorem eventLine_paired {event : TrajectoryEvent} {line : Bytes}
    (member : (event, line) ∈ pairedTexts.events.known) :
    pairedTexts.formats.eventLine event = line :=
  Texts.eventLine_of_given (pairedTexts.events.given_of_mem event_given member)

theorem headerRoom_paired : headerRoom pairedTexts.formats trajectoryId = 153 := by
  have widest : pairedTexts.formats.headerLine widestHeader = lineOf widestHeaderText :=
    Texts.headerLine_of_given
      (pairedTexts.headers.given_of_mem header_given (by simp [pairedTexts]))
  have room : headerRoom pairedTexts.formats trajectoryId =
      (closed (pairedTexts.formats.headerLine widestHeader)).length := headerSize_eq _ _
  rw [room, widest, closed, List.length_append, headerTexts_span.2.2.length_lineOf]
  rfl

theorem line_short {event : TrajectoryEvent} {line : Bytes}
    (member : (event, line) ∈ pairedTexts.events.known) :
    (closed (pairedTexts.formats.eventLine event)).length ≤ 1000 := by
  have lines : ∀ entry ∈ pairedTexts.events.known, entry.2.length ≤ 999 := by
    obtain ⟨begins, asks, lacks, ends⟩ := eventTexts_span
    simp [pairedTexts, begins.length_lineOf, asks.length_lineOf, lacks.length_lineOf,
      ends.length_lineOf]
  rw [eventLine_paired member, closed, List.length_append, List.length_singleton]
  exact Nat.succ_le_succ (lines _ member)

theorem started_short : (closed (pairedTexts.formats.eventLine started)).length ≤ 1000 :=
  line_short List.mem_cons_self

theorem queried_short : (closed (pairedTexts.formats.eventLine queried)).length ≤ 1000 :=
  line_short (List.mem_cons_of_mem _ List.mem_cons_self)

theorem unanswered_short : (closed (pairedTexts.formats.eventLine unanswered)).length ≤ 1000 :=
  line_short (List.mem_cons_of_mem _ (List.mem_cons_of_mem _ List.mem_cons_self))

theorem ended_known : (ended, lineOf endedText) ∈ pairedTexts.events.known :=
  List.mem_cons_of_mem _ (List.mem_cons_of_mem _ (List.mem_cons_of_mem _ List.mem_cons_self))

theorem ended_short : (closed (pairedTexts.formats.eventLine ended)).length ≤ 1000 :=
  line_short ended_known

/-- The torn byte is the first of the line. -/
theorem brace_begins : [123] <+: closed (pairedTexts.formats.eventLine ended) := by
  obtain ⟨letters, isText, _⟩ := eventTexts_span.2.2.2.opens
  rw [eventLine_paired ended_known, isText, lineOf_ofList]
  exact ⟨_, rfl⟩

/-- The attempt is opened. -/
theorem opens_paired : (TrajectoryWriter.open pairedTexts.formats pairedOpening ()).exec
    Directory.machine (fresh none) =
      (pairedOpening.directory pairedTexts.formats none,
        .ok (pairedOpening.writer pairedTexts.formats), ()) :=
  open_opens (by decide) (scanAll_nil _ _) (by decide)

/-- A writer of the attempt that is open, with no long line in its tail. -/
structure Fit (writer : TrajectoryWriter pairedTexts.formats) : Prop where
  opened : writer.opened = pairedOpening.openRecord
  noSecrets : writer.secrets = []
  isOpen : writer.state = .opened
  spent : writer.tailBytes ≤ 1000 * writer.tail.length

section Fit

variable {writer : TrajectoryWriter pairedTexts.formats} {state : Directory}
  {event : TrajectoryEvent}

theorem fit_opened : Fit (pairedOpening.writer pairedTexts.formats) :=
  ⟨rfl, by decide, rfl, Nat.le_refl 0⟩

theorem Fit.records (fit : Fit writer) (next : event.sequence = writer.events.length)
    (ours : event.trajectoryId = trajectoryId) (stamped : event.emittedAt = some emitted)
    (short : (closed (pairedTexts.formats.eventLine event)).length ≤ 1000) :
    (RollingCall.record event.body event.parent emitted).Records writer event := by
  have made := makeEvent_self event
  rw [ours, stamped, next] at made
  refine ⟨?_, fit.isOpen, ?_, ?_, ?_⟩
  · rw [fit.opened]
    exact made
  · rw [fit.noSecrets]
    exact scanAll_nil _ _
  · rw [fit.noSecrets]
    rfl
  · have maximum : pairedOpening.openRecord.recording.maxBytes = 1048576 := rfl
    rw [fit.opened, maximum]
    change headerRoom pairedTexts.formats trajectoryId + _ ≤ 1048576
    rw [headerRoom_paired]
    omega

/-- The tail is full once it has two events. -/
theorem Fit.full (fit : Fit writer) (few : writer.tail.length ≤ 2) {line : Bytes}
    (short : line.length ≤ 1000) : writer.full line = decide (2 ≤ writer.tail.length) := by
  have maximum : pairedOpening.openRecord.recording.maxBytes = 1048576 := rfl
  have many : pairedOpening.openRecord.recording.maxEvents = 2 := rfl
  have room : headerRoom pairedTexts.formats pairedOpening.openRecord.trajectoryId = 153 :=
    headerRoom_paired
  have spent := fit.spent
  rw [TrajectoryWriter.full, fit.opened, maximum, many, room]
  refine decide_eq_decide.mpr ⟨fun isFull => by omega, fun isMany => ⟨?_, .inl isMany⟩⟩
  rintro empty
  rw [empty] at isMany
  cases isMany

end Fit

/-- Calls of `record` lead to these events, of which the last ones are in the tail. -/
def Reaches (events tail : List TrajectoryEvent) : Prop :=
  ∃ writer state, Recorded pairedTexts.formats pairedOpening none events writer state ∧
    Budgeted pairedTexts.formats writer state ∧ Fit writer ∧ writer.events = events ∧
    writer.tail = tail

theorem reaches_opened : Reaches [] [] :=
  ⟨_, _, .opened opens_paired, budgeted_opened, fit_opened, rfl, rfl⟩

theorem Reaches.recorded {events tail : List TrajectoryEvent} (reaches : Reaches events tail)
    (few : tail.length ≤ 2) (event : TrajectoryEvent) (next : event.sequence = events.length)
    (ours : event.trajectoryId = trajectoryId) (stamped : event.emittedAt = some emitted)
    (short : (closed (pairedTexts.formats.eventLine event)).length ≤ 1000)
    (unicode : (emitted :: event.body.texts).all isUnicode = true) :
    Reaches (events ++ [event]) (if 2 ≤ tail.length then [event] else tail ++ [event]) := by
  obtain ⟨writer, state, recorded, budgeted, fit, rfl, rfl⟩ := reaches
  obtain ⟨after, later, called, kept, isAfter⟩ := recorded.records pairedTexts.digestOf_injective
    budgeted (fit.records next ours stamped short) unicode
  have spent := fit.spent
  refine ⟨after, later, called, kept, ?_⟩
  rw [fit.full few short] at isAfter
  by_cases isMany : 2 ≤ writer.tail.length
  · rw [if_pos (decide_eq_true isMany)] at isAfter
    obtain ⟨ref, _, rfl⟩ := isAfter
    rw [if_pos isMany]
    refine ⟨⟨fit.opened, fit.noSecrets, fit.isOpen, ?_⟩, rfl, rfl⟩
    change 0 + _ ≤ 1000 * 1
    omega
  · rw [if_neg (by simpa using isMany)] at isAfter
    subst isAfter
    rw [if_neg isMany]
    refine ⟨⟨fit.opened, fit.noSecrets, fit.isOpen, ?_⟩, rfl, rfl⟩
    change writer.tailBytes + _ ≤ 1000 * (writer.tail ++ [event]).length
    rw [List.length_append, List.length_singleton]
    omega

/-- The third event is recorded behind a roll of the others. -/
theorem reaches_unanswered : Reaches [started, queried, unanswered] [unanswered] := by
  have first : Reaches [started] [started] :=
    reaches_opened.recorded (Nat.zero_le 2) started rfl rfl rfl started_short (by decide)
  have second : Reaches [started, queried] [started, queried] :=
    first.recorded (by decide) queried rfl rfl rfl queried_short (by decide)
  exact second.recorded (by decide) unanswered rfl rfl rfl unanswered_short (by decide)

/-- A crash tears the fourth event behind its first byte. -/
theorem left_torn : ∃ left,
    CrashLeft pairedTexts.formats pairedOpening none [started, queried, unanswered] (some ended)
      left ∧
    RolledUp pairedTexts.formats pairedOpening.openRecord [started, queried, unanswered] 2 2 [123]
      left := by
  obtain ⟨writer, state, recorded, budgeted, fit, isEvents, isTail⟩ := reaches_unanswered
  have next : ended.sequence = writer.events.length := by
    rw [isEvents]
    rfl
  have few : writer.tail.length ≤ 2 := by
    rw [isTail]
    decide
  have records := fit.records next rfl rfl ended_short
  have notFull : writer.full (closed (pairedTexts.formats.eventLine ended)) = false := by
    rw [fit.full few ended_short, isTail]
    rfl
  have tears : (TrajectoryWriter.record endedBody (some 2) emitted).MayLeave Directory.machine
      (fun left => left = state.put .tail ((state.files .tail).getD [] ++ [123])) writer state :=
    record_mayTear records notFull brace_begins
  obtain ⟨left, crashed, isLeft⟩ := tears
  have appending : (WriterCall.record endedBody (some 2) emitted).appending writer =
      some ended := congrArg Except.toOption records.1
  have crash : CrashLeft pairedTexts.formats pairedOpening none _ _ left :=
    .calling (.record endedBody (some 2) emitted) recorded (by decide) (crashed.before)
  rw [appending] at crash
  refine ⟨left, crash, ?_⟩
  obtain ⟨⟨rolled, tracks⟩, _⟩ := recorded.tracks pairedTexts.digestOf_injective
  have isRolled : rolled = 2 := by
    have lengths := congrArg List.length tracks.tail
    rw [isTail, isEvents, List.length_drop] at lengths
    simp at lengths
    omega
  subst isRolled isLeft
  have onDisk := tracks.onDisk
  rw [isEvents] at onDisk
  refine ⟨?_, ?_, ?_, _, onDisk.tear (by decide)⟩
  · rw [Directory.put_files_other _ _ (by simp)]
    exact tracks.openRecord
  · rw [Directory.put_files_other _ _ (by simp)]
    exact tracks.unsealed
  · have phase := tracks.phase
    unfold Phase at phase
    rw [fit.isOpen] at phase
    exact phase

/-- A reconciler crashes behind its roll of the third event. -/
theorem reconciler_crashed {left : Directory}
    (rolledUp : RolledUp pairedTexts.formats pairedOpening.openRecord
      [started, queried, unanswered] 2 2 [123] left) :
    ∃ final, Reconcilers pairedTexts.formats trajectoryId left final ∧
      RolledUp pairedTexts.formats pairedOpening.openRecord [started, queried, unanswered] 3 2
        [123] final := by
  have sound : structuralRefusals trajectoryId [started, queried, unanswered] = [] := by decide
  have released : RolledUp pairedTexts.formats pairedOpening.openRecord
      [started, queried, unanswered] 2 2 [123] left.released := rolledUp
  obtain ⟨final, crash, rolled⟩ := reconcileAttempt_mayRoll moment
    pairedTexts.digestOf_injective released (.of_sound (List.take_prefix _ _) sound)
    (Directory.released_lock left)
  exact ⟨final, .crashed moment crash (.none final), rolled⟩

end Sample

/-! ## What the last reconciler seals -/

/-- However the writer was called, with texts that UTF-8 encodes, and wherever it and any
reconcilers crashed, reconciliation seals what is left of the events the writer recorded, and
perhaps of the one that was being appended. -/
theorem reconcileAttempt_seals_recorded {opening : Opening} {published : Option Bytes}
    {returned : List TrajectoryEvent} {appending : Option TrajectoryEvent}
    {left final : Directory} (now : String) (collisionFree : Function.Injective formats.digestOf)
    (crashed : CrashLeft formats opening published returned appending left)
    (reconcilers : Reconcilers formats opening.trajectoryId left final) :
    ∃ later status manifest kept extra,
      (reconcileAttempt formats opening.trajectoryId now ()).exec Directory.machine final.released =
        (later, .ok ⟨opening.trajectoryId, status, some manifest⟩, ()) ∧
      later.files .manifest = some (formats.manifestBytes manifest) ∧
      formats.validateManifest (formats.manifestBytes manifest) = some manifest ∧
      (extra = none ∨ extra = appending) ∧
      loadEvents formats later.files manifest.trajectoryId manifest.chunks = (kept, []) ∧
      Retains opening.trajectoryId ((returned ++ extra.toList).take (left.rolled formats))
        (returned ++ extra.toList) kept ∧
      manifest.content = contentReferences kept := by
  obtain ⟨extra, isExtra, kept, retains, recoverable⟩ := crashed.survives collisionFree
  have final_recoverable := reconcilers.recoverable collisionFree recoverable
  have keeps : (reconcileAttempt formats opening.trajectoryId now).Keeps Directory.machine
      (Recoverable formats opening.openRecord kept) _ () final.released :=
    reconcileAttempt_keeps collisionFree (final_recoverable.setLock _)
      (Directory.released_lock final)
  obtain ⟨status, manifest, isOutcome, _, manifestFile, seals⟩ := Program.Keeps.exec keeps
  exact ⟨_, status, manifest, kept, extra, Prod.ext rfl (Prod.ext isOutcome rfl), manifestFile,
    formats.validate_manifestBytes manifest, isExtra, seals.loads, retains, seals.content⟩

/-- Three events are recorded, the third behind a roll of the other two; the fourth is torn behind
its first byte; a reconciler crashes behind its own roll, with all three in chunks; and the next
one seals them. -/
theorem reconcileAttempt_seals_torn : ∃ left final,
    CrashLeft Sample.pairedTexts.formats Sample.pairedOpening none
      [Sample.started, Sample.queried, Sample.unanswered] (some Sample.ended) left ∧
    left.rolled Sample.pairedTexts.formats = 2 ∧
    Reconcilers Sample.pairedTexts.formats Sample.trajectoryId left final ∧
    final.rolled Sample.pairedTexts.formats = 3 ∧
    (left.files .tail).getD [] =
      tailBytes Sample.pairedTexts.formats [Sample.unanswered] ++ [123] ∧
    ∃ later status manifest kept extra,
      (reconcileAttempt Sample.pairedTexts.formats Sample.trajectoryId
          "2026-01-01T00:00:01+00:00" ()).exec Directory.machine final.released =
          (later, .ok ⟨Sample.trajectoryId, status, some manifest⟩, ()) ∧
      later.files .manifest = some (Sample.pairedTexts.formats.manifestBytes manifest) ∧
      Sample.pairedTexts.formats.validateManifest
        (Sample.pairedTexts.formats.manifestBytes manifest) = some manifest ∧
      (extra = none ∨ extra = some Sample.ended) ∧
      loadEvents Sample.pairedTexts.formats later.files manifest.trajectoryId manifest.chunks =
        (kept, []) ∧
      Retains Sample.trajectoryId
        (([Sample.started, Sample.queried, Sample.unanswered] ++ extra.toList).take
          (left.rolled Sample.pairedTexts.formats))
        ([Sample.started, Sample.queried, Sample.unanswered] ++ extra.toList) kept ∧
      manifest.content = contentReferences kept := by
  obtain ⟨left, crashed, rolledUp⟩ := Sample.left_torn
  obtain ⟨final, reconcilers, finalRolled⟩ := Sample.reconciler_crashed rolledUp
  obtain ⟨_, onDisk⟩ := rolledUp.2.2.2
  exact ⟨left, final, crashed, rolledUp.rolled_eq, reconcilers, finalRolled.rolled_eq, onDisk.tail,
    reconcileAttempt_seals_recorded "2026-01-01T00:00:01+00:00"
      Sample.pairedTexts.digestOf_injective crashed reconcilers⟩

/-- An error recorded before the run's beginning is durable, and reconciliation drops it. -/
theorem reconcileAttempt_drops_early :
    CrashLeft Sample.texts.formats Sample.opening none [Sample.early] none
      (Sample.afterFirst Sample.early).1 ∧
    ∃ later manifest,
      (reconcileAttempt Sample.texts.formats Sample.trajectoryId Sample.moment ()).exec
        Directory.machine (Sample.afterFirst Sample.early).1.released =
          (later, .ok ⟨Sample.trajectoryId, .newlySealed, some manifest⟩, ()) ∧
      loadEvents Sample.texts.formats later.files manifest.trajectoryId manifest.chunks =
        ([], []) := by
  refine ⟨.calling .commit Sample.records_early rfl (.here _ _), ?_⟩
  have unsound : structuralRefusals Sample.opening.openRecord.trajectoryId [Sample.early] ≠ [] := by
    decide
  have unicode : Sample.early.isUnicode = true := by decide
  have tail : (Sample.afterFirst Sample.early).1.released.files .tail =
      some (tailBytes Sample.texts.formats [Sample.early]) := by
    simp [Sample.afterFirst, Directory.released]
  have drops : (reconcileAttempt Sample.texts.formats Sample.trajectoryId Sample.moment).Keeps
      Directory.machine (fun _ => True) _ () (Sample.afterFirst Sample.early).1.released :=
    reconcileAttempt_drops rfl rfl rfl rfl tail rfl unicode unsound rfl
  obtain ⟨manifest, isOutcome, noChunks⟩ := Program.Keeps.exec drops
  refine ⟨_, manifest, Prod.ext rfl (Prod.ext isOutcome rfl), ?_⟩
  rw [noChunks]
  rfl

end Xaytune.Trajectory
