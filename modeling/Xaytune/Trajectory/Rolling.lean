import Xaytune.Library.Sha256
import Xaytune.Trajectory.Crash
import Xaytune.Trajectory.Encoding

/-!
# How large a chunk is

The writer rolls its tail before an event that would not fit, by the lines it appended and the
room of a header with six digits. The chunk holds other lines behind a header of its own: it is
within its bounds while its number has six digits, and beyond them a digit may be too much. A
lone surrogate has a line in the tail and none in a chunk.
-/

namespace Xaytune.Trajectory

open Xaytune.Library Action TrajectoryWriter

variable {formats : Formats}

/-! ## Runs -/

/-- A call that may roll the tail: an event is recorded, or what is left is rolled at the end. -/
inductive RollingCall where
  | record (body : EventBody) (parent : Option Nat) (now : Core.Text)
  | roll (site : Site)

namespace RollingCall

def run : RollingCall → Method formats Unit
  | record body parent now => do
      let _ ← TrajectoryWriter.record body parent now
      pure ()
  | roll site => rollTail site

/-- Whether the call records an event: its fields cohere, the attempt is open, no registered secret
stands in it and a chunk could hold it. -/
def Records (writer : TrajectoryWriter formats) (event : TrajectoryEvent) : RollingCall → Prop
  | record body parent now =>
      makeEvent writer.opened.trajectoryId writer.events.length parent (some now) body =
          .ok event ∧
        writer.state = .opened ∧
        scanAll writer.secrets (formats.eventStrings event) s!"the {event.kind.text} event" =
          .ok () ∧
        scanLine writer.secrets (closed (formats.eventLine event)) s!"the {event.kind.text} event" =
          .ok () ∧
        headerRoom formats writer.opened.trajectoryId + (closed (formats.eventLine event)).length ≤
          writer.opened.recording.maxBytes
  | roll _ => False

end RollingCall

/-- A writer's memory and directory behind calls that each meet a condition. -/
inductive Rolling (formats : Formats) (opening : Opening) (published : Option Bytes)
    (allowed : TrajectoryWriter formats → RollingCall → Prop) :
    TrajectoryWriter formats → Directory → Prop
  | opened {writer : TrajectoryWriter formats} {state : Directory}
      (ran : (TrajectoryWriter.open formats opening ()).exec Directory.machine (fresh published) =
        (state, .ok writer, ())) :
      Rolling formats opening published allowed writer state
  | called {writer after : TrajectoryWriter formats} {state later : Directory}
      {outcome : Except Raised Unit} (call : RollingCall)
      (before : Rolling formats opening published allowed writer state)
      (fine : allowed writer call)
      (ran : (call.run writer).exec Directory.machine state = (later, outcome, after)) :
      Rolling formats opening published allowed after later

/-! ## What holds between the calls -/

/-- The chunk is within the bounds of the recording. -/
structure Within (recording : TrajectoryRecordingSpec) (ref : ChunkRef) : Prop where
  events : ref.events ≤ recording.maxEvents
  bytes : ref.bytes ≤ recording.maxBytes

/-- The writer's budget agrees with its tail, and its chunks with the directory. -/
structure Budgeted (formats : Formats) (writer : TrajectoryWriter formats) (state : Directory) :
    Prop where
  numbered : NumberedFrom 0 writer.events
  chain : ∃ rolled, rolled ++ writer.tail = writer.events ∧
    Chain formats writer.opened.trajectoryId state.files writer.progress.chunks rolled
  spent : writer.tailBytes = (tailBytes formats writer.tail).length
  few : writer.tail.length ≤ writer.opened.recording.maxEvents
  fits : writer.tail ≠ [] →
    headerRoom formats writer.opened.trajectoryId + writer.tailBytes ≤
      writer.opened.recording.maxBytes
  ahead : ∀ index digest, writer.progress.chunks.length ≤ index →
    state.files (.chunk index digest) = none
  tailFile : state.files .tail ≠ none

/-- The writer's memory once its tail is rolled, into a chunk if there is one. -/
def TrajectoryWriter.rolledInto (writer : TrajectoryWriter formats) (ref : Option ChunkRef) :
    TrajectoryWriter formats :=
  { writer with
    progress := ⟨writer.progress.trajectoryId, writer.progress.chunks ++ ref.toList⟩
    tail := []
    tailBytes := 0 }

/-- The chunk a tail is rolled into, if it has events. -/
def RollsInto (writer : TrajectoryWriter formats) (ref : Option ChunkRef) : Prop :=
  match ref with
  | none => writer.tail = []
  | some ref => writer.tail ≠ [] ∧ ref.events = writer.tail.length ∧
      ∃ data, chunkBytes formats writer.opened.trajectoryId writer.progress.chunks.length
          (writer.progress.chunks.getLast?.map ChunkRef.digest) writer.tail = .ok data ∧
        ref.bytes = data.length

/-! ## What one call does -/

section Calls

variable {writer : TrajectoryWriter formats} {state : Directory}

theorem Budgeted.emptied (budgeted : Budgeted formats writer state) {ref : Option ChunkRef}
    {later : Directory}
    (chain : Chain formats writer.opened.trajectoryId later.files
      (writer.progress.chunks ++ ref.toList) writer.events)
    (ahead : ∀ index digest, (writer.progress.chunks ++ ref.toList).length ≤ index →
      later.files (.chunk index digest) = none)
    (tailFile : later.files .tail ≠ none) : Budgeted formats (writer.rolledInto ref) later :=
  ⟨budgeted.numbered, ⟨writer.events, List.append_nil _, chain⟩, rfl, Nat.zero_le _,
    fun nonempty => absurd rfl nonempty, ahead, tailFile⟩

/-- Events with a text that has no bytes are rolled into no chunk. -/
theorem roll_raises {σ : Type} {memory : σ} {trajectoryId : AttemptId}
    {progress : TrajectoryProgress} {events : List TrajectoryEvent} {safe : Directory → Prop}
    {post : Except Raised TrajectoryProgress → σ → Directory → Prop}
    (broken : ∃ event ∈ events, event.isUnicode = false)
    (raises : post (.error .unencodable) memory state) :
    (roll formats trajectoryId progress events).Keeps Directory.machine safe post memory state := by
  unfold roll
  cases isFirst : events.head? with
  | none =>
      obtain ⟨event, member, _⟩ := broken
      rw [List.head?_eq_none_iff.mp isFirst] at member
      cases member
  | some first =>
      cases isLast : events.getLast? with
      | none =>
          obtain ⟨event, member, _⟩ := broken
          rw [List.getLast?_eq_none_iff.mp isLast] at member
          cases member
      | some last =>
          refine keeps_bind.mpr (keeps_ofExcept.mpr ?_)
          rw [chunkBytes_raises _ _ _ broken]
          exact raises

/-- A budgeted tail is rolled into a chunk of its own, if it has events, and emptied; unless a
text in it has no bytes. -/
theorem rollTail_rolls (budgeted : Budgeted formats writer state) (site : Site)
    {post : Except Raised Unit → TrajectoryWriter formats → Directory → Prop}
    (raises : (∃ event ∈ writer.tail, event.isUnicode = false) →
      post (.error .unencodable) writer state)
    (done : ∀ ref later, RollsInto writer ref → Budgeted formats (writer.rolledInto ref) later →
      post (.ok ()) (writer.rolledInto ref) later) :
    (rollTail site).Keeps Directory.machine (fun _ => True) post writer state := by
  by_cases broken : ∃ event ∈ writer.tail, event.isUnicode = false
  · let raised : Except Raised Unit → TrajectoryWriter formats → Directory → Prop :=
      fun outcome after later => outcome = .error .unencodable ∧ after = writer ∧ later = state
    have rolls : (do
        let writer ← get
        let progress ← roll formats writer.opened.trajectoryId writer.progress writer.tail
        modify fun writer => { writer with progress := progress }
        ask (.truncateDurably .tail site) : Method formats Unit).Keeps Directory.machine
          (fun _ => True) raised writer state :=
      keeps_bind.mpr (keeps_get.mpr (keeps_bind.mpr (roll_raises broken ⟨rfl, rfl, rfl⟩)))
    refine Keeps.bind (Keeps.tryCatch rolls (fun _ _ _ holds => holds) ?_) ?_ ?_
    · rintro _ _ _ ⟨isError, rfl, rfl⟩
      cases isError
      rw [refused, if_neg (by decide)]
      exact ⟨rfl, rfl, rfl⟩
    · rintro _ _ _ ⟨impossible, _⟩
      cases impossible
    · rintro _ _ _ ⟨isError, rfl, rfl⟩
      cases isError
      exact raises broken
  have unicode : ∀ event ∈ writer.tail, event.isUnicode = true := fun event member =>
    Bool.eq_true_of_not_eq_false fun isFalse => broken ⟨event, member, isFalse⟩
  obtain ⟨content, written⟩ := chunkBytes_ok writer.opened.trajectoryId
    writer.progress.chunks.length (writer.progress.chunks.getLast?.map ChunkRef.digest) unicode
  obtain ⟨rolled, split, chain⟩ := budgeted.chain
  have numbered : NumberedFrom rolled.length writer.tail := by
    have all := budgeted.numbered
    rw [← split] at all
    have behind := (NumberedFrom.append_iff.mp all).2
    rwa [Nat.zero_add] at behind
  let rolledUp : Except Raised Unit → TrajectoryWriter formats → Directory → Prop :=
    fun outcome after later => outcome = .ok () ∧ ∃ ref, RollsInto writer ref ∧
      after = { writer with
        progress := ⟨writer.progress.trajectoryId, writer.progress.chunks ++ ref.toList⟩ } ∧
      Budgeted formats (writer.rolledInto ref) later
  have rolls : (do
      let writer ← get
      let progress ← roll formats writer.opened.trajectoryId writer.progress writer.tail
      modify fun writer => { writer with progress := progress }
      ask (.truncateDurably .tail site) : Method formats Unit).Keeps Directory.machine
        (fun _ => True) rolledUp writer state := by
    refine keeps_bind.mpr (keeps_get.mpr (keeps_bind.mpr ?_))
    obtain ⟨data, there⟩ := Option.ne_none_iff_exists'.mp budgeted.tailFile
    refine roll_publishes written (fun found held => ?_) chain numbered trivial (fun empty => ?_)
      fun ref later isIndex _ isEvents isBytes isPut wider advanced => ⟨trivial, ?_⟩
    · rw [budgeted.ahead _ _ (Nat.le_refl _)] at held
      cases held
    · refine keeps_bind.mpr (keeps_modify.mpr ((keeps_truncateDurably there).mpr
        ⟨trivial, rfl, none, empty, ?_, ?_⟩))
      · rw [Option.toList_none, List.append_nil]
      · rw [empty, List.append_nil] at split
        have same : ∀ index digest, (state.put .tail []).files (.chunk index digest) =
            state.files (.chunk index digest) :=
          fun index digest => Directory.put_files_other _ _ (by simp)
        refine budgeted.emptied ?_ (fun index digest beyond => ?_) ?_
        · rw [Option.toList_none, List.append_nil, ← split]
          exact chain.congr same
        · rw [Option.toList_none, List.append_nil] at beyond
          rw [same]
          exact budgeted.ahead index digest beyond
        · rw [Directory.put_files_same]
          exact Option.some_ne_none _
    · have kept : ∀ file progress, file ≠ FileName.tail → file ≠ .progress →
          ((later.put .progress progress).put .tail []).files file = later.files file := by
        intro file progress noTail noProgress
        rw [Directory.put_files_other _ _ noTail, Directory.put_files_other _ _ noProgress]
      have tailThere : (later.put .progress (formats.progressBytes
          ⟨writer.progress.trajectoryId, writer.progress.chunks ++ [ref]⟩)).files .tail =
            some data := by
        rw [Directory.put_files_other _ _ (by simp), isPut,
          Directory.put_files_other _ _ (by simp), there]
      refine keeps_bind.mpr (keeps_modify.mpr ((keeps_truncateDurably tailThere).mpr
        ⟨trivial, rfl, some ref, ⟨?_, isEvents, content, written, isBytes⟩, rfl, ?_⟩))
      · have some_of := ref.nonempty.2
        rw [isEvents] at some_of
        exact List.ne_nil_of_length_pos some_of
      · rw [split] at advanced
        refine budgeted.emptied ?_ (fun index digest beyond => ?_) ?_
        · exact advanced.congr fun index digest => kept _ _ (by simp) (by simp)
        · rw [kept _ _ (by simp) (by simp), isPut, Directory.put_files_other _ _ ?_]
          · simp only [Option.toList_some, List.length_append, List.length_singleton] at beyond
            exact budgeted.ahead index digest (by omega)
          · simp only [Option.toList_some, List.length_append, List.length_singleton] at beyond
            simp only [ne_eq, FileName.chunk.injEq, not_and]
            intro same
            omega
        · rw [Directory.put_files_same]
          exact Option.some_ne_none _
  refine Keeps.bind (Keeps.tryCatch rolls (fun _ _ _ holds => holds) ?_) ?_ ?_
  · rintro _ _ _ ⟨impossible, _⟩
    cases impossible
  · rintro _ _ later ⟨_, ref, into, rfl, after⟩
    exact keeps_modify.mpr (done ref later into after)
  · rintro _ _ _ ⟨impossible, _⟩
    cases impossible

/-- An event behind the others that has its room in the tail is appended. -/
theorem appendEvent_appends {event : TrajectoryEvent} (budgeted : Budgeted formats writer state)
    (next : event.sequence = writer.events.length)
    (few : writer.tail.length < writer.opened.recording.maxEvents)
    (fits : headerRoom formats writer.opened.trajectoryId +
      (writer.tailBytes + (closed (formats.eventLine event)).length) ≤
        writer.opened.recording.maxBytes)
    {post : Except Raised TrajectoryEvent → TrajectoryWriter formats → Directory → Prop}
    (done : ∀ later, Budgeted formats (writer.appended event) later →
      post (.ok event) (writer.appended event) later) :
    (appendEvent event).Keeps Directory.machine (fun _ => True) post writer state := by
  let line := closed (formats.eventLine event)
  let appended : Except Raised Unit → TrajectoryWriter formats → Directory → Prop :=
    fun outcome unchanged later => outcome = .ok () ∧ unchanged = writer ∧
      later = state.put .tail ((state.files .tail).getD [] ++ line)
  have appends : (ask (.appendDurably .tail line)).Keeps Directory.machine (fun _ => True) appended
      writer state := keeps_appendDurably.mpr ⟨trivial, fun _ _ => trivial, rfl, rfl, rfl⟩
  refine Keeps.bind (Keeps.tryCatch appends (fun _ _ _ holds => holds) ?_) ?_ ?_
  · rintro _ _ _ ⟨impossible, _⟩
    cases impossible
  · rintro _ _ later ⟨_, rfl, rfl⟩
    refine keeps_bind.mpr (keeps_modify.mpr (keeps_pure.mpr (done _ ?_)))
    obtain ⟨rolled, split, chain⟩ := budgeted.chain
    refine ⟨budgeted.numbered.concat next, ⟨rolled, ?_, ?_⟩, ?_, ?_, fun _ => fits, ?_, ?_⟩
    · rw [TrajectoryWriter.appended, ← split, List.append_assoc]
    · exact chain.congr fun index digest => Directory.put_files_other _ _ (by simp)
    · simp [TrajectoryWriter.appended, tailBytes, budgeted.spent]
    · simp only [TrajectoryWriter.appended, List.length_append, List.length_singleton]
      omega
    · intro index digest beyond
      rw [Directory.put_files_other _ _ (by simp)]
      exact budgeted.ahead index digest beyond
    · rw [Directory.put_files_same]
      exact Option.some_ne_none _
  · rintro _ _ _ ⟨impossible, _⟩
    cases impossible

/-- `record` changes nothing, or appends its event, behind a roll if the tail is full. -/
theorem record_rolls (budgeted : Budgeted formats writer state) (body : EventBody)
    (parent : Option Nat) (now : Core.Text)
    {post : Except Raised TrajectoryEvent → TrajectoryWriter formats → Directory → Prop}
    (refuses : ∀ error, (∀ event, ¬ (RollingCall.record body parent now).Records writer event) →
      post (.error error) writer state)
    (raises : (∃ event ∈ writer.tail, event.isUnicode = false) →
      post (.error .unencodable) writer state)
    (appends : ∀ event later, (RollingCall.record body parent now).Records writer event →
      writer.full (closed (formats.eventLine event)) = false →
      Budgeted formats (writer.appended event) later →
        post (.ok event) (writer.appended event) later)
    (rolls : ∀ event ref later, (RollingCall.record body parent now).Records writer event →
      writer.full (closed (formats.eventLine event)) = true → RollsInto writer ref →
      Budgeted formats ((writer.rolledInto ref).appended event) later →
        post (.ok event) ((writer.rolledInto ref).appended event) later) :
    (TrajectoryWriter.record body parent now).Keeps Directory.machine (fun _ => True) post writer
      state := by
  refine keeps_bind.mpr (requireOpen_keeps (fun isOpen => ?_) fun shut error =>
    refuses error fun _ records => shut records.2.1)
  refine keeps_bind.mpr (keeps_get.mpr (keeps_bind.mpr (keeps_ofExcept.mpr ?_)))
  cases made : makeEvent writer.opened.trajectoryId writer.events.length parent (some now) body with
  | error error =>
      refine refuses error fun event records => ?_
      have isEvent := records.1
      rw [made] at isEvent
      cases isEvent
  | ok event =>
  -- the call records no other event
  have only : ∀ other, (RollingCall.record body parent now).Records writer other →
      other = event := fun other records => Except.ok.inj (records.1.symm.trans made)
  refine keeps_bind.mpr (keeps_ofExcept.mpr ?_)
  cases scanned : scanAll writer.secrets (formats.eventStrings event)
      s!"the {event.kind.text} event" with
  | error error =>
      refine refuses error fun other records => ?_
      obtain rfl := only other records
      have fine := records.2.2.1
      rw [scanned] at fine
      cases fine
  | ok _ =>
  refine keeps_bind.mpr (keeps_ofExcept.mpr ?_)
  cases scannedLine : scanLine writer.secrets (closed (formats.eventLine event))
      s!"the {event.kind.text} event" with
  | error error =>
      refine refuses error fun other records => ?_
      obtain rfl := only other records
      have fine := records.2.2.2.1
      rw [scannedLine] at fine
      cases fine
  | ok _ =>
  have next : event.sequence = writer.events.length := (makeEvent_ok made).2.1
  have some_event := writer.opened.recording.events_bounded.1
  dsimp only
  by_cases large : writer.opened.recording.maxBytes <
      headerRoom formats writer.opened.trajectoryId + (closed (formats.eventLine event)).length
  · rw [if_pos large]
    refine refuses _ fun other records => ?_
    obtain rfl := only other records
    exact absurd records.2.2.2.2 (Nat.not_le.mpr large)
  rw [if_neg large]
  have records : (RollingCall.record body parent now).Records writer event :=
    ⟨made, isOpen, scanned, scannedLine, Nat.not_lt.mp large⟩
  -- behind a roll, or in an empty tail, the event has the room it was just given
  by_cases isFull : writer.full (closed (formats.eventLine event)) = true
  · rw [if_pos isFull]
    refine keeps_bind.mpr (rollTail_rolls budgeted .recording raises
      fun ref later into rolledUp => ?_)
    refine appendEvent_appends rolledUp next ?_ ?_ fun final after =>
      rolls event ref final records isFull into after
    · exact some_event
    · change headerRoom formats writer.opened.trajectoryId +
        (0 + (closed (formats.eventLine event)).length) ≤ writer.opened.recording.maxBytes
      omega
  · rw [if_neg isFull]
    have hasRoom : writer.tail = [] ∨ writer.tail.length < writer.opened.recording.maxEvents ∧
        headerRoom formats writer.opened.trajectoryId + writer.tailBytes +
          (closed (formats.eventLine event)).length ≤ writer.opened.recording.maxBytes := by
      by_cases empty : writer.tail = []
      · exact .inl empty
      · simp only [TrajectoryWriter.full, ne_eq, empty, not_false_eq_true, true_and,
          decide_eq_true_eq, not_or, Nat.not_le, Nat.not_lt] at isFull
        exact .inr isFull
    have spent := budgeted.spent
    refine appendEvent_appends budgeted next ?_ ?_ fun final after =>
      appends event final records (Bool.eq_false_of_not_eq_true isFull) after
    · rcases hasRoom with empty | room
      · rw [empty]
        exact some_event
      · exact room.1
    · rcases hasRoom with empty | room
      · rw [empty] at spent
        change writer.tailBytes = 0 at spent
        omega
      · omega

end Calls

/-! ## What a chunk takes -/

/-- A chunk names the digest of the chunk before it. -/
theorem Chain.previous_digest {trajectoryId : AttemptId} {view : View} {refs : List ChunkRef}
    {events : List TrajectoryEvent} (chain : Chain formats trajectoryId view refs events) :
    ∀ digest ∈ refs.getLast?.map ChunkRef.digest, ∃ data, digest = formats.digestOf data := by
  cases chain with
  | nil =>
      intro digest member
      cases member
  | roll chain index previous first last made digest bytes held =>
      intro other member
      rw [List.getLast?_concat] at member
      cases member
      exact ⟨_, digest⟩

namespace TrajectoryWriter

/-- The number of the chunk an event goes into: the tail's own, or the next one where the tail is
rolled before its line. -/
def chunkNumber (writer : TrajectoryWriter formats) (line : Bytes) : Nat :=
  writer.progress.chunks.length + if writer.full line then 1 else 0

/-- What stands before a line in the tail it is appended to. -/
def spentBefore (writer : TrajectoryWriter formats) (line : Bytes) : Nat :=
  if writer.full line then 0 else writer.tailBytes

/-- The writer's lines leave room for the digits that the number of their chunk has beyond six. -/
def Roomy (writer : TrajectoryWriter formats) : Prop :=
  writer.tail ≠ [] →
    headerRoom formats writer.opened.trajectoryId + (digits writer.progress.chunks.length - 6) +
      writer.tailBytes ≤ writer.opened.recording.maxBytes

end TrajectoryWriter

/-- An event has room in its chunk, with all digits of the chunk's number. -/
def TrajectoryWriter.HasRoom (writer : TrajectoryWriter formats) (line : Bytes) : Prop :=
  headerRoom formats writer.opened.trajectoryId + (digits (writer.chunkNumber line) - 6) +
    writer.spentBefore line + line.length ≤ writer.opened.recording.maxBytes

/-- An event that is recorded into a chunk from the millionth on has room for all its digits. -/
def LeavesRoom (writer : TrajectoryWriter formats) (call : RollingCall) : Prop :=
  ∀ event, call.Records writer event →
    1000000 ≤ writer.chunkNumber (closed (formats.eventLine event)) →
      writer.HasRoom (closed (formats.eventLine event))

section Size

variable {writer : TrajectoryWriter formats} {state : Directory}

/-- An event that is recorded has room: by the writer's own check up to a million chunks. -/
theorem LeavesRoom.hasRoom {call : RollingCall} {event : TrajectoryEvent}
    (room : LeavesRoom writer call) (budgeted : Budgeted formats writer state)
    (records : call.Records writer event) :
    writer.HasRoom (closed (formats.eventLine event)) := by
  by_cases many : 1000000 ≤ writer.chunkNumber (closed (formats.eventLine event))
  · exact room event records many
  have six : digits (writer.chunkNumber (closed (formats.eventLine event))) ≤ 6 :=
    digits_le (by decide) (Nat.lt_of_not_le many)
  have alone : headerRoom formats writer.opened.trajectoryId +
      (closed (formats.eventLine event)).length ≤ writer.opened.recording.maxBytes := by
    cases call with
    | record body parent now => exact records.2.2.2.2
    | roll site => exact records.elim
  unfold HasRoom spentBefore
  split_ifs with isFull
  · omega
  · by_cases empty : writer.tail = []
    · have spent := budgeted.spent
      rw [empty] at spent
      change writer.tailBytes = 0 at spent
      omega
    · simp only [TrajectoryWriter.full, ne_eq, empty, not_false_eq_true, true_and,
        decide_eq_true_eq, not_or, Nat.not_le, Nat.not_lt] at isFull
      omega

/-- The chunk a tail is rolled into is within its bounds if the digits of its number have room. -/
theorem within_of_roomy {encoding : Encoding} {writer : TrajectoryWriter encoding.formats}
    (budgeted : Budgeted encoding.formats writer state) (roomy : writer.Roomy) {ref : ChunkRef}
    (into : RollsInto writer (some ref)) : Within writer.opened.recording ref := by
  obtain ⟨some_of, isEvents, data, made, isBytes⟩ := into
  obtain ⟨rolled, _, chain⟩ := budgeted.chain
  obtain ⟨lines, each, rfl⟩ := (chunkBytes_ok_iff ..).mp made
  have header := encoding.header_le writer.progress.chunks.length writer.opened.trajectoryId
    chain.previous_digest
  have size := encoding.headerSize_le writer.progress.chunks.length writer.opened.trajectoryId
  have shorter := encoding.written_le each
  have fits := roomy some_of
  have spent := budgeted.spent
  constructor
  · rw [isEvents]
    exact budgeted.few
  · rw [isBytes, List.length_append]
    omega

end Size

/-! ## What a run keeps -/

/-- Every chunk a writer rolled is within its bounds, and the chunks hold the events before the
tail, in order, each chunk chained to the one before it. -/
structure Chunked (formats : Formats) (recording : TrajectoryRecordingSpec)
    (writer : TrajectoryWriter formats) (state : Directory) : Prop where
  within : ∀ ref ∈ writer.progress.chunks, Within recording ref
  continuous : chunkProblems 0 0 none writer.progress.chunks = []
  holds : ∃ rolled, rolled ++ writer.tail = writer.events ∧
    loadEvents formats state.files writer.opened.trajectoryId writer.progress.chunks = (rolled, [])

/-- What a call may do to a writer's memory. -/
inductive Moved (call : RollingCall) (writer : TrajectoryWriter formats) :
    TrajectoryWriter formats → Prop
  | stays : Moved call writer writer
  | appends {event : TrajectoryEvent} (records : call.Records writer event)
      (notFull : writer.full (closed (formats.eventLine event)) = false) :
      Moved call writer (writer.appended event)
  | rolls {ref : Option ChunkRef} (into : RollsInto writer ref) :
      Moved call writer (writer.rolledInto ref)
  | makesRoom {ref : Option ChunkRef} {event : TrajectoryEvent}
      (records : call.Records writer event)
      (isFull : writer.full (closed (formats.eventLine event)) = true)
      (into : RollsInto writer ref) : Moved call writer ((writer.rolledInto ref).appended event)

theorem RollingCall.run_moves {writer : TrajectoryWriter formats} {state : Directory}
    (budgeted : Budgeted formats writer state) (call : RollingCall) :
    (call.run : Method formats Unit).Keeps Directory.machine (fun _ => True)
      (fun _ after later => Budgeted formats after later ∧ Moved call writer after) writer
        state := by
  cases call with
  | record body parent now =>
      let moves : Except Raised TrajectoryEvent → TrajectoryWriter formats → Directory → Prop :=
        fun _ after later => Budgeted formats after later ∧
          Moved (.record body parent now) writer after
      have records : (TrajectoryWriter.record body parent now).Keeps Directory.machine
          (fun _ => True) moves writer state := by
        exact record_rolls budgeted body parent now (fun _ _ => ⟨budgeted, .stays⟩)
          (fun _ => ⟨budgeted, .stays⟩)
          (fun event later records notFull after => ⟨after, .appends records notFull⟩)
          fun event ref later records isFull into after => ⟨after, .makesRoom records isFull into⟩
      exact Keeps.bind records (fun _ _ _ holds => holds) (fun _ _ _ holds => holds)
  | roll site =>
      exact rollTail_rolls budgeted site (fun _ => ⟨budgeted, .stays⟩)
        fun ref later into after => ⟨after, .rolls into⟩

section Runs

variable {opening : Opening} {published : Option Bytes}

theorem opened_writer {writer : TrajectoryWriter formats} {state : Directory}
    (ran : (TrajectoryWriter.open formats opening ()).exec Directory.machine (fresh published) =
      (state, .ok writer, ())) :
    writer = opening.writer formats ∧ state = opening.directory formats published := by
  cases checked : opening.check with
  | error error =>
      unfold TrajectoryWriter.open at ran
      rw [checked] at ran
      cases ran
  | ok _ =>
      cases scanned : scanAll opening.frozen (formats.openRecordStrings opening.openRecord)
          "the open record" with
      | error error =>
          unfold TrajectoryWriter.open persist at ran
          rw [checked, scanned] at ran
          cases ran
      | ok _ =>
          by_cases unicode : opening.attribution.texts.all isUnicode = true
          · rw [open_opens checked scanned unicode] at ran
            cases ran
            exact ⟨rfl, rfl⟩
          · unfold TrajectoryWriter.open persist at ran
            rw [checked, scanned, if_pos unicode] at ran
            cases ran

theorem budgeted_opened : Budgeted formats (opening.writer formats)
    (opening.directory formats published) := by
  refine ⟨.nil, ⟨[], rfl, .nil⟩, rfl, Nat.zero_le _, fun nonempty => absurd rfl nonempty, ?_, ?_⟩
  · intro index digest _
    rw [Opening.directory, Directory.put_files_other _ _ (by simp),
      Directory.put_files_other _ _ (by simp)]
    rfl
  · rw [Opening.directory, Directory.put_files_same]
    exact Option.some_ne_none _

theorem Moved.opened {call : RollingCall} {writer after : TrajectoryWriter formats}
    (moved : Moved call writer after) : after.opened = writer.opened := by
  cases moved <;> rfl

theorem Rolling.budgeted {allowed : TrajectoryWriter formats → RollingCall → Prop}
    {writer : TrajectoryWriter formats} {state : Directory}
    (run : Rolling formats opening published allowed writer state) :
    writer.opened = opening.openRecord ∧ Budgeted formats writer state := by
  induction run with
  | opened ran =>
      obtain ⟨rfl, rfl⟩ := opened_writer ran
      exact ⟨rfl, budgeted_opened⟩
  | called call before fine ran ih =>
      have ends := Program.Keeps.exec (call.run_moves ih.2)
      rw [ran] at ends
      exact ⟨ends.2.opened.trans ih.1, ends.1⟩

section Bounds

variable {encoding : Encoding} {writer after : TrajectoryWriter encoding.formats}
  {state : Directory} {call : RollingCall}

/-- A call that leaves room behind the tail leaves it behind the next one. -/
theorem Moved.roomy (moved : Moved call writer after)
    (budgeted : Budgeted encoding.formats writer state) (roomy : writer.Roomy)
    (room : LeavesRoom writer call) : after.Roomy := by
  cases moved with
  | stays => exact roomy
  | appends records notFull =>
      intro _
      have fits := room.hasRoom budgeted records
      rw [HasRoom, chunkNumber, spentBefore, notFull] at fits
      change headerRoom encoding.formats writer.opened.trajectoryId +
        (digits writer.progress.chunks.length - 6) + (writer.tailBytes + _) ≤
          writer.opened.recording.maxBytes
      simp only [Bool.false_eq_true, if_false, Nat.add_zero] at fits
      omega
  | rolls into => exact fun some_of => absurd rfl some_of
  | @makesRoom ref event records isFull into =>
      intro _
      have fits := room.hasRoom budgeted records
      rw [HasRoom, chunkNumber, spentBefore, isFull] at fits
      simp only [if_true] at fits
      cases ref with
      | none =>
          have some_of : writer.tail ≠ [] := by
            rw [TrajectoryWriter.full, decide_eq_true_iff] at isFull
            exact isFull.1
          exact absurd into some_of
      | some ref =>
          change headerRoom encoding.formats writer.opened.trajectoryId +
            (digits (writer.progress.chunks ++ [ref]).length - 6) + (0 + _) ≤
              writer.opened.recording.maxBytes
          rw [List.length_append, List.length_singleton]
          omega

theorem Moved.within (moved : Moved call writer after)
    (budgeted : Budgeted encoding.formats writer state) (roomy : writer.Roomy)
    (before : ∀ ref ∈ writer.progress.chunks, Within writer.opened.recording ref) :
    ∀ ref ∈ after.progress.chunks, Within writer.opened.recording ref := by
  have rolled : ∀ ref, RollsInto writer ref →
      ∀ other ∈ (writer.rolledInto ref).progress.chunks, Within writer.opened.recording other := by
    intro ref into other member
    rcases List.mem_append.mp member with earlier | new
    · exact before other earlier
    · obtain rfl := Option.mem_toList.mp new
      exact within_of_roomy budgeted roomy into
  cases moved with
  | stays => exact before
  | appends _ _ => exact before
  | rolls into => exact rolled _ into
  | makesRoom _ _ into => exact rolled _ into

theorem Rolling.within
    (run : Rolling encoding.formats opening published LeavesRoom writer state) :
    writer.Roomy ∧ ∀ ref ∈ writer.progress.chunks, Within opening.recording ref := by
  induction run with
  | opened ran =>
      obtain ⟨rfl, rfl⟩ := opened_writer ran
      exact ⟨fun some_of => absurd rfl some_of, fun ref member => nomatch member⟩
  | called call before fine ran ih =>
      obtain ⟨isOpened, budgeted⟩ := before.budgeted
      have ends := Program.Keeps.exec (call.run_moves budgeted)
      rw [ran] at ends
      have kept := ends.2.within budgeted ih.1
      rw [isOpened] at kept
      exact ⟨ends.2.roomy budgeted ih.1 fine, kept ih.2⟩

end Bounds

theorem Budgeted.continuous {writer : TrajectoryWriter formats} {state : Directory}
    (budgeted : Budgeted formats writer state) :
    chunkProblems 0 0 none writer.progress.chunks = [] ∧
      ∃ rolled, rolled ++ writer.tail = writer.events ∧
        loadEvents formats state.files writer.opened.trajectoryId writer.progress.chunks =
          (rolled, []) := by
  obtain ⟨rolled, split, chain⟩ := budgeted.chain
  have numbered := budgeted.numbered
  rw [← split] at numbered
  exact ⟨chain.problems, rolled, split, chain.load (NumberedFrom.append_iff.mp numbered).1⟩

end Runs

/-- A chunk is written and reads back as its header and its events exactly where no text of them
holds a lone surrogate; and in a run in which every recorded event leaves room for the digits of
a number beyond the millionth, every chunk is within its bounds and the chunks are contiguous, in
order and chained. -/
theorem chunks_read_back_within_bounds (encoding : Encoding) :
    (∀ trajectoryId index previous events,
      (∃ data, chunkBytes encoding.formats trajectoryId index previous events = .ok data ∧
        parseChunk encoding.formats data = some (⟨index, previous, trajectoryId⟩, events)) ↔
          ∀ event ∈ events, event.isUnicode = true) ∧
    ∀ opening published writer state,
      Rolling encoding.formats opening published LeavesRoom writer state →
        Chunked encoding.formats opening.recording writer state := by
  constructor
  · intro trajectoryId index previous events
    constructor
    · rintro ⟨data, made, _⟩ event member
      refine Bool.eq_true_of_not_eq_false fun isFalse => ?_
      rw [chunkBytes_raises _ _ _ ⟨event, member, isFalse⟩] at made
      cases made
    · intro unicode
      obtain ⟨data, made⟩ := chunkBytes_ok trajectoryId index previous unicode
      exact ⟨data, made, parseChunk_chunkBytes made⟩
  · intro opening published writer state run
    obtain ⟨continuous, holds⟩ := run.budgeted.2.continuous
    exact ⟨run.within.2, continuous, holds⟩

/-! ## A million chunks -/

namespace Sample

def hexDigest : HexDigest := ⟨Sha256.hex, Sha256.hex_length, Sha256.hex_letters⟩

noncomputable def encoding : Encoding := .ofDigest texts.formats hexDigest

/-- One event to a chunk. -/
def tightRecording : TrajectoryRecordingSpec :=
  { recording with
    maxEvents := 1
    maxBytes := 4096
    events_bounded := by decide
    bytes_bounded := by decide }

def tightOpening : Opening := { opening with recording := tightRecording }

/-- The call of a tool with a version. -/
def callBody (version : Option Core.Text) : EventBody :=
  .toolCallStarted "call-1" "search" version .notProvided

def toolCall (version : Option Core.Text) (sequence : Nat) : TrajectoryEvent where
  trajectoryId := trajectoryId
  sequence := sequence
  parent := none
  emittedAt := some emitted
  body := callBody version
  coherent := rfl
  earlier := by simp
  first := by simp [callBody, EventBody.kind]

theorem makeEvent_toolCall (version : Option Core.Text) (sequence : Nat) :
    makeEvent trajectoryId sequence none (some emitted) (callBody version) =
      .ok (toolCall version sequence) :=
  makeEvent_self (toolCall version sequence)

theorem isUnicode_spell (letters : List Char) : isUnicode (Core.spell letters) = true := by
  refine List.all_eq_true.mpr fun point member => ?_
  obtain ⟨letter, _, rfl⟩ := List.mem_map.mp member
  simp only [Bool.or_eq_true, decide_eq_true_eq]
  exact letter.valid.imp id fun beyond => beyond.1

theorem toolCall_isUnicode {version : Option Core.Text} (unicode : version.all isUnicode = true)
    (sequence : Nat) : (toolCall version sequence).isUnicode = true := by
  have stamped : isUnicode emitted = true := isUnicode_spell moment.toList
  cases version with
  | none => simp [TrajectoryEvent.isUnicode, toolCall, callBody, EventBody.texts, stamped]
  | some version =>
      have given : isUnicode version = true := unicode
      simp [TrajectoryEvent.isUnicode, toolCall, callBody, EventBody.texts, stamped, given]

theorem eventId_length (trajectoryId : AttemptId) (sequence : Nat) (ensureAscii : Bool) :
    (Json.utf8 (Json.dumps ensureAscii
      (text (hexDigest.eventIdFor trajectoryId sequence)))).length = 46 := by
  have hex : ∀ data, (String.ofList ((hexDigest.hex data).take 40)).length = 40 := by
    intro data
    rw [String.length_ofList, List.length_take, hexDigest.length]
    rfl
  have plain : ∀ letter ∈ (hexDigest.eventIdFor trajectoryId sequence).toList,
      Json.Plain letter := by
    intro letter member
    have all : ∀ letter ∈ "tev_".toList ++ "0123456789abcdef".toList, Json.Plain letter :=
      Json.every (by decide)
    refine all letter ?_
    rw [HexDigest.eventIdFor, String.toList_append] at member
    refine (List.mem_append.mp member).elim (List.mem_append_left _) fun inHex => ?_
    have toList : ∀ letters : List Char, (String.ofList letters).toList = letters :=
      fun _ => String.toList_ofList
    rw [toList] at inHex
    exact List.mem_append_right _ (hexDigest.letters _ _ (List.mem_of_mem_take inHex))
  rw [text, Json.dumps, Json.quote_plain plain, HexDigest.eventIdFor, String.length_append, hex]
  rfl

theorem toolCall_length (ensureAscii : Bool) (version : Option Core.Text) (sequence : Nat) :
    (encoding.line ensureAscii (toolCall version sequence)).length = 293 + digits sequence +
      (Json.utf8 (Json.dumps ensureAscii (optional .str version))).length := by
  have slot : (Json.utf8 (Json.dumps ensureAscii ContentSlot.notProvided.modelDump)).length =
      30 := by
    cases ensureAscii <;> rfl
  have null : (Json.utf8 (Json.dumps ensureAscii (optional count none))).length = 4 := by
    cases ensureAscii <;> rfl
  have plain : ∀ {value : String},
      (value.toList.all fun letter => decide (Json.Plain letter)) = true →
        (Json.utf8 (Json.dumps ensureAscii (text value))).length = value.length + 2 := by
    intro value plain
    rw [text, Json.dumps, Json.quote_plain (Json.every plain)]
  have keys : "arguments".length = 9 ∧ "call_id".length = 7 ∧ "emitted_at".length = 10 ∧
      "event_id".length = 8 ∧ "kind".length = 4 ∧ "parent".length = 6 ∧ "sequence".length = 8 ∧
      "tool".length = 4 ∧ "trajectory_id".length = 13 ∧ "version".length = 7 := by decide
  have values : "call-1".length = 6 ∧ "search".length = 6 ∧ moment.length = 25 ∧
      "tool-call-started".length = 17 ∧ trajectoryId.length = 32 := by decide
  have isDump : (toolCall version sequence).modelDump (hexDigest.eventIdFor trajectoryId sequence) =
      .object [("arguments", ContentSlot.notProvided.modelDump), ("call_id", text "call-1"),
        ("emitted_at", text moment),
        ("event_id", text (hexDigest.eventIdFor trajectoryId sequence)),
        ("kind", text "tool-call-started"), ("parent", optional count none),
        ("sequence", count sequence), ("tool", text "search"),
        ("trajectory_id", text trajectoryId), ("version", optional .str version)] := rfl
  change (Json.utf8 (Json.dumps ensureAscii ((toolCall version sequence).modelDump
    (hexDigest.eventIdFor trajectoryId sequence)))).length = _
  rw [isDump, Json.object_length (by simp)]
  simp (disch := decide) only [List.flatMap_cons, List.flatMap_nil, List.append_nil,
    Json.utf8_append, List.length_append, List.length_cons, List.length_nil, Json.field_length,
    eventId_length, slot, null, plain, keys, values]
  rw [count, Json.dumps_nat, ← digits]
  omega

theorem headerSize_digits (index : Nat) :
    headerSize encoding.formats trajectoryId index = 147 + digits index := by
  have length : trajectoryId.length = 32 := by decide
  rw [encoding.headerSize_eq, Json.quote_plain (Json.every (by decide)), length]
  omega

theorem headerRoom_eq : headerRoom encoding.formats trajectoryId = 153 := headerSize_digits 999999

/-- A version as long as a chunk leaves room for. -/
def longVersion : Option Core.Text := some (Core.spell (List.replicate 3640 'v'))

theorem longVersion_isUnicode : longVersion.all isUnicode = true := by
  rw [longVersion, Option.all_some]
  exact isUnicode_spell _

theorem longVersion_length (ensureAscii : Bool) :
    (Json.utf8 (Json.dumps ensureAscii (optional .str longVersion))).length = 3642 := by
  have toList : (String.ofList (List.replicate 3640 'v')).toList = List.replicate 3640 'v' :=
    String.toList_ofList
  have spelled : Core.spell (List.replicate 3640 'v') =
      Json.points (String.ofList (List.replicate 3640 'v')) := by
    rw [Json.points, toList]
    rfl
  have plain : ∀ letter ∈ (String.ofList (List.replicate 3640 'v')).toList, Json.Plain letter := by
    intro letter member
    rw [toList] at member
    rw [List.eq_of_mem_replicate member]
    decide
  rw [longVersion, spelled, optional, Json.dumps, Json.quote_plain plain, ← String.length_toList,
    toList, List.length_replicate]

/-- A version of half a letter. -/
def loneSurrogate : Option Core.Text := some [⟨0xd800, by decide⟩]

/-- Behind one more call than there are chunks, the last event of the calls is the tail. -/
def Behind (allowed : TrajectoryWriter encoding.formats → RollingCall → Prop)
    (chunks : Nat) (version : Option Core.Text) : Prop :=
  ∃ writer state, Rolling encoding.formats tightOpening none allowed writer state ∧
    writer.secrets = [] ∧ writer.state = .opened ∧ writer.progress.chunks.length = chunks ∧
    writer.events.length = chunks + 1 ∧ writer.tail = [toolCall version chunks]

section Behind

variable {allowed : TrajectoryWriter encoding.formats → RollingCall → Prop}
  {writer : TrajectoryWriter encoding.formats}

theorem opens_tight : (TrajectoryWriter.open encoding.formats tightOpening ()).exec
    Directory.machine (fresh none) =
      (tightOpening.directory encoding.formats none, .ok (tightOpening.writer encoding.formats),
        ()) :=
  open_opens (by decide) (scanAll_nil _ _) (by decide)

/-- A call of a tool that fits is recorded. -/
theorem records_toolCall {version : Option Core.Text}
    (isOpened : writer.opened = tightOpening.openRecord) (noSecrets : writer.secrets = [])
    (isOpen : writer.state = .opened)
    (fits : (encoding.line true (toolCall version writer.events.length)).length ≤ 3942) :
    (RollingCall.record (callBody version) none emitted).Records writer
      (toolCall version writer.events.length) := by
  refine ⟨?_, isOpen, ?_, ?_, ?_⟩
  · rw [isOpened]
    exact makeEvent_toolCall _ _
  · rw [noSecrets]
    exact scanAll_nil _ _
  · rw [noSecrets]
    rfl
  · have maximum : tightOpening.openRecord.recording.maxBytes = 4096 := rfl
    rw [isOpened, maximum]
    change headerRoom encoding.formats trajectoryId + (closed (encoding.line true _)).length ≤ 4096
    rw [closed, List.length_append, List.length_singleton, headerRoom_eq]
    omega

/-- A call of a tool that fits is appended, behind a roll if the tail is full. -/
theorem records_call {state : Directory} {version : Option Core.Text}
    (run : Rolling encoding.formats tightOpening none allowed writer state)
    (noSecrets : writer.secrets = []) (isOpen : writer.state = .opened)
    (fits : (encoding.line true (toolCall version writer.events.length)).length ≤ 3942)
    (unicode : ∀ event ∈ writer.tail, event.isUnicode = true)
    (fine : allowed writer (.record (callBody version) none emitted)) :
    ∃ after later, Rolling encoding.formats tightOpening none allowed after later ∧
      (writer.full (closed (encoding.formats.eventLine (toolCall version writer.events.length))) =
          false ∧ after = writer.appended (toolCall version writer.events.length) ∨
        ∃ ref, RollsInto writer ref ∧
          after = (writer.rolledInto ref).appended (toolCall version writer.events.length)) := by
  obtain ⟨isOpened, budgeted⟩ := run.budgeted
  let event := toolCall version writer.events.length
  have recorded := records_toolCall isOpened noSecrets isOpen fits
  have only : ∀ other, (RollingCall.record (callBody version) none emitted).Records writer other →
      other = event := fun other others => Except.ok.inj (others.1.symm.trans recorded.1)
  let ends : Except Raised TrajectoryEvent → TrajectoryWriter encoding.formats → Directory → Prop :=
    fun _ after _ => writer.full (closed (encoding.formats.eventLine event)) = false ∧
        after = writer.appended event ∨
      ∃ ref, RollsInto writer ref ∧ after = (writer.rolledInto ref).appended event
  have records : (TrajectoryWriter.record (callBody version) none emitted).Keeps Directory.machine
      (fun _ => True) ends writer state := by
    refine record_rolls budgeted _ none emitted (fun error refused => absurd recorded (refused _))
      (fun broken => ?_) (fun other later others notFull _ => ?_)
      fun other ref later others _ into _ => ?_
    · obtain ⟨other, member, isFalse⟩ := broken
      rw [unicode other member] at isFalse
      cases isFalse
    · obtain rfl := only other others
      exact .inl ⟨notFull, rfl⟩
    · obtain rfl := only other others
      exact .inr ⟨ref, into, rfl⟩
  have keeps : (RollingCall.run (.record (callBody version) none emitted)).Keeps Directory.machine
      (fun _ => True) (fun _ after later => ends (.ok event) after later) writer state :=
    Keeps.bind records (fun _ _ _ holds => holds) (fun _ _ _ holds => holds)
  exact ⟨_, _, .called _ run fine rfl, Program.Keeps.exec keeps⟩

theorem behind_first {version : Option Core.Text}
    (fits : (encoding.line true (toolCall version 0)).length ≤ 3942)
    (fine : allowed (tightOpening.writer encoding.formats)
      (.record (callBody version) none emitted)) : Behind allowed 0 version := by
  have start : Rolling encoding.formats tightOpening none allowed _ _ := .opened opens_tight
  have noSecrets : (tightOpening.writer encoding.formats).secrets = [] := by decide
  obtain ⟨after, later, run, ⟨_, rfl⟩ | ⟨ref, into, rfl⟩⟩ :=
    records_call start noSecrets rfl fits (fun event member => nomatch member) fine
  · exact ⟨_, _, run, noSecrets, rfl, rfl, rfl, rfl⟩
  · cases ref with
    | none => exact ⟨_, _, run, noSecrets, rfl, rfl, rfl, rfl⟩
    | some ref => exact absurd rfl into.1

/-- A tail of one event is full. -/
theorem full_of_tail {event : TrajectoryEvent}
    (isOpened : writer.opened = tightOpening.openRecord) (isTail : writer.tail = [event])
    (line : Bytes) : writer.full line = true := by
  rw [TrajectoryWriter.full, decide_eq_true_iff, isTail, isOpened]
  exact ⟨List.cons_ne_nil _ _, .inl (Nat.le_refl 1)⟩

/-- Each further call rolls the tail of one event into a chunk. -/
theorem behind_next {chunks : Nat} {last version : Option Core.Text}
    (behind : Behind allowed chunks last) (unicode : last.all isUnicode = true)
    (fits : (encoding.line true (toolCall version (chunks + 1))).length ≤ 3942)
    (fine : ∀ writer, writer.opened = tightOpening.openRecord →
      writer.tail = [toolCall last chunks] → writer.progress.chunks.length = chunks →
      writer.events.length = chunks + 1 →
      allowed writer (.record (callBody version) none emitted)) :
    Behind allowed (chunks + 1) version := by
  obtain ⟨writer, state, run, noSecrets, isOpen, isChunks, isEvents, isTail⟩ := behind
  obtain ⟨isOpened, _⟩ := run.budgeted
  rw [← isEvents] at fits
  have tailUnicode : ∀ event ∈ writer.tail, event.isUnicode = true := by
    rw [isTail]
    intro event member
    rw [List.mem_singleton.mp member]
    exact toolCall_isUnicode unicode chunks
  obtain ⟨after, later, next, ⟨notFull, rfl⟩ | ⟨ref, into, rfl⟩⟩ :=
    records_call run noSecrets isOpen fits tailUnicode
      (fine writer isOpened isTail isChunks isEvents)
  · rw [full_of_tail isOpened isTail] at notFull
    cases notFull
  · cases ref with
    | none =>
        have empty : writer.tail = [] := into
        rw [isTail] at empty
        cases empty
    | some ref =>
        refine ⟨_, _, next, noSecrets, isOpen, ?_, ?_, ?_⟩
        · simp [TrajectoryWriter.appended, TrajectoryWriter.rolledInto, isChunks]
        · simp [TrajectoryWriter.appended, TrajectoryWriter.rolledInto, isEvents]
        · simp [TrajectoryWriter.appended, TrajectoryWriter.rolledInto, isEvents]

theorem short_length (sequence : Nat) :
    (encoding.line true (toolCall none sequence)).length = 297 + digits sequence := by
  have null : (Json.utf8 (Json.dumps true (optional .str none))).length = 4 := by
    rw [optional, Json.dumps]
    rfl
  rw [toolCall_length, null]
  omega

theorem behind_many (first : allowed (tightOpening.writer encoding.formats)
      (.record (callBody none) none emitted))
    (further : ∀ chunks writer, chunks < 9999999 → writer.opened = tightOpening.openRecord →
      writer.tail = [toolCall none chunks] → writer.progress.chunks.length = chunks →
      writer.events.length = chunks + 1 → allowed writer (.record (callBody none) none emitted))
    {chunks : Nat} (few : chunks < 10000000) : Behind allowed chunks none := by
  have short : ∀ {sequence}, sequence < 10000000 →
      (encoding.line true (toolCall none sequence)).length ≤ 3942 := by
    intro sequence small
    have seven : digits sequence ≤ 7 := digits_le (by decide) small
    rw [short_length]
    omega
  induction chunks with
  | zero => exact behind_first (short few) first
  | succ chunks ih =>
      exact behind_next (ih (by omega)) rfl (short few) fun writer =>
        further chunks writer (by omega)

/-- The call of a tool without a version leaves room in a chunk of its own. -/
theorem leavesRoom_short {chunks : Nat}
    (few : chunks < 9999999) (isOpened : writer.opened = tightOpening.openRecord)
    (isTail : writer.tail = [toolCall none chunks])
    (isChunks : writer.progress.chunks.length = chunks)
    (isEvents : writer.events.length = chunks + 1) :
    LeavesRoom writer (.record (callBody none) none emitted) := by
  intro event records _
  have made := records.1
  rw [isOpened, isEvents] at made
  obtain rfl := Except.ok.inj (made.symm.trans (makeEvent_toolCall none (chunks + 1)))
  have isFull := full_of_tail isOpened isTail
    (closed (encoding.formats.eventLine (toolCall none (chunks + 1))))
  have maximum : writer.opened.recording.maxBytes = 4096 := by
    rw [isOpened]
    rfl
  have isId : writer.opened.trajectoryId = trajectoryId := by
    rw [isOpened]
    rfl
  have seven : digits (chunks + 1) ≤ 7 := digits_le (by decide) (by omega)
  have short : (closed (encoding.formats.eventLine (toolCall none (chunks + 1)))).length =
      298 + digits (chunks + 1) := by
    change (closed (encoding.line true (toolCall none (chunks + 1)))).length = _
    rw [closed, List.length_append, List.length_singleton, short_length]
    omega
  rw [HasRoom, chunkNumber, spentBefore, isFull, if_pos rfl, if_pos rfl, isChunks, short, maximum,
    isId, headerRoom_eq]
  omega

end Behind

end Sample

/-- Short calls of a tool roll a chunk each, the millionth and the one behind it among them: all
are within their bounds. Two of the events read back from a chunk. -/
theorem chunks_read_back_within_bounds_short :
    (∃ writer state,
      Rolling Sample.encoding.formats Sample.tightOpening none LeavesRoom writer state ∧
        writer.progress.chunks.length = 1000001 ∧
        Chunked Sample.encoding.formats Sample.tightRecording writer state) ∧
    ∃ data, chunkBytes Sample.encoding.formats Sample.trajectoryId 0 none
        [Sample.toolCall none 0, Sample.toolCall Sample.longVersion 1] = .ok data ∧
      parseChunk Sample.encoding.formats data =
        some (⟨0, none, Sample.trajectoryId⟩,
          [Sample.toolCall none 0, Sample.toolCall Sample.longVersion 1]) := by
  constructor
  · have first : LeavesRoom (Sample.tightOpening.writer Sample.encoding.formats)
        (.record (Sample.callBody none) none Sample.emitted) := by
      intro event _ many
      have none_yet : (Sample.tightOpening.writer Sample.encoding.formats).chunkNumber
          (closed (Sample.encoding.formats.eventLine event)) = 0 := rfl
      rw [none_yet] at many
      omega
    obtain ⟨writer, state, run, _, _, isChunks, _, _⟩ :=
      Sample.behind_many first (fun chunks writer => Sample.leavesRoom_short)
        (show 1000001 < 10000000 by decide)
    exact ⟨writer, state, run, isChunks,
      (chunks_read_back_within_bounds Sample.encoding).2 _ _ _ _ run⟩
  · refine ((chunks_read_back_within_bounds Sample.encoding).1 _ _ _ _).mpr fun event member => ?_
    rcases List.mem_cons.mp member with rfl | member
    · exact Sample.toolCall_isUnicode rfl 0
    · rw [List.mem_singleton.mp member]
      exact Sample.toolCall_isUnicode Sample.longVersion_isUnicode 1

namespace Sample

/-- Behind a million chunks, a version that fills its chunk to the last byte is rolled into a chunk
that is a byte too large. -/
theorem chunk_overflows : ∃ writer state,
    Rolling encoding.formats tightOpening none (fun _ _ => True) writer state ∧
      ∃ ref ∈ writer.progress.chunks, tightRecording.maxBytes < ref.bytes := by
  have million : Behind (fun _ _ => True) 999999 none :=
    behind_many True.intro (fun _ _ _ _ _ _ _ => True.intro) (by decide)
  have seven : digits 1000000 = 7 := by decide
  have long : ∀ ensureAscii,
      (encoding.line ensureAscii (toolCall longVersion 1000000)).length = 3942 := by
    intro ensureAscii
    rw [toolCall_length, longVersion_length, seven]
  have filled : Behind (fun _ _ => True) 1000000 longVersion :=
    behind_next million rfl (le_of_eq (long true)) fun _ _ _ _ _ => True.intro
  obtain ⟨writer, state, run, _, _, isChunks, _, isTail⟩ := filled
  obtain ⟨isOpened, budgeted⟩ := run.budgeted
  obtain ⟨rolled, _, chain⟩ := budgeted.chain
  have rolls : (RollingCall.run (.roll .sealing)).Keeps Directory.machine (fun _ => True)
      (fun _ after later => ∃ ref, RollsInto writer ref ∧ after = writer.rolledInto ref) writer
        state := by
    refine rollTail_rolls budgeted .sealing (fun broken => ?_) fun ref _ into _ =>
      ⟨ref, into, rfl⟩
    obtain ⟨event, member, isFalse⟩ := broken
    rw [isTail, List.mem_singleton] at member
    rw [member, toolCall_isUnicode longVersion_isUnicode] at isFalse
    cases isFalse
  obtain ⟨ref, into, isAfter⟩ := Program.Keeps.exec rolls
  refine ⟨_, _, .called (.roll .sealing) run True.intro rfl, ?_⟩
  rw [isAfter]
  cases ref with
  | none =>
      have empty : writer.tail = [] := into
      rw [isTail] at empty
      cases empty
  | some ref =>
      refine ⟨ref, List.mem_append_right _ List.mem_cons_self, ?_⟩
      obtain ⟨last, isLast⟩ : ∃ last, writer.progress.chunks.getLast? = some last := by
        cases found : writer.progress.chunks.getLast? with
        | some last => exact ⟨last, rfl⟩
        | none =>
            rw [List.getLast?_eq_none_iff.mp found] at isChunks
            cases isChunks
      obtain ⟨before, isDigest⟩ := chain.previous_digest last.digest (by rw [isLast]; rfl)
      have isPrevious : writer.progress.chunks.getLast?.map ChunkRef.digest =
          some (encoding.sha256.digestOf before) := by
        rw [isLast]
        exact congrArg some isDigest
      have isId : writer.opened.trajectoryId = trajectoryId := by
        rw [isOpened]
        rfl
      obtain ⟨_, _, data, made, isBytes⟩ := into
      rw [isTail, isChunks, isId, isPrevious] at made
      obtain ⟨lines, each, rfl⟩ := (chunkBytes_ok_iff ..).mp made
      obtain ⟨line, rest, isLine, nothing, rfl⟩ := List.forall₂_cons_left_iff.mp each
      obtain rfl := List.forall₂_nil_left_iff.mp nothing
      obtain ⟨_, rfl⟩ := encoding.formats_chunkLine_ok_iff.mp isLine
      have header := encoding.header_eq 1000000 before trajectoryId
      have maximum : tightRecording.maxBytes = 4096 := rfl
      rw [isBytes, List.length_append, header, headerSize_digits, seven, maximum,
        List.flatMap_singleton, closed, List.length_append, long, List.length_singleton]
      omega

/-- A call with half a letter in its version is recorded, and no roll succeeds behind it. -/
theorem call_unwritten : ∃ writer state,
    Rolling encoding.formats tightOpening none (fun _ _ => True) writer state ∧
      writer.events = [toolCall loneSurrogate 0] ∧
      ∀ site, (rollTail site writer).exec Directory.machine state =
        (state, .error .unencodable, writer) := by
  have short : (encoding.line true (toolCall loneSurrogate 0)).length ≤ 3942 := by
    have escaped : (Json.utf8 (Json.dumps true (optional .str loneSurrogate))).length = 8 := rfl
    have one : digits 0 = 1 := by decide
    rw [toolCall_length, escaped, one]
    decide
  have first : Behind (fun _ _ => True) 0 loneSurrogate := behind_first short True.intro
  obtain ⟨writer, state, run, _, _, _, isEvents, isTail⟩ := first
  have budgeted := run.budgeted.2
  have broken : ∃ event ∈ writer.tail, event.isUnicode = false := by
    rw [isTail]
    exact ⟨_, List.mem_singleton_self _, by decide⟩
  refine ⟨writer, state, run, ?_, fun site => ?_⟩
  · obtain ⟨rolled, split, _⟩ := budgeted.chain
    rw [← split, isTail, List.length_append, List.length_singleton] at isEvents
    rw [← split, List.length_eq_zero_iff.mp (Nat.succ.inj isEvents), isTail]
    rfl
  · have raises : (rollTail site).Keeps Directory.machine (fun _ => True)
        (fun outcome after later =>
          (later, outcome, after) = (state, .error .unencodable, writer)) writer state := by
      refine rollTail_rolls budgeted site (fun _ => rfl) fun ref _ into _ => ?_
      cases ref with
      | none =>
          have empty : writer.tail = [] := into
          rw [isTail] at empty
          cases empty
      | some ref =>
          obtain ⟨_, _, data, made, _⟩ := into
          rw [chunkBytes_raises _ _ _ broken] at made
          cases made
    exact Program.Keeps.exec raises

end Sample

/-- A million calls of a tool make a million chunks, and the next one may make a chunk that is a
byte too large; and a call with a lone surrogate in its version is recorded, but never rolled. -/
theorem millionth_chunk_too_large :
    (¬ ∀ (encoding : Encoding) opening published writer state,
      Rolling encoding.formats opening published (fun _ _ => True) writer state →
        Chunked encoding.formats opening.recording writer state) ∧
    ∃ writer state,
      Rolling Sample.encoding.formats Sample.tightOpening none (fun _ _ => True) writer state ∧
        writer.events = [Sample.toolCall Sample.loneSurrogate 0] ∧
        ∀ site, (rollTail site writer).exec Directory.machine state =
          (state, .error .unencodable, writer) := by
  refine ⟨fun always => ?_, Sample.call_unwritten⟩
  obtain ⟨writer, state, run, ref, member, tooLarge⟩ := Sample.chunk_overflows
  have within := (always _ _ _ _ _ run).within ref member
  exact absurd within.bytes (Nat.not_le.mpr tooLarge)

end Xaytune.Trajectory
