import Xaytune.Trajectory.Recovery
import Xaytune.Trajectory.Reconcile

/-!
# What a writer keeps on disk

Between two calls of a writer its memory and its directory agree: the chunks its progress names
and the tail hold exactly the events it has recorded. Inside a call every crash leaves a
directory that reconciliation can seal with these events, and in `record` perhaps the one that
was being appended.
-/

namespace Xaytune.Trajectory

open Xaytune.Library Action TrajectoryWriter

variable {formats : Formats}

/-! ## Memory and disk -/

/-- Where a writer stands: open, with verified evidence staged, or with its result published. -/
def Phase (formats : Formats) (record : TrajectoryOpenRecord) (writer : TrajectoryWriter formats)
    (directory : Directory) : Prop :=
  match writer.state with
  | .opened => directory.location ≠ some .thisResult
  | .staged => directory.location ≠ some .thisResult ∧ ∃ staged result,
      writer.staged = some staged ∧
      Committed formats record.trajectoryId writer.events directory.files staged result
  | .committed => directory.location = some .thisResult ∧ ∃ staged result,
      writer.staged = some staged ∧
      Committed formats record.trajectoryId writer.events directory.files staged result
  | .complete | .contained | .released => False

/-- The writer's memory agrees with its directory. -/
structure Tracks (formats : Formats) (record : TrajectoryOpenRecord)
    (writer : TrajectoryWriter formats) (directory : Directory) (rolled : Nat) : Prop where
  opened : writer.opened = record
  owner : writer.progress.trajectoryId = record.trajectoryId
  openRecord : directory.files .openRecord = some (formats.openRecordBytes record)
  unsealed : directory.files .manifest = none
  onDisk : OnDisk formats record.trajectoryId writer.events directory.files writer.progress.chunks
    rolled rolled []
  tail : writer.tail = writer.events.drop rolled
  tailFile : directory.files .tail = some (tailBytes formats writer.tail)
  phase : Phase formats record writer directory

/-- A file beside the chunks, the progress and the tail does not matter to the events. -/
theorem OnDisk.put_beside {trajectoryId : AttemptId} {events : List TrajectoryEvent}
    {state : Directory} {refs : List ChunkRef} {rolled kept : Nat} {torn : Bytes}
    (onDisk : OnDisk formats trajectoryId events state.files refs rolled kept torn)
    {file : FileName} {data : Bytes} (noTail : FileName.tail ≠ file)
    (noProgress : FileName.progress ≠ file)
    (noChunk : ∀ index digest, FileName.chunk index digest ≠ file) :
    OnDisk formats trajectoryId events (state.put file data).files refs rolled kept torn := by
  refine ⟨onDisk.numbered, ?_, ?_, onDisk.within, ?_, onDisk.overlap, onDisk.tornPlain, ?_,
    onDisk.unicode⟩
  · rw [Directory.put_files_other _ _ noProgress]
    exact onDisk.progress
  · exact onDisk.chain.congr fun index digest =>
      Directory.put_files_other _ _ (noChunk index digest)
  · rw [Directory.put_files_other _ _ noTail]
    exact onDisk.tail
  · exact onDisk.addressed.put fun index digest same => absurd same.symm (noChunk index digest)

theorem tailBytes_append (events more : List TrajectoryEvent) :
    tailBytes formats (events ++ more) = tailBytes formats events ++ tailBytes formats more :=
  List.flatMap_append

/-- A line torn off by a crash stands behind the events. -/
theorem OnDisk.tear {trajectoryId : AttemptId} {events : List TrajectoryEvent} {state : Directory}
    {refs : List ChunkRef} {rolled : Nat} {written : Bytes}
    (onDisk : OnDisk formats trajectoryId events state.files refs rolled rolled [])
    (plain : newline ∉ written) :
    OnDisk formats trajectoryId events
      (state.put .tail ((state.files .tail).getD [] ++ written)).files refs rolled rolled
      written := by
  refine ⟨onDisk.numbered, ?_, ?_, onDisk.within, ?_, Nat.le_refl _, plain, ?_, onDisk.unicode⟩
  · rw [Directory.put_files_other _ _ (by simp)]
    exact onDisk.progress
  · exact onDisk.chain.congr fun index digest => Directory.put_files_other _ _ (by simp)
  · rw [Directory.put_files_same, onDisk.tail, List.append_nil]
    rfl
  · refine onDisk.addressed.put fun index digest same => ?_
    cases same

/-- A whole line appended is one more event. -/
theorem OnDisk.append {trajectoryId : AttemptId} {events : List TrajectoryEvent}
    {state : Directory} {refs : List ChunkRef} {rolled : Nat} {event : TrajectoryEvent}
    (onDisk : OnDisk formats trajectoryId events state.files refs rolled rolled [])
    (next : event.sequence = events.length) (unicode : event.isUnicode = true) :
    OnDisk formats trajectoryId (events ++ [event])
      (state.put .tail ((state.files .tail).getD [] ++ closed (formats.eventLine event))).files refs
      rolled rolled [] := by
  have within := onDisk.within
  refine ⟨onDisk.numbered.concat next, ?_, ?_, ?_, ?_, Nat.le_refl _, List.not_mem_nil, ?_, ?_⟩
  · rw [Directory.put_files_other _ _ (by simp)]
    exact onDisk.progress
  · rw [List.take_append_of_le_length within]
    exact onDisk.chain.congr fun index digest => Directory.put_files_other _ _ (by simp)
  · rw [List.length_append]
    exact within.trans (Nat.le_add_right _ _)
  · rw [Directory.put_files_same, onDisk.tail, List.drop_append_of_le_length within,
      tailBytes_append]
    simp [tailBytes]
  · refine onDisk.addressed.put fun index digest same => ?_
    cases same
  · intro other member
    rcases List.mem_append.mp member with earlier | new
    · exact onDisk.unicode other earlier
    · rwa [List.mem_singleton.mp new]

/-! ## What a crash leaves -/

/-- How many events are in the chunks that the progress names. -/
def Directory.rolled (formats : Formats) (directory : Directory) : Nat :=
  nextSequence (((directory.files .progress).bind formats.parseProgress).elim []
    TrajectoryProgress.chunks)

theorem OnDisk.rolled_eq {trajectoryId : AttemptId} {events : List TrajectoryEvent}
    {state : Directory} {refs : List ChunkRef} {rolled kept : Nat} {torn : Bytes}
    (onDisk : OnDisk formats trajectoryId events state.files refs rolled kept torn) :
    state.rolled formats = rolled := by
  have next := onDisk.chain.next
  rw [List.length_take_of_le onDisk.within] at next
  rw [Directory.rolled]
  rcases onDisk.progress with written | ⟨absent, rfl⟩
  · rw [written, Option.bind_some, formats.parse_progressBytes]
    exact next
  · rw [absent]
    exact next

/-- Reconciliation seals what is left of the events, the rolled ones among them. -/
def Recovers (formats : Formats) (record : TrajectoryOpenRecord) (events : List TrajectoryEvent)
    (directory : Directory) : Prop :=
  ∃ left, Retains record.trajectoryId (events.take (directory.rolled formats)) events left ∧
    Recoverable formats record left directory

namespace Recovers

variable {record : TrajectoryOpenRecord} {events : List TrajectoryEvent} {state : Directory}

theorem of_onDisk {refs : List ChunkRef} {rolled kept : Nat} {torn : Bytes}
    (opened : state.files .openRecord = some (formats.openRecordBytes record))
    (unsealed : state.files .manifest = none) (uncommitted : state.location ≠ some .thisResult)
    (onDisk : OnDisk formats record.trajectoryId events state.files refs rolled kept torn) :
    Recovers formats record events state := by
  have width : (events.take rolled).length = rolled := List.length_take_of_le onDisk.within
  have behind : NumberedFrom (events.take rolled).length (events.drop rolled) := by
    rw [width]
    exact onDisk.numbered.drop onDisk.within
  have retains : Retains record.trajectoryId (events.take rolled) (events.take rolled ++
      events.drop rolled) (continued record.trajectoryId (events.take rolled)
        (events.drop rolled) false).1 := continued_retains _ behind
  rw [List.take_append_drop] at retains
  refine ⟨_, ?_, .of_holds opened unsealed uncommitted ⟨_, _, _, _, _, onDisk, retains⟩⟩
  rw [onDisk.rolled_eq]
  exact retains

/-- Past the commit point all the events are left: their evidence verified. -/
theorem of_committed {staged : TrajectoryManifest formats.fingerprints} {result : Bytes}
    (opened : state.files .openRecord = some (formats.openRecordBytes record))
    (unsealed : state.files .manifest = none) (published : state.location = some .thisResult)
    (committed : Committed formats record.trajectoryId events state.files staged result) :
    Recovers formats record events state := by
  have verifies := committed.verifies
  rw [verifyTrajectory, committed.loads, committed.owned] at verifies
  simp only [List.append_eq_nil_iff] at verifies
  exact ⟨events, .of_sound (List.take_prefix _ _) verifies.1.1.1.1.1, opened,
    Or.inr (Or.inl ⟨unsealed, published, staged, result, committed⟩)⟩

end Recovers

namespace Tracks

variable {record : TrajectoryOpenRecord} {writer : TrajectoryWriter formats} {state : Directory}
  {rolled : Nat}

/-- Wherever the writer stands, reconciliation can seal its events. -/
theorem recovers (tracks : Tracks formats record writer state rolled) :
    Recovers formats record writer.events state := by
  have phase := tracks.phase
  unfold Phase at phase
  cases isState : writer.state with
  | opened =>
      rw [isState] at phase
      exact .of_onDisk tracks.openRecord tracks.unsealed phase tracks.onDisk
  | staged =>
      rw [isState] at phase
      exact .of_onDisk tracks.openRecord tracks.unsealed phase.1 tracks.onDisk
  | committed =>
      rw [isState] at phase
      obtain ⟨published, staged, result, _, committed⟩ := phase
      exact .of_committed tracks.openRecord tracks.unsealed published committed
  | complete | contained | released => rw [isState] at phase; exact phase.elim

/-- While the attempt is open, a file beside its events changes nothing. -/
theorem put_beside (tracks : Tracks formats record writer state rolled)
    (isOpen : writer.state = .opened) {file : FileName} {data : Bytes}
    (noTail : FileName.tail ≠ file) (noProgress : FileName.progress ≠ file)
    (noOpen : FileName.openRecord ≠ file) (noManifest : FileName.manifest ≠ file)
    (noChunk : ∀ index digest, FileName.chunk index digest ≠ file) :
    Tracks formats record writer (state.put file data) rolled := by
  have phase := tracks.phase
  unfold Phase at phase
  rw [isOpen] at phase
  refine ⟨tracks.opened, tracks.owner, ?_, ?_,
    tracks.onDisk.put_beside noTail noProgress noChunk, tracks.tail, ?_, ?_⟩
  · rw [Directory.put_files_other _ _ noOpen]
    exact tracks.openRecord
  · rw [Directory.put_files_other _ _ noManifest]
    exact tracks.unsealed
  · rw [Directory.put_files_other _ _ noTail]
    exact tracks.tailFile
  · unfold Phase
    rw [isOpen]
    exact phase

end Tracks

section Calls

variable {record : TrajectoryOpenRecord} {writer : TrajectoryWriter formats} {state : Directory}
  {rolled : Nat} {safe : Directory → Prop}

theorem keeps_writeNew_any {σ : Type} {memory : σ} {file : FileName} {data : Bytes}
    {post : Except Raised Bool → σ → Directory → Prop} (here : safe state)
    (written : ∀ created, post (.ok created) memory (state.put file data))
    (conflict : post (.error .storeConflict) memory state) :
    (ask (.writeNew file data)).Keeps Directory.machine safe post memory state := by
  refine (keeps_atomic (.writeNew file data) fun _ torn => nomatch torn).mpr ⟨here, ?_⟩
  rw [Directory.perform]
  cases there : state.files file with
  | none => exact written true
  | some found =>
      by_cases same : found = data
      · subst same
        simp only [if_true]
        rw [← Directory.put_eq_self there]
        exact written false
      · simp only [if_neg same]
        exact conflict

/-- A recording error raised before the attempt is touched leaves everything as it was. -/
theorem requireOpen_keeps {post : Except Raised Unit → TrajectoryWriter formats → Directory → Prop}
    (fine : writer.state = .opened → post (.ok ()) writer state)
    (refused : writer.state ≠ .opened → ∀ error, post (.error error) writer state) :
    (requireOpen : Method formats Unit).Keeps Directory.machine safe post writer state := by
  refine keeps_bind.mpr (keeps_get.mpr ?_)
  dsimp only
  by_cases isOpen : writer.state = .opened
  · rw [if_neg (not_not_intro isOpen)]
    exact fine isOpen
  · rw [if_pos isOpen]
    exact refused isOpen _

theorem refused_keeps {σ α : Type} {memory : σ} {reason : String} {error : Raised}
    {post : Except Raised α → σ → Directory → Prop}
    (holds : ∀ raised, post (.error raised) memory state) :
    (refused reason error).Keeps Directory.machine safe post memory state := by
  unfold refused
  split
  · exact holds _
  · exact holds _

/-- A roll moves the tail's events into a chunk, and every crash inside it keeps them. -/
theorem rollTail_keeps (collisionFree : Function.Injective formats.digestOf)
    (tracks : Tracks formats record writer state rolled) (isOpen : writer.state = .opened)
    {site : Site} {post : Except Raised Unit → TrajectoryWriter formats → Directory → Prop}
    (weaker : ∀ later, Recovers formats record writer.events later → safe later)
    (done : ∀ later refs,
      Tracks formats record { writer with
        progress := ⟨writer.progress.trajectoryId, refs⟩, tail := [], tailBytes := 0 } later
        writer.events.length →
      post (.ok ()) { writer with
        progress := ⟨writer.progress.trajectoryId, refs⟩, tail := [], tailBytes := 0 } later) :
    (rollTail site).Keeps Directory.machine safe post writer state := by
  have phase := tracks.phase
  unfold Phase at phase
  rw [isOpen] at phase
  have beside : ∀ later, Beside state later → ∀ {refs rolled kept torn},
      OnDisk formats record.trajectoryId writer.events later.files refs rolled kept torn →
        safe later :=
    fun later same _ _ _ _ held => weaker later (.of_onDisk
      (same.openRecord.trans tracks.openRecord) (same.manifest.trans tracks.unsealed)
      (same.location ▸ phase) held)
  let rolledUp : Except Raised Unit → TrajectoryWriter formats → Directory → Prop :=
    fun outcome after later => outcome = .ok () ∧ ∃ refs,
      after = { writer with progress := ⟨writer.progress.trajectoryId, refs⟩ } ∧
      Beside state later ∧ later.files .tail = some [] ∧
      OnDisk formats record.trajectoryId writer.events later.files refs writer.events.length
        writer.events.length []
  have rolls : (do
      let writer ← get
      let progress ← roll formats writer.opened.trajectoryId writer.progress writer.tail
      modify fun writer => { writer with progress := progress }
      ask (.truncateDurably .tail site) : Method formats Unit).Keeps Directory.machine safe rolledUp
        writer state := by
    refine keeps_bind.mpr (keeps_get.mpr ?_)
    have isTail : writer.tail = (writer.events.take writer.events.length).drop rolled := by
      rw [List.take_length]
      exact tracks.tail
    have isProgress : writer.progress = ⟨record.trajectoryId, writer.progress.chunks⟩ := by
      rw [← tracks.owner]
    dsimp only
    rw [tracks.opened, isTail, isProgress]
    refine keeps_bind.mpr (roll_onDisk_keeps collisionFree tracks.onDisk tracks.onDisk.within
      (Nat.le_refl _) (weaker _ tracks.recovers) ?_ ?_)
    · exact fun later same held => beside later same held
    · intro later refs same tailSame held
      refine keeps_bind.mpr (keeps_modify.mpr ?_)
      have there : later.files .tail = some (tailBytes formats writer.tail) :=
        tailSame.trans tracks.tailFile
      refine (keeps_truncateDurably there).mpr ⟨beside later same held, rfl, refs, ?_,
        ⟨?_, ?_, same.location⟩, Directory.put_files_same .., ?_⟩
      · rw [tracks.owner]
      · rw [Directory.put_files_other _ _ (by simp)]
        exact same.openRecord
      · rw [Directory.put_files_other _ _ (by simp)]
        exact same.manifest
      · have cleared := held.clear
        rwa [List.take_length] at cleared
  refine Keeps.bind (Keeps.tryCatch rolls (fun _ _ _ holds => holds) ?_) ?_ ?_
  · rintro _ _ _ ⟨impossible, _⟩
    cases impossible
  · rintro _ _ later ⟨_, refs, rfl, same, emptied, held⟩
    refine keeps_modify.mpr (done later refs ?_)
    refine ⟨tracks.opened, tracks.owner, same.openRecord.trans tracks.openRecord,
      same.manifest.trans tracks.unsealed, held, ?_, emptied, ?_⟩
    · exact (List.drop_length ..).symm
    · unfold Phase
      dsimp only
      rw [isOpen]
      exact same.location ▸ phase
  · rintro _ _ _ ⟨impossible, _⟩
    cases impossible

/-- Every event is made of its fields. -/
theorem makeEvent_self (event : TrajectoryEvent) :
    makeEvent event.trajectoryId event.sequence event.parent event.emittedAt event.body =
      .ok event := by
  unfold makeEvent
  rw [dif_pos event.coherent, dif_pos event.earlier, dif_pos event.first]

theorem makeEvent_ok {trajectoryId : AttemptId} {sequence : Nat} {parent : Option Nat}
    {emittedAt : Option Core.Text} {body : EventBody} {event : TrajectoryEvent}
    (made : makeEvent trajectoryId sequence parent emittedAt body = .ok event) :
    event.trajectoryId = trajectoryId ∧ event.sequence = sequence ∧ event.parent = parent ∧
      event.emittedAt = emittedAt ∧ event.body = body := by
  unfold makeEvent at made
  split_ifs at made
  cases made
  exact ⟨rfl, rfl, rfl, rfl, rfl⟩

/-- What a crash inside `record` may leave: the events recorded so far, and perhaps the one being
appended. -/
def Appending (formats : Formats) (record : TrajectoryOpenRecord) (events : List TrajectoryEvent)
    (event : Except Raised TrajectoryEvent) (directory : Directory) : Prop :=
  ∃ extra, Recovers formats record (events ++ extra) directory ∧
    (extra = [] ∨ ∃ appended, event = .ok appended ∧ extra = [appended])

theorem Appending.of_recovers {events : List TrajectoryEvent}
    {event : Except Raised TrajectoryEvent}
    (recovers : Recovers formats record events state) :
    Appending formats record events event state :=
  ⟨[], by rwa [List.append_nil], Or.inl rfl⟩

/-- The append of a line: torn, it stands behind the events; whole, it is one of them. -/
theorem appendEvent_keeps {event : TrajectoryEvent}
    {post : Except Raised TrajectoryEvent → TrajectoryWriter formats → Directory → Prop}
    (tracks : Tracks formats record writer state rolled) (isOpen : writer.state = .opened)
    (next : event.sequence = writer.events.length) (unicode : event.isUnicode = true)
    (done : ∀ after later, Tracks formats record after later rolled →
      after.events = writer.events ++ [event] → post (.ok event) after later) :
    (appendEvent event).Keeps Directory.machine
      (Appending formats record writer.events (.ok event)) post writer state := by
  have phase := tracks.phase
  unfold Phase at phase
  rw [isOpen] at phase
  let appended : Except Raised Unit → TrajectoryWriter formats → Directory → Prop :=
    fun outcome unchanged later => outcome = .ok () ∧ unchanged = writer ∧
      later = state.put .tail
        ((state.files .tail).getD [] ++ closed (formats.eventLine event))
  have appends : (ask (.appendDurably .tail (closed (formats.eventLine event)))).Keeps
      Directory.machine (Appending formats record writer.events (.ok event)) appended writer
        state := by
    refine keeps_appendDurably.mpr ⟨.of_recovers tracks.recovers, ?_, rfl, rfl, rfl⟩
    intro written some_of
    have other : ∀ file, file ≠ FileName.tail → (state.put .tail
        ((state.files .tail).getD [] ++ written)).files file = state.files file :=
      fun file different => Directory.put_files_other _ _ different
    rcases List.prefix_concat_iff.mp some_of with whole | torn
    · subst whole
      exact ⟨[event], .of_onDisk ((other _ (by simp)).trans tracks.openRecord)
        ((other _ (by simp)).trans tracks.unsealed) phase (tracks.onDisk.append next unicode),
        Or.inr ⟨event, rfl, rfl⟩⟩
    · have plain : newline ∉ written := fun member =>
        formats.newline_notMem_eventLine event (torn.subset member)
      exact .of_recovers (.of_onDisk ((other _ (by simp)).trans tracks.openRecord)
        ((other _ (by simp)).trans tracks.unsealed) phase (tracks.onDisk.tear plain))
  refine Keeps.bind (Keeps.tryCatch appends (fun _ _ _ holds => holds) ?_) ?_ ?_
  · rintro _ _ _ ⟨impossible, _⟩
    cases impossible
  · rintro _ _ _ ⟨_, rfl, rfl⟩
    refine keeps_bind.mpr (keeps_modify.mpr (keeps_pure.mpr (done _ _ ?_ rfl)))
    refine ⟨tracks.opened, tracks.owner, ?_, ?_, tracks.onDisk.append next unicode, ?_, ?_, ?_⟩
    · rw [Directory.put_files_other _ _ (by simp)]
      exact tracks.openRecord
    · rw [Directory.put_files_other _ _ (by simp)]
      exact tracks.unsealed
    · rw [List.drop_append_of_le_length tracks.onDisk.within, tracks.tail]
    · rw [Directory.put_files_same, tracks.tailFile, tailBytes_append]
      simp [tailBytes]
    · unfold Phase
      dsimp only
      rw [isOpen]
      exact phase
  · rintro _ _ _ ⟨impossible, _⟩
    cases impossible

/-- The event a call of `record` returned, if it did. -/
def returned : Except Raised TrajectoryEvent → List TrajectoryEvent
  | .ok event => [event]
  | .error _ => []

/-- `record` adds the event it returns, and nothing if it raises. -/
theorem record_keeps (collisionFree : Function.Injective formats.digestOf)
    (tracks : Tracks formats record writer state rolled) (body : EventBody) (parent : Option Nat)
    (now : Core.Text) (unicode : (now :: body.texts).all isUnicode = true) :
    (TrajectoryWriter.record body parent now).Keeps Directory.machine
      (Appending formats record writer.events
        (makeEvent record.trajectoryId writer.events.length parent (some now) body))
      (fun outcome after later => ((∃ count, Tracks formats record after later count) ∧
        after.events = writer.events ++ returned outcome) ∧ ∀ event, outcome = .ok event →
          makeEvent record.trajectoryId writer.events.length parent (some now) body = .ok event)
      writer state := by
  have unchanged : ∀ error : Raised, ((∃ count, Tracks formats record writer state count) ∧
      writer.events = writer.events ++ returned (.error error)) ∧
        ∀ event, Except.error error = Except.ok event →
          makeEvent record.trajectoryId writer.events.length parent (some now) body = .ok event :=
    fun error => ⟨⟨⟨rolled, tracks⟩, (List.append_nil _).symm⟩, fun _ failed => nomatch failed⟩
  refine keeps_bind.mpr (requireOpen_keeps (fun isOpen => ?_) fun _ error => unchanged error)
  refine keeps_bind.mpr (keeps_get.mpr ?_)
  dsimp only
  rw [tracks.opened]
  refine keeps_bind.mpr (keeps_ofExcept.mpr ?_)
  cases made : makeEvent record.trajectoryId writer.events.length parent (some now) body with
  | error error =>
      rw [made] at unchanged
      exact unchanged error
  | ok event =>
  rw [made] at unchanged
  refine keeps_bind.mpr (keeps_ofExcept.mpr ?_)
  cases scanAll writer.secrets (formats.eventStrings event) s!"the {event.kind.text} event" with
  | error error => exact unchanged error
  | ok _ =>
  refine keeps_bind.mpr (keeps_ofExcept.mpr ?_)
  cases scanLine writer.secrets (closed (formats.eventLine event))
      s!"the {event.kind.text} event" with
  | error error => exact unchanged error
  | ok _ =>
  obtain ⟨_, next, _, isNow, isBody⟩ := makeEvent_ok made
  have encodes : event.isUnicode = true := by
    rw [TrajectoryEvent.isUnicode, isNow, isBody]
    exact unicode
  dsimp only
  split
  · exact unchanged _
  split
  · refine keeps_bind.mpr (rollTail_keeps collisionFree tracks isOpen
      (fun _ recovers => .of_recovers recovers) fun later refs rolledUp => ?_)
    exact appendEvent_keeps rolledUp isOpen next encodes fun after final final_tracks events =>
      ⟨⟨⟨_, final_tracks⟩, events⟩, fun _ => id⟩
  · exact appendEvent_keeps tracks isOpen next encodes fun after final final_tracks events =>
      ⟨⟨⟨_, final_tracks⟩, events⟩, fun _ => id⟩

/-- `content` writes at most a blob. -/
theorem content_keeps (tracks : Tracks formats record writer state rolled)
    (text role mediaType : String) (sensitive : Bool) :
    (TrajectoryWriter.content text role mediaType sensitive).Keeps Directory.machine
      (Recovers formats record writer.events)
      (fun _ after later => after = writer ∧ Tracks formats record writer later rolled)
      writer state := by
  refine keeps_bind.mpr (requireOpen_keeps (fun isOpen => ?_) fun _ _ => ⟨rfl, tracks⟩)
  refine keeps_bind.mpr (keeps_get.mpr (keeps_bind.mpr (keeps_ofExcept.mpr ?_)))
  cases scanContent formats writer.secrets text role mediaType with
  | error _ => exact ⟨rfl, tracks⟩
  | ok _ =>
  dsimp only
  cases writer.redactor.bind (fun redactor => redactor.ruleFor role text) with
  | some rule => exact ⟨rfl, tracks⟩
  | none =>
      let kept : Except Raised Bool → TrajectoryWriter formats → Directory → Prop :=
        fun _ after later => after = writer ∧ Tracks formats record writer later rolled
      have writes : (ask (.writeNew (.blob (if sensitive then .restricted else .ordinary)
          (formats.digestOf (encode text))) (encode text))).Keeps Directory.machine
            (Recovers formats record writer.events) kept writer state :=
        keeps_writeNew_any tracks.recovers
          (fun _ => ⟨rfl, tracks.put_beside isOpen (by simp) (by simp) (by simp) (by simp)
            (by simp)⟩) ⟨rfl, tracks⟩
      refine Keeps.bind (Keeps.tryCatch writes (fun _ _ _ holds => holds)
        fun _ _ _ holds => refused_keeps fun _ => holds) (fun _ _ _ holds => holds)
        (fun _ _ _ holds => holds)

theorem checkResult_ok {resultBytes : Bytes} {digest : Digest}
    (checked : checkResult writer resultBytes = .ok digest) :
    digest = formats.digestOf resultBytes := by
  unfold checkResult at checked
  split at checked
  · cases checked
  · split at checked
    · cases checked
    · rename_i named
      rw [not_not.mp named] at checked
      cases scanned : scanResult formats writer.secrets resultBytes with
      | error _ =>
          rw [scanned] at checked
          cases checked
      | ok _ =>
          rw [scanned] at checked
          exact (Except.ok.inj checked).symm

/-- Staging writes the result and the manifest that attests it. -/
theorem writeStaged_keeps (tracks : Tracks formats record writer state rolled)
    (isOpen : writer.state = .opened) (resultBytes : Bytes) (digest : Digest) (now : String)
    {post : Except Raised (TrajectoryManifest formats.fingerprints) → TrajectoryWriter formats →
      Directory → Prop}
    (weaker : ∀ later, Recovers formats record writer.events later → safe later)
    (fails : ∀ error later, Tracks formats record writer later rolled →
      post (.error error) writer later)
    (done : ∀ later staged, Tracks formats record writer later rolled →
      later.files .result = some resultBytes →
      later.files .staged = some (formats.manifestBytes staged) →
      staged.trajectoryId = record.trajectoryId →
      staged.chunks = writer.progress.chunks → staged.resultDigest = some digest →
      post (.ok staged) writer later) :
    (writeStaged resultBytes digest now).Keeps Directory.machine safe post writer state := by
  let written : Except Raised (TrajectoryManifest formats.fingerprints) → TrajectoryWriter formats →
      Directory → Prop := fun outcome after later => after = writer ∧
    Tracks formats record writer later rolled ∧ match outcome with
      | .ok staged => later.files .result = some resultBytes ∧
          later.files .staged = some (formats.manifestBytes staged) ∧
          staged.trajectoryId = record.trajectoryId ∧
          staged.chunks = writer.progress.chunks ∧ staged.resultDigest = some digest
      | .error _ => True
  have writes : (do
      let _ ← ask (.writeNew .result resultBytes)
      let writer ← get
      let body ← Act.ofExcept (manifestBody writer.opened writer.progress.chunks writer.events
        { completeness := .complete, resultDigest := some digest } now)
      let staged := body.seal formats.fingerprints
      let _ ← ask (.writeNew .staged (formats.manifestBytes staged))
      pure staged : Method formats _).Keeps Directory.machine safe written writer state := by
    refine keeps_bind.mpr (keeps_writeNew_any (weaker _ tracks.recovers) (fun _ => ?_)
      ⟨rfl, tracks, trivial⟩)
    have withResult : Tracks formats record writer (state.put .result resultBytes) rolled :=
      tracks.put_beside isOpen (by simp) (by simp) (by simp) (by simp) (by simp)
    refine keeps_bind.mpr (keeps_get.mpr (keeps_bind.mpr (keeps_ofExcept.mpr ?_)))
    cases made : manifestBody writer.opened writer.progress.chunks writer.events
        { completeness := .complete, resultDigest := some digest } now with
    | error _ => exact ⟨rfl, withResult, trivial⟩
    | ok body =>
        obtain ⟨isId, isChunks, isDigest⟩ := manifestBody_fields made
        refine keeps_bind.mpr (keeps_writeNew_any (weaker _ withResult.recovers) (fun _ => ?_)
          ⟨rfl, withResult, trivial⟩)
        refine ⟨rfl, withResult.put_beside isOpen (by simp) (by simp) (by simp) (by simp) (by simp),
          ?_, Directory.put_files_same .., ?_, isChunks, isDigest⟩
        · rw [Directory.put_files_other _ _ (by simp)]
          exact Directory.put_files_same ..
        · rw [← tracks.opened]
          exact isId
  refine Keeps.tryCatch writes ?_ ?_
  · rintro staged _ later ⟨rfl, after, result, stagedFile, isId, isChunks, isDigest⟩
    exact done later staged after result stagedFile isId isChunks isDigest
  · rintro error _ later ⟨rfl, after, _⟩
    exact refused_keeps fun raised => fails raised later after

/-- `stage` ends with verified evidence staged, or raises and leaves the attempt open. -/
theorem stage_keeps (collisionFree : Function.Injective formats.digestOf)
    (tracks : Tracks formats record writer state rolled) (resultBytes : Bytes) (now : String) :
    (stage resultBytes now).Keeps Directory.machine (Recovers formats record writer.events)
      (fun _ after later => (∃ count, Tracks formats record after later count) ∧
        after.events = writer.events) writer state := by
  obtain rfl := tracks.opened
  refine keeps_bind.mpr (requireOpen_keeps (fun isOpen => ?_) fun _ _ => ⟨⟨_, tracks⟩, rfl⟩)
  refine keeps_bind.mpr (keeps_get.mpr (keeps_bind.mpr (keeps_ofExcept.mpr ?_)))
  cases checked : checkResult writer resultBytes with
  | error _ => exact ⟨⟨_, tracks⟩, rfl⟩
  | ok digest =>
  refine keeps_bind.mpr (rollTail_keeps collisionFree tracks isOpen (fun _ => id)
    fun rolledState refs rolledUp => ?_)
  refine keeps_bind.mpr (writeStaged_keeps rolledUp isOpen resultBytes digest now (fun _ => id)
    (fun _ _ after => ⟨⟨_, after⟩, rfl⟩)
    fun later staged after result stagedFile isId isChunks isDigest => ?_)
  refine keeps_bind.mpr (keeps_get.mpr (keeps_bind.mpr (verified_keeps after.recovers ?_)))
  dsimp only
  by_cases verifies : verifyTrajectory formats later.files writer.opened.trajectoryId staged = []
  · rw [if_neg (not_not_intro verifies)]
    refine keeps_bind.mpr (keeps_modify.mpr (keeps_pure.mpr ⟨⟨writer.events.length, ?_⟩, rfl⟩))
    have chain := after.onDisk.chain
    have phase := after.phase
    unfold Phase at phase
    dsimp only at phase chain
    rw [isOpen] at phase
    rw [List.take_length] at chain
    have committed : Committed formats writer.opened.trajectoryId writer.events later.files staged
        resultBytes := by
      refine ⟨isId, stagedFile, result, ?_, verifies, ?_⟩
      · rw [isDigest, checkResult_ok checked]
      · rw [isId, isChunks]
        exact chain.load after.onDisk.numbered
    exact ⟨after.opened, after.owner, after.openRecord, after.unsealed, after.onDisk, after.tail,
      after.tailFile, phase, staged, resultBytes, rfl, committed⟩
  · rw [if_pos verifies]
    exact ⟨⟨_, after⟩, rfl⟩

/-- `commit` publishes the staged result where nothing is published yet. -/
theorem commit_keeps (tracks : Tracks formats record writer state rolled) :
    (commit : Method formats Bool).Keeps Directory.machine (Recovers formats record writer.events)
      (fun _ after later => (∃ count, Tracks formats record after later count) ∧
        after.events = writer.events) writer state := by
  refine keeps_bind.mpr (keeps_get.mpr ?_)
  dsimp only
  by_cases isStaged : writer.state = .staged
  · rw [if_neg (not_not_intro isStaged)]
    have phase := tracks.phase
    unfold Phase at phase
    rw [isStaged] at phase
    obtain ⟨unpublished, staged, result, isWriter, committed⟩ := phase
    let linked : Except Raised Bool → TrajectoryWriter formats → Directory → Prop :=
      fun outcome after later => after = writer ∧ ((outcome = .ok false ∧ later = state) ∨
        (outcome = .ok true ∧ later = { state with location := some .thisResult }))
    have links : (ask .linkResult).Keeps Directory.machine
        (Recovers formats record writer.events) linked writer state := by
      refine (keeps_atomic .linkResult fun _ torn => nomatch torn).mpr ⟨tracks.recovers, ?_⟩
      rw [Directory.perform]
      cases state.location with
      | some _ => exact ⟨rfl, Or.inl ⟨rfl, rfl⟩⟩
      | none =>
          rw [committed.resultFile]
          exact ⟨rfl, Or.inr ⟨rfl, rfl⟩⟩
    refine Keeps.bind (Keeps.tryCatch links (fun _ _ _ holds => holds) ?_) ?_ ?_
    · rintro _ _ _ ⟨_, ⟨impossible, _⟩ | ⟨impossible, _⟩⟩
      · cases impossible
      · cases impossible
    · rintro _ _ later ⟨rfl, ⟨isFalse, rfl⟩ | ⟨isTrue, rfl⟩⟩
      · cases isFalse
        exact ⟨⟨_, tracks⟩, rfl⟩
      · cases isTrue
        refine keeps_bind.mpr (keeps_modify.mpr (keeps_pure.mpr ⟨⟨rolled, ?_⟩, rfl⟩))
        exact ⟨tracks.opened, tracks.owner, tracks.openRecord, tracks.unsealed, tracks.onDisk,
          tracks.tail, tracks.tailFile, rfl, staged, result, isWriter, committed⟩
    · rintro _ _ _ ⟨_, ⟨impossible, _⟩ | ⟨impossible, _⟩⟩
      · cases impossible
      · cases impossible
  · rw [if_pos isStaged]
    exact ⟨⟨_, tracks⟩, rfl⟩

end Calls

/-! ## Opening -/

/-- A directory in which an attempt has written nothing; something may be published already. -/
def fresh (published : Option Bytes) : Directory where
  files := fun _ => none
  location := published.map .another
  lock := .missing

section Opening

variable {σ : Type} {memory : σ} {published : Option Bytes} {opening : Opening}

/-- What a crash while an attempt is opened may leave: no open record yet, or an empty attempt. -/
def Opened (formats : Formats) (record : TrajectoryOpenRecord) (directory : Directory) : Prop :=
  directory.files .openRecord ≠ none → Recovers formats record [] directory

theorem onDisk_nil {trajectoryId : AttemptId} {view : View} (noProgress : view .progress = none)
    (emptyTail : (view .tail).getD [] = [])
    (noChunk : ∀ index digest, view (.chunk index digest) = none) :
    OnDisk formats trajectoryId [] view [] 0 0 [] := by
  refine ⟨rfl, Or.inr ⟨noProgress, rfl⟩, .nil, Nat.le_refl _, emptyTail, Nat.le_refl _,
    List.not_mem_nil, ?_, fun event member => absurd member List.not_mem_nil⟩
  intro index digest data there
  rw [noChunk] at there
  cases there

/-- An attempt is opened with nothing recorded. -/
theorem open_keeps :
    (TrajectoryWriter.open formats opening).Keeps Directory.machine
      (Opened formats opening.openRecord)
      (fun outcome _ later => match outcome with
        | .ok writer => Tracks formats opening.openRecord writer later 0 ∧ writer.events = []
        | .error _ => Opened formats opening.openRecord later) memory (fresh published) := by
  have unpublished : published.map Location.another ≠ some .thisResult := by
    cases published <;> simp
  have blank : ∀ lock, Opened formats opening.openRecord { fresh published with lock := lock } :=
    fun _ present => absurd rfl present
  have creates : (createAttempt : Act σ Unit).Keeps Directory.machine
      (Opened formats opening.openRecord)
      (fun outcome same later => outcome = .ok () ∧ same = memory ∧ later = fresh published) memory
      (fresh published) := by
    refine keeps_bind.mpr ((keeps_atomic (.makeDirectory .attempt) fun _ torn => nomatch torn).mpr
      ⟨blank _, ?_⟩)
    refine keeps_bind.mpr ((keeps_atomic (.makeDirectory .chunks) fun _ torn => nomatch torn).mpr
      ⟨blank _, ?_⟩)
    refine keeps_bind.mpr ((keeps_atomic (.makeDirectory .blobs) fun _ torn => nomatch torn).mpr
      ⟨blank _, ?_⟩)
    refine keeps_bind.mpr ((keeps_atomic (.makeDirectory .ordinaryBlobs)
      fun _ torn => nomatch torn).mpr ⟨blank _, ?_⟩)
    exact (keeps_atomic (.makeDirectory .restrictedBlobs) fun _ torn => nomatch torn).mpr
      ⟨blank _, rfl, rfl, rfl⟩
  let mine : Directory := { fresh published with lock := .mine }
  let withRecord : Directory :=
    mine.put .openRecord (formats.openRecordBytes opening.openRecord)
  let ready : Directory := withRecord.put .tail []
  have empty : Recovers formats opening.openRecord [] withRecord :=
    .of_onDisk rfl rfl unpublished (onDisk_nil rfl rfl fun _ _ => rfl)
  let written : Except Raised Unit → σ → Directory → Prop := fun outcome _ later =>
    (outcome = .ok () ∧ later = ready) ∨
      (∃ error, outcome = .error error) ∧ ∃ lock, later = { fresh published with lock := lock }
  have writes : (persist formats opening : Act σ Unit).Keeps Directory.machine
      (Opened formats opening.openRecord) written memory mine := by
    refine keeps_bind.mpr (keeps_ofExcept.mpr ?_)
    cases scanAll opening.frozen (formats.openRecordStrings opening.openRecord)
        "the open record" with
    | error error => exact Or.inr ⟨⟨error, rfl⟩, .mine, rfl⟩
    | ok _ =>
        by_cases broken : ¬ opening.attribution.texts.all isUnicode
        · rw [if_pos broken]
          exact Or.inr ⟨⟨_, rfl⟩, .mine, rfl⟩
        rw [if_neg broken]
        have absent : ∀ found, mine.files .openRecord = some found →
            found = formats.openRecordBytes opening.openRecord := fun _ there => nomatch there
        refine keeps_bind.mpr ((keeps_writeNew absent).mpr ⟨blank _, ?_⟩)
        exact (keeps_atomic (.createDurably .tail) fun _ torn => nomatch torn).mpr
          ⟨fun _ => empty, Or.inl ⟨rfl, rfl⟩⟩
  refine keeps_bind.mpr (keeps_ofExcept.mpr ?_)
  cases opening.check with
  | error _ => exact blank _
  | ok _ =>
  refine Keeps.bind creates ?_ fun _ _ _ failed => nomatch failed.1
  rintro _ _ _ ⟨_, rfl, rfl⟩
  refine keeps_bind.mpr ((keeps_atomic .openLock fun _ torn => nomatch torn).mpr ⟨blank _, ?_⟩)
  refine keeps_bind.mpr ((keeps_atomic .flock fun _ torn => nomatch torn).mpr ⟨blank _, ?_⟩)
  refine Keeps.bind (Keeps.tryCatch writes (fun _ _ _ holds => holds) ?_) ?_ ?_
  · rintro error _ _ (⟨impossible, _⟩ | ⟨_, lock, rfl⟩)
    · cases impossible
    · refine keeps_bind.mpr ((keeps_atomic .unlock fun _ torn => nomatch torn).mpr ⟨blank _, ?_⟩)
      obtain ⟨later, unlocks⟩ := Directory.perform_unlock { fresh published with lock := lock }
      rw [unlocks]
      exact Or.inr ⟨⟨error, rfl⟩, later, rfl⟩
  · rintro _ _ _ (⟨_, rfl⟩ | ⟨⟨_, impossible⟩, _⟩)
    · exact keeps_pure.mpr ⟨⟨rfl, rfl, rfl, rfl, onDisk_nil rfl rfl fun _ _ => rfl, rfl, rfl,
        unpublished⟩, rfl⟩
    · cases impossible
  · rintro _ _ _ (⟨impossible, _⟩ | ⟨_, lock, rfl⟩)
    · cases impossible
    · exact blank _

end Opening

end Xaytune.Trajectory
