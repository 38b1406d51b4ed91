import Xaytune.Trajectory.Formats
import Xaytune.Trajectory.Tracking

/-!
# A crash loses no recorded event

A writer is opened and called in any order; it crashes between two file operations, or inside an
append; and any number of reconcilers crash in turn. The reconciler that does not crash seals what
the writer had recorded.
-/

namespace Xaytune.Trajectory

open Xaytune.Library Action TrajectoryWriter

variable {formats : Formats}

/-! ## Runs -/

/-- A call of an open writer. -/
inductive WriterCall where
  | content (text role mediaType : String) (sensitive : Bool)
  | record (body : EventBody) (parent : Option Nat) (now : Core.Text)
  | stage (result : Bytes) (now : String)
  | commit

namespace WriterCall

/-- The call, and the events it returns. -/
def run : WriterCall → Method formats (List TrajectoryEvent)
  | content text role mediaType sensitive => do
      let _ ← TrajectoryWriter.content text role mediaType sensitive
      pure []
  | record body parent now => do
      let event ← TrajectoryWriter.record body parent now
      pure [event]
  | stage result now => do
      let _ ← TrajectoryWriter.stage result now
      pure []
  | commit => do
      let _ ← TrajectoryWriter.commit
      pure []

/-- The event the call appends, if it is one that does. -/
def appending (writer : TrajectoryWriter formats) : WriterCall → Option TrajectoryEvent
  | record body parent now =>
      (makeEvent writer.opened.trajectoryId writer.events.length parent (some now) body).toOption
  | _ => none

/-- No text of the call holds a lone surrogate. -/
def isUnicode : WriterCall → Bool
  | record body _ now => (now :: body.texts).all Trajectory.isUnicode
  | _ => true

end WriterCall

/-- The events for which `record` returned, the writer's memory and the directory behind some
calls. -/
inductive Recorded (formats : Formats) (opening : Opening) (published : Option Bytes) :
    List TrajectoryEvent → TrajectoryWriter formats → Directory → Prop
  | opened {writer : TrajectoryWriter formats} {state : Directory}
      (ran : (TrajectoryWriter.open formats opening ()).exec Directory.machine (fresh published) =
        (state, .ok writer, ())) :
      Recorded formats opening published [] writer state
  | called {events : List TrajectoryEvent} {writer after : TrajectoryWriter formats}
      {state later : Directory} {outcome : Except Raised (List TrajectoryEvent)} (call : WriterCall)
      (before : Recorded formats opening published events writer state)
      (unicode : call.isUnicode = true)
      (ran : (call.run writer).exec Directory.machine state = (later, outcome, after)) :
      Recorded formats opening published (events ++ outcome.toOption.getD []) after later

/-- What a crash of the writer may leave, once the open record exists; with the events for which
`record` returned and the one being appended, if any. -/
inductive CrashLeft (formats : Formats) (opening : Opening) (published : Option Bytes) :
    List TrajectoryEvent → Option TrajectoryEvent → Directory → Prop
  | opening {left : Directory}
      (crashed : (TrajectoryWriter.open formats opening ()).Crash Directory.machine
        (fresh published) left)
      (opened : left.files .openRecord ≠ none) :
      CrashLeft formats opening published [] none left
  | calling {events : List TrajectoryEvent} {writer : TrajectoryWriter formats}
      {state left : Directory} (call : WriterCall)
      (before : Recorded formats opening published events writer state)
      (unicode : call.isUnicode = true)
      (crashed : (call.run writer).Crash Directory.machine state left) :
      CrashLeft formats opening published events (call.appending writer) left

/-- What reconcilers leave that crash one after another. -/
inductive Reconcilers (formats : Formats) (trajectoryId : AttemptId) : Directory → Directory → Prop
  | none (state : Directory) : Reconcilers formats trajectoryId state state
  | crashed {state left final : Directory} (now : String)
      (crash : (reconcileAttempt formats trajectoryId now ()).Crash Directory.machine
        state.released left)
      (rest : Reconcilers formats trajectoryId left final) :
      Reconcilers formats trajectoryId state final

/-! ## Every call keeps the recorded events -/

/-- Reconciliation can seal the events, and perhaps the one that was being appended. -/
def Survives (formats : Formats) (record : TrajectoryOpenRecord) (events : List TrajectoryEvent)
    (appending : Option TrajectoryEvent) (directory : Directory) : Prop :=
  ∃ extra, (extra = none ∨ extra = appending) ∧
    Recovers formats record (events ++ extra.toList) directory

/-- Every crash inside a call leaves the recorded events, and perhaps the one being appended. -/
theorem WriterCall.run_keeps {record : TrajectoryOpenRecord} {writer : TrajectoryWriter formats}
    {state : Directory} {rolled : Nat} (collisionFree : Function.Injective formats.digestOf)
    (tracks : Tracks formats record writer state rolled) (call : WriterCall)
    (unicode : call.isUnicode = true) :
    (call.run : Method formats _).Keeps Directory.machine
      (Survives formats record writer.events (call.appending writer))
      (fun outcome after later => ((∃ count, Tracks formats record after later count) ∧
        after.events = writer.events ++ outcome.toOption.getD []) ∧
          (outcome.toOption.getD [] = [] ∨
            outcome.toOption.getD [] = (call.appending writer).toList)) writer state := by
  have alone : ∀ left, Recovers formats record writer.events left →
      Survives formats record writer.events (call.appending writer) left :=
    fun left recovers => ⟨none, Or.inl rfl, by rwa [Option.toList_none, List.append_nil]⟩
  cases call with
  | content text role mediaType sensitive =>
      refine Keeps.bind ((content_keeps tracks text role mediaType sensitive).mono alone
        fun _ _ _ => id) ?_ ?_
      · rintro _ _ later ⟨rfl, after⟩
        exact ⟨⟨⟨_, after⟩, (List.append_nil _).symm⟩, Or.inl rfl⟩
      · rintro _ _ later ⟨rfl, after⟩
        exact ⟨⟨⟨_, after⟩, (List.append_nil _).symm⟩, Or.inl rfl⟩
  | record body parent now =>
      refine Keeps.bind ((record_keeps collisionFree tracks body parent now unicode).mono ?_
        fun _ _ _ => id) ?_ ?_
      · rintro left ⟨extra, recovers, rfl | ⟨event, made, rfl⟩⟩
        · exact ⟨none, Or.inl rfl, recovers⟩
        · refine ⟨some event, Or.inr ?_, recovers⟩
          rw [WriterCall.appending, tracks.opened, made]
          rfl
      · rintro event after later ⟨kept, made⟩
        refine ⟨kept, Or.inr ?_⟩
        rw [WriterCall.appending, tracks.opened, made event rfl]
        rfl
      · rintro error after later ⟨kept, _⟩
        exact ⟨kept, Or.inl rfl⟩
  | stage result now =>
      refine Keeps.bind ((stage_keeps collisionFree tracks result now).mono alone
        fun _ _ _ => id) ?_ ?_
      · rintro _ after later ⟨kept, events⟩
        exact ⟨⟨kept, events.trans (List.append_nil _).symm⟩, Or.inl rfl⟩
      · rintro _ after later ⟨kept, events⟩
        exact ⟨⟨kept, events.trans (List.append_nil _).symm⟩, Or.inl rfl⟩
  | commit =>
      refine Keeps.bind ((commit_keeps tracks).mono alone fun _ _ _ => id) ?_ ?_
      · rintro _ after later ⟨kept, events⟩
        exact ⟨⟨kept, events.trans (List.append_nil _).symm⟩, Or.inl rfl⟩
      · rintro _ after later ⟨kept, events⟩
        exact ⟨⟨kept, events.trans (List.append_nil _).symm⟩, Or.inl rfl⟩

/-- Behind any calls, memory and directory agree on the events `record` returned. -/
theorem Recorded.tracks {opening : Opening} {published : Option Bytes}
    {events : List TrajectoryEvent} {writer : TrajectoryWriter formats} {state : Directory}
    (collisionFree : Function.Injective formats.digestOf)
    (recorded : Recorded formats opening published events writer state) :
    (∃ rolled, Tracks formats opening.openRecord writer state rolled) ∧ writer.events = events := by
  induction recorded with
  | opened ran =>
      have keeps : (TrajectoryWriter.open formats opening).Keeps Directory.machine
          (Opened formats opening.openRecord) _ () (fresh published) := open_keeps
      have ends := Program.Keeps.exec keeps
      rw [ran] at ends
      exact ⟨⟨0, ends.1⟩, ends.2⟩
  | called call before unicode ran ih =>
      obtain ⟨⟨rolled, tracks⟩, rfl⟩ := ih
      have ends := Program.Keeps.exec (call.run_keeps collisionFree tracks unicode)
      rw [ran] at ends
      exact ends.1

/-- Through a crash of the writer the attempt stays recoverable. -/
theorem CrashLeft.survives {opening : Opening} {published : Option Bytes}
    {returned : List TrajectoryEvent} {appending : Option TrajectoryEvent} {left : Directory}
    (collisionFree : Function.Injective formats.digestOf)
    (crashed : CrashLeft formats opening published returned appending left) :
    Survives formats opening.openRecord returned appending left := by
  cases crashed with
  | opening crashed opened =>
      have keeps : (TrajectoryWriter.open formats opening).Keeps Directory.machine
          (Opened formats opening.openRecord) _ () (fresh published) := open_keeps
      refine ⟨none, Or.inl rfl, Program.Keeps.crash keeps ?_ crashed opened⟩
      rintro state ⟨outcome, memory⟩ ends
      cases outcome with
      | ok writer =>
          intro _
          have recovers := ends.1.recovers
          rwa [ends.2] at recovers
      | error error => exact ends
  | calling call before unicode crashed =>
      obtain ⟨⟨rolled, tracks⟩, rfl⟩ := before.tracks collisionFree
      refine Program.Keeps.crash (call.run_keeps collisionFree tracks unicode) ?_ crashed
      rintro state ⟨outcome, after⟩ ⟨⟨⟨count, later⟩, events⟩, extra⟩
      have recovers := later.recovers
      rw [events] at recovers
      rcases extra with nothing | event
      · rw [nothing] at recovers
        exact ⟨none, Or.inl rfl, recovers⟩
      · rw [event] at recovers
        exact ⟨_, Or.inr rfl, recovers⟩

/-! ## Reconciliation after the crash -/

theorem Directory.released_lock (state : Directory) :
    state.released.lock = .missing ∨ state.released.lock = .free := by
  unfold Directory.released
  cases state.lock with
  | missing => exact Or.inl rfl
  | free => exact Or.inr rfl
  | mine => exact Or.inr rfl
  | others => exact Or.inr rfl

/-- Reconcilers that crash leave the attempt recoverable. -/
theorem Reconcilers.recoverable {record : TrajectoryOpenRecord} {events : List TrajectoryEvent}
    {left final : Directory} (collisionFree : Function.Injective formats.digestOf)
    (reconcilers : Reconcilers formats record.trajectoryId left final)
    (recoverable : Recoverable formats record events left) :
    Recoverable formats record events final := by
  induction reconcilers with
  | none state => exact recoverable
  | crashed now crash rest ih =>
      refine ih (Program.Keeps.crash (reconcileAttempt_keeps collisionFree
        (recoverable.setLock _) (Directory.released_lock _)) ?_ crash)
      rintro state ⟨outcome, memory⟩ ⟨_, _, _, sealedAs⟩
      exact sealedAs.recoverable

/-! ## What calls do that succeed -/

/-- The writer of an attempt that has just been opened. -/
def TrajectoryWriter.Opening.writer (formats : Formats) (opening : Opening) :
    TrajectoryWriter formats :=
  { opened := opening.openRecord, secrets := opening.frozen, redactor := opening.redactor,
    progress := { trajectoryId := opening.trajectoryId } }

/-- The directory of an attempt that has just been opened. -/
def TrajectoryWriter.Opening.directory (formats : Formats) (opening : Opening)
    (published : Option Bytes) : Directory :=
  ({ fresh published with lock := .mine }.put .openRecord
    (formats.openRecordBytes opening.openRecord)).put .tail []

theorem open_opens {opening : Opening} {published : Option Bytes}
    (checked : opening.check = .ok ())
    (scanned : scanAll opening.frozen (formats.openRecordStrings opening.openRecord)
      "the open record" = .ok ())
    (unicode : opening.attribution.texts.all isUnicode = true) :
    (TrajectoryWriter.open formats opening ()).exec Directory.machine (fresh published) =
      (opening.directory formats published, .ok (opening.writer formats), ()) := by
  unfold TrajectoryWriter.open persist
  rw [checked, scanned, if_neg (not_not_intro unicode)]
  rfl

theorem headerSize_eq (trajectoryId : AttemptId) (index : Nat) :
    headerSize formats trajectoryId index = (closed (formats.headerLine
      ⟨index, some ("sha256:" ++ String.ofList (List.replicate 64 '0')),
        trajectoryId⟩)).length := by
  rw [headerSize, chunkBytes, List.mapM_nil]
  exact congrArg List.length (List.append_nil _)

theorem scanAll_nil (texts : List String) (role : String) : scanAll [] texts role = .ok () := by
  induction texts with
  | nil => rfl
  | cons text texts ih => exact ih

/-- The writer's memory once an event is appended. -/
def TrajectoryWriter.appended (writer : TrajectoryWriter formats) (event : TrajectoryEvent) :
    TrajectoryWriter formats :=
  { writer with
    events := writer.events ++ [event]
    tail := writer.tail ++ [event]
    tailBytes := writer.tailBytes + (closed (formats.eventLine event)).length }

/-- Without secrets, an event that fits is appended. -/
theorem record_appends {writer : TrajectoryWriter formats} {state : Directory} {body : EventBody}
    {parent : Option Nat} {now : Core.Text} {event : TrajectoryEvent}
    (isOpen : writer.state = .opened) (noSecrets : writer.secrets = [])
    (made : makeEvent writer.opened.trajectoryId writer.events.length parent (some now) body =
      .ok event)
    (fits : headerRoom formats writer.opened.trajectoryId +
      (closed (formats.eventLine event)).length ≤ writer.opened.recording.maxBytes)
    (room : writer.full (closed (formats.eventLine event)) = false) :
    (TrajectoryWriter.record body parent now writer).exec Directory.machine state =
      (state.put .tail ((state.files .tail).getD [] ++ closed (formats.eventLine event)),
        .ok event, writer.appended event) := by
  have scanned : ∀ texts role, scanAll writer.secrets texts role = .ok () := by
    rw [noSecrets]
    exact scanAll_nil
  have lineScanned : ∀ line role, scanLine writer.secrets line role = .ok () := by
    intro line role
    rw [noSecrets, scanLine, if_neg (by simp)]
  have keeps : (TrajectoryWriter.record body parent now).Keeps Directory.machine (fun _ => True)
      (fun outcome after later => (later, outcome, after) =
        (state.put .tail ((state.files .tail).getD [] ++ closed (formats.eventLine event)),
          .ok event, writer.appended event)) writer state := by
    refine keeps_bind.mpr (requireOpen_keeps (fun _ => ?_) fun closed => absurd isOpen closed)
    refine keeps_bind.mpr (keeps_get.mpr (keeps_bind.mpr (keeps_ofExcept.mpr ?_)))
    rw [made]
    refine keeps_bind.mpr (keeps_ofExcept.mpr ?_)
    rw [scanned]
    refine keeps_bind.mpr (keeps_ofExcept.mpr ?_)
    dsimp only
    rw [lineScanned, if_neg (Nat.not_lt.mpr fits), room]
    refine keeps_bind.mpr (Program.keeps_bind.mpr ?_)
    exact ⟨trivial, fun _ _ => trivial, Eq.refl _⟩
  exact Program.Keeps.exec keeps

section Drops

variable {record : TrajectoryOpenRecord} {event : TrajectoryEvent} {state : Directory}
  {now : String} (opened : state.files .openRecord = some (formats.openRecordBytes record))
  (unsealed : state.files .manifest = none) (unpublished : state.location = none)
  (unrolled : state.files .progress = none)
  (tail : state.files .tail = some (tailBytes formats [event])) (first : event.sequence = 0)
  (unicode : event.isUnicode = true)
  (unsound : structuralRefusals record.trajectoryId [event] ≠ [])

include opened unsealed unpublished unrolled tail first unicode unsound

/-- A first event that no causal history begins with is not sealed. -/
theorem sealAttempt_drops :
    (sealAttempt formats record.trajectoryId now).Keeps Directory.machine (fun _ => True)
      (fun outcome _ _ => ∃ manifest : TrajectoryManifest formats.fingerprints,
        outcome = .ok ⟨record.trajectoryId, .newlySealed, some manifest⟩ ∧ manifest.chunks = [])
      () state := by
  refine keeps_bind.mpr (keeps_bind.mpr (keeps_readIfAny.mpr ⟨trivial, ?_⟩))
  rw [opened]
  dsimp only [Option.bind_some]
  refine keeps_pure.mpr ?_
  rw [formats.parse_openRecordBytes]
  refine keeps_bind.mpr (keeps_readLocation.mpr ⟨trivial, ?_⟩)
  have nothing : state.published = none := by rw [Directory.published, unpublished]
  dsimp only
  rw [nothing, if_neg (by simp)]
  refine keeps_bind.mpr (keeps_bind.mpr (readProgress_keeps (Or.inr ⟨unrolled, rfl⟩) trivial ?_))
  refine keeps_bind.mpr (loadRolled_keeps .nil .nil trivial ?_)
  refine keeps_bind.mpr (keeps_read.mpr ⟨trivial, ?_⟩)
  have numbered : NumberedFrom 0 [event] := congrArg (fun sequence => [sequence]) first
  have parsed : parseTail formats (tailBytes formats [event]) [] = ([event], 0, false) := by
    simpa using parseTail_tailBytes numbered (List.forall_mem_singleton.mpr unicode)
      (Nat.le_refl 0) (Nat.zero_le 1) List.not_mem_nil
  have dropped : continued record.trajectoryId [] [event] false = ([], true) := by
    rw [continued, List.nil_append, if_pos (Or.inr unsound)]
  dsimp only
  rw [tail, Option.getD_some, parsed]
  dsimp only
  rw [dropped]
  refine keeps_bind.mpr (keeps_pure.mpr ?_)
  refine keeps_bind.mpr (clearTail_keeps trivial (fun absent => ?_) ?_)
  · rw [tail] at absent
    cases absent
  refine keeps_bind.mpr (keeps_readLocation.mpr ⟨trivial, ?_⟩)
  have abandoned : Sealing.Abandoned
      { completeness := .partially
        abandonment := some (abandonedBecause (false || true) (state.put .tail []).published [])
        tornTailBytes := 0 } := by
    refine ⟨rfl, rfl, rfl, ?_⟩
    simp [abandonedBecause_ne]
  obtain ⟨body, made, _, isChunks, _⟩ := manifestBody_ok record
    (Chain.nil : Chain formats record.trajectoryId state.files [] []) .nil (Nat.le_refl _)
    abandoned now
  refine keeps_bind.mpr (keeps_ofExcept.mpr ?_)
  rw [made]
  refine writeSeal_keeps trivial ?_ ⟨_, rfl, isChunks⟩
  rw [Directory.put_files_other _ _ (by simp)]
  exact unsealed

theorem reconcileAttempt_drops (free : state.lock = .free) :
    (reconcileAttempt formats record.trajectoryId now).Keeps Directory.machine (fun _ => True)
      (fun outcome _ _ => ∃ manifest : TrajectoryManifest formats.fingerprints,
        outcome = .ok ⟨record.trajectoryId, .newlySealed, some manifest⟩ ∧ manifest.chunks = [])
      () state := by
  refine keeps_bind.mpr (readManifest_keeps.mpr ⟨trivial, ?_⟩)
  rw [unsealed]
  refine keeps_bind.mpr ((keeps_atomic .tryLock fun _ torn => by cases torn).mpr ⟨trivial, ?_⟩)
  rw [Directory.perform, free]
  have drops : (sealAttempt formats record.trajectoryId now).Keeps Directory.machine
      (fun _ => True) _ () { state with lock := .mine } :=
    sealAttempt_drops opened unsealed unpublished unrolled tail first unicode unsound
  refine keeps_bind.mpr (keeps_attempt.mpr (drops.weaken ?_))
  rintro _ _ later ⟨manifest, rfl, noChunks⟩
  refine keeps_bind.mpr ((keeps_atomic .unlock fun _ torn => by cases torn).mpr ⟨trivial, ?_⟩)
  obtain ⟨lock, unlocks⟩ := later.perform_unlock
  rw [unlocks]
  exact ⟨manifest, rfl, noChunks⟩

end Drops

/-! ## One attempt -/

namespace Sample

theorem opens (published : Option Bytes) :
    (TrajectoryWriter.open texts.formats opening ()).exec Directory.machine (fresh published) =
      (opening.directory texts.formats published, .ok (opening.writer texts.formats), ()) :=
  open_opens (by decide) (scanAll_nil _ _) rfl

/-- The attempt's directory and memory once one event is recorded. -/
noncomputable def afterFirst (event : TrajectoryEvent) :
    Directory × TrajectoryWriter texts.formats :=
  ((opening.directory texts.formats none).put .tail (tailBytes texts.formats [event]),
    (opening.writer texts.formats).appended event)

theorem headerRoom_le : headerRoom texts.formats trajectoryId ≤ 1000 := by
  have room : headerRoom texts.formats trajectoryId =
      (closed (texts.formats.headerLine widestHeader)).length := headerSize_eq _ _
  have short : (lineOf widestHeaderText).length ≤ 840 :=
    widestHeaderText_opens.length_lineOf.trans (by decide)
  rw [room, headerLine_widest, closed, List.length_append, List.length_singleton]
  omega

/-- The first event is recorded if it is not too long. -/
theorem records {event : TrajectoryEvent} {body : EventBody} {text : String}
    (made : makeEvent trajectoryId 0 none (some emitted) body = .ok event)
    (unicode : (emitted :: body.texts).all isUnicode = true)
    (line : texts.formats.eventLine event = lineOf text)
    (short : (lineOf text).length ≤ 100000) :
    Recorded texts.formats opening none [event] (afterFirst event).2 (afterFirst event).1 := by
  have room := headerRoom_le
  have fits : headerRoom texts.formats (opening.writer texts.formats).opened.trajectoryId +
      (closed (texts.formats.eventLine event)).length ≤ recording.maxBytes := by
    rw [line, closed, List.length_append]
    have maximum : recording.maxBytes = 1048576 := rfl
    change headerRoom texts.formats trajectoryId + _ ≤ _
    simp only [List.length_singleton]
    omega
  have notFull : (opening.writer texts.formats).full (closed (texts.formats.eventLine event)) =
      false := decide_eq_false fun isFull => isFull.1 rfl
  have tail : ((opening.directory texts.formats none).files .tail).getD [] ++
      closed (texts.formats.eventLine event) = tailBytes texts.formats [event] := by
    simp [Opening.directory, tailBytes]
  have appends : (TrajectoryWriter.record body none emitted (opening.writer texts.formats)).exec
      Directory.machine (opening.directory texts.formats none) =
        ((afterFirst event).1, .ok event, (afterFirst event).2) := by
    rw [record_appends rfl rfl made fits notFull, tail]
    rfl
  have called : ((WriterCall.record body none emitted).run (opening.writer texts.formats)).exec
      Directory.machine (opening.directory texts.formats none) =
        ((afterFirst event).1, .ok [event], (afterFirst event).2) := by
    refine Program.exec_bind.trans ?_
    rw [appends]
    rfl
  exact Recorded.called (.record body none emitted) (.opened (opens none)) unicode called

theorem records_early : Recorded texts.formats opening none [early] (afterFirst early).2
    (afterFirst early).1 := by
  have made : makeEvent trajectoryId 0 none (some emitted) earlyBody = .ok early := rfl
  exact records made (by decide) eventLine_early (earlyText_opens.length_lineOf.trans (by decide))

end Sample

end Xaytune.Trajectory
