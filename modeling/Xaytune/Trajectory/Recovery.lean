import Xaytune.Trajectory.Operations

/-!
# What reconciliation makes of an attempt

While an attempt is open, the chunks its progress names hold the first events, the tail the
events from some point at or before their end on, and perhaps a torn line behind them. From such
a directory, whatever crash left it, reconciliation seals a manifest over the rolled events and the
ones behind them that continue one causal history.
-/

namespace Xaytune.Trajectory

open Xaytune.Library Action

variable {formats : Formats} {σ : Type}

/-! ## The open attempt on disk -/

/-- The events of an open attempt: `rolled` of them in chunks, and those from `kept` on in the
tail. -/
structure OnDisk (formats : Formats) (trajectoryId : AttemptId) (events : List TrajectoryEvent)
    (view : View) (refs : List ChunkRef) (rolled kept : Nat) (torn : Bytes) : Prop where
  numbered : NumberedFrom 0 events
  progress : view .progress = some (formats.progressBytes ⟨trajectoryId, refs⟩) ∨
    (view .progress = none ∧ refs = [])
  chain : Chain formats trajectoryId view refs (events.take rolled)
  within : rolled ≤ events.length
  tail : (view .tail).getD [] = tailBytes formats (events.drop kept) ++ torn
  overlap : kept ≤ rolled
  tornPlain : newline ∉ torn
  addressed : Addressed formats view
  unicode : ∀ event ∈ events, event.isUnicode = true

/-- The attempt's directory holds some events, of which these are left. -/
def Holds (formats : Formats) (trajectoryId : AttemptId) (left : List TrajectoryEvent)
    (view : View) : Prop :=
  ∃ events refs rolled kept torn, OnDisk formats trajectoryId events view refs rolled kept torn ∧
    Retains trajectoryId (events.take rolled) events left

/-- A manifest names chunks that load to the events, and lists their content. -/
structure Seals (formats : Formats) (view : View)
    (manifest : TrajectoryManifest formats.fingerprints)
    (events : List TrajectoryEvent) : Prop where
  loads : loadEvents formats view manifest.trajectoryId manifest.chunks = (events, [])
  content : manifest.content = contentReferences events

/-- The result is published, and the staged manifest verifies against it. -/
structure Committed (formats : Formats) (trajectoryId : AttemptId) (events : List TrajectoryEvent)
    (view : View) (staged : TrajectoryManifest formats.fingerprints) (result : Bytes) : Prop where
  owned : staged.trajectoryId = trajectoryId
  stagedFile : view .staged = some (formats.manifestBytes staged)
  resultFile : view .result = some result
  digest : staged.resultDigest = some (formats.digestOf result)
  verifies : verifyTrajectory formats view trajectoryId staged = []
  loads : loadEvents formats view staged.trajectoryId staged.chunks = (events, [])

/-- An attempt that reconciliation seals with these events: open before the commit point, open past
it, or sealed. -/
structure Recoverable (formats : Formats) (record : TrajectoryOpenRecord)
    (events : List TrajectoryEvent) (directory : Directory) : Prop where
  opened : directory.files .openRecord = some (formats.openRecordBytes record)
  stands :
    (directory.files .manifest = none ∧ directory.location ≠ some .thisResult ∧
      Holds formats record.trajectoryId events directory.files) ∨
    (directory.files .manifest = none ∧ directory.location = some .thisResult ∧
      ∃ staged result, Committed formats record.trajectoryId events directory.files staged result) ∨
    ∃ manifest, directory.files .manifest = some (formats.manifestBytes manifest) ∧
      Seals formats directory.files manifest events

/-! ## Loading what was rolled -/

theorem readProgress_keeps {safe : Directory → Prop} {memory : σ} {state : Directory}
    {trajectoryId : AttemptId} {refs : List ChunkRef}
    {post : Except Raised TrajectoryProgress → σ → Directory → Prop}
    (progress : state.files .progress = some (formats.progressBytes ⟨trajectoryId, refs⟩) ∨
      (state.files .progress = none ∧ refs = []))
    (here : safe state) (holds : post (.ok ⟨trajectoryId, refs⟩) memory state) :
    (readProgress formats trajectoryId).Keeps Directory.machine safe post memory state := by
  refine keeps_bind.mpr (keeps_read.mpr ⟨here, ?_⟩)
  rcases progress with written | ⟨absent, rfl⟩
  · rw [written]
    simp only [formats.parse_progressBytes]
    exact holds
  · rw [absent]
    exact holds

theorem loadRolled_keeps {safe : Directory → Prop} {memory : σ} {state : Directory}
    {events : List TrajectoryEvent} {now : String}
    {record : TrajectoryOpenRecord} {progress : TrajectoryProgress}
    {post : Except Raised (List TrajectoryEvent × TrajectoryProgress × Bool) → σ → Directory → Prop}
    (chain : Chain formats record.trajectoryId state.files progress.chunks events)
    (numbered : NumberedFrom 0 events) (here : safe state)
    (holds : post (.ok (events, progress, false)) memory state) :
    (loadRolled formats record progress now).Keeps Directory.machine safe post memory state := by
  unfold loadRolled
  by_cases none_rolled : progress.chunks = []
  · rw [if_pos none_rolled]
    have noEvents : events = [] := by
      have loaded := chain.load numbered
      rw [none_rolled] at loaded
      exact (congrArg Prod.fst loaded).symm
    subst noEvents
    exact holds
  · rw [if_neg none_rolled]
    have abandoned : Sealing.Abandoned
        { completeness := .partially, abandonment := some .writerLost } := ⟨rfl, rfl, rfl, rfl⟩
    obtain ⟨body, made, _⟩ := manifestBody_ok record chain NumberedFrom.nil (Nat.zero_le _)
      abandoned now
    refine keeps_bind.mpr (keeps_ofExcept.mpr ?_)
    rw [made]
    refine keeps_bind.mpr (observe_keeps _ here fun view agrees => ?_)
    have same : loadEvents formats view record.trajectoryId progress.chunks = (events, []) := by
      rw [← chain.load numbered]
      exact loadEvents_congr fun ref member => agrees _ (List.mem_map_of_mem
        (f := fun ref : ChunkRef => FileName.chunk ref.index ref.digest) member)
    dsimp only
    rw [same]
    exact holds

/-! ## Rolling what the tail holds -/

/-- Only chunks, progress, tail and lock may differ. -/
structure Beside (directory later : Directory) : Prop where
  openRecord : later.files .openRecord = directory.files .openRecord
  manifest : later.files .manifest = directory.files .manifest
  location : later.location = directory.location

namespace OnDisk

variable {trajectoryId : AttemptId} {events : List TrajectoryEvent} {state later : Directory}
  {refs : List ChunkRef} {rolled kept : Nat} {torn : Bytes}

/-- A chunk that no progress names yet changes nothing. -/
theorem put_chunk (onDisk : OnDisk formats trajectoryId events state.files refs rolled kept torn)
    {index : Nat} {digest : Digest} {data : Bytes}
    (wider : Extends state.files (state.put (.chunk index digest) data).files)
    (named : formats.digestOf data = digest) :
    OnDisk formats trajectoryId events (state.put (.chunk index digest) data).files refs rolled kept
      torn := by
  refine ⟨onDisk.numbered, ?_, onDisk.chain.extend wider, onDisk.within, ?_, onDisk.overlap,
    onDisk.tornPlain, onDisk.addressed.put fun _ _ same => ?_, onDisk.unicode⟩
  · rw [Directory.put_files_other _ _ (by simp)]
    exact onDisk.progress
  · rw [Directory.put_files_other _ _ (by simp)]
    exact onDisk.tail
  · cases same
    exact named

/-- Progress that names a longer chain. -/
theorem put_progress (onDisk : OnDisk formats trajectoryId events state.files refs rolled kept torn)
    {longer : List ChunkRef} {count : Nat} (more : rolled ≤ count) (within : count ≤ events.length)
    (chain : Chain formats trajectoryId state.files longer (events.take count)) :
    OnDisk formats trajectoryId events
      (state.put .progress (formats.progressBytes ⟨trajectoryId, longer⟩)).files longer count kept
      torn := by
  have chunks : ∀ index digest, (state.put .progress
      (formats.progressBytes ⟨trajectoryId, longer⟩)).files (.chunk index digest) =
        state.files (.chunk index digest) :=
    fun index digest => Directory.put_files_other _ _ (by simp)
  refine ⟨onDisk.numbered, Or.inl (Directory.put_files_same ..), ?_, within, ?_,
    onDisk.overlap.trans more, onDisk.tornPlain, onDisk.addressed.put fun _ _ same => ?_,
    onDisk.unicode⟩
  · exact chain.congr chunks
  · rw [Directory.put_files_other _ _ (by simp)]
    exact onDisk.tail
  · cases same

/-- An emptied tail leaves the rolled events. -/
theorem clear (onDisk : OnDisk formats trajectoryId events state.files refs rolled kept torn) :
    OnDisk formats trajectoryId (events.take rolled) (state.put .tail []).files refs rolled rolled
      [] := by
  have chunks : ∀ index digest, (state.put .tail []).files (.chunk index digest) =
      state.files (.chunk index digest) :=
    fun index digest => Directory.put_files_other _ _ (by simp)
  have width : (events.take rolled).length = rolled := List.length_take_of_le onDisk.within
  refine ⟨onDisk.numbered.take rolled, ?_, ?_, width.ge, ?_, Nat.le_refl _, List.not_mem_nil,
    onDisk.addressed.put fun _ _ same => ?_,
    fun event member => onDisk.unicode event (List.mem_of_mem_take member)⟩
  · rw [Directory.put_files_other _ _ (by simp)]
    exact onDisk.progress
  · rw [List.take_take, Nat.min_self]
    exact onDisk.chain.congr chunks
  · rw [Directory.put_files_same, List.drop_eq_nil_of_le width.le]
    rfl
  · cases same

/-- What continues the rolled events is what is left of all of them. -/
theorem continued_eq (onDisk : OnDisk formats trajectoryId events state.files refs rolled kept torn)
    {left : List TrajectoryEvent}
    (retains : Retains trajectoryId (events.take rolled) events left) :
    (continued trajectoryId (events.take rolled) (events.drop rolled) false).1 = left := by
  have behind : NumberedFrom (events.take rolled).length (events.drop rolled) := by
    rw [List.length_take_of_le onDisk.within]
    exact onDisk.numbered.drop onDisk.within
  have found : Retains trajectoryId (events.take rolled) (events.take rolled ++ events.drop rolled)
      (continued trajectoryId (events.take rolled) (events.drop rolled) false).1 :=
    continued_retains (events.drop rolled) behind
  rw [List.take_append_drop] at found
  exact found.unique retains

end OnDisk

/-- Rolling the events behind the rolled ones, up to some point, names all of them up to it. -/
theorem roll_onDisk_keeps {safe : Directory → Prop} {memory : σ} {state : Directory}
    {trajectoryId : AttemptId} {events : List TrajectoryEvent} {refs : List ChunkRef}
    {rolled kept count : Nat} {torn : Bytes}
    {post : Except Raised TrajectoryProgress → σ → Directory → Prop}
    (collisionFree : Function.Injective formats.digestOf)
    (onDisk : OnDisk formats trajectoryId events state.files refs rolled kept torn)
    (more : rolled ≤ count) (within : count ≤ events.length) (here : safe state)
    (chunked : ∀ later, Beside state later →
      OnDisk formats trajectoryId events later.files refs rolled kept torn → safe later)
    (done : ∀ later longer, Beside state later → later.files .tail = state.files .tail →
      OnDisk formats trajectoryId events later.files longer count kept torn →
      post (.ok ⟨trajectoryId, longer⟩) memory later) :
    (roll formats trajectoryId ⟨trajectoryId, refs⟩ ((events.take count).drop rolled)).Keeps
      Directory.machine safe post memory state := by
  have width : (events.take rolled).length = rolled := List.length_take_of_le onDisk.within
  have joined : events.take rolled ++ (events.take count).drop rolled = events.take count := by
    have front : events.take rolled = (events.take count).take rolled := by
      rw [List.take_take, Nat.min_eq_left more]
    rw [front, List.take_append_drop]
  have numbered : NumberedFrom (events.take rolled).length ((events.take count).drop rolled) := by
    rw [width]
    refine (onDisk.numbered.take count).drop ?_
    rw [List.length_take_of_le within]
    exact more
  have unicode : ∀ event ∈ (events.take count).drop rolled, event.isUnicode = true :=
    fun event member => onDisk.unicode event (List.mem_of_mem_take (List.mem_of_mem_drop member))
  refine roll_keeps collisionFree onDisk.addressed onDisk.chain numbered unicode here ?_ ?_
  · intro empty
    have same : events.take count = events.take rolled := by rw [← joined, empty, List.append_nil]
    have bound : count = rolled := by
      have lengths := congrArg List.length same
      rwa [List.length_take_of_le within, width] at lengths
    subst bound
    exact done state refs ⟨rfl, rfl, rfl⟩ rfl onDisk
  · intro ref data later isLater wider named advanced
    subst isLater
    have between := onDisk.put_chunk wider named
    rw [joined] at advanced
    refine ⟨chunked _ ⟨Directory.put_files_other _ _ (by simp),
      Directory.put_files_other _ _ (by simp), rfl⟩ between, ?_⟩
    refine done _ _ ⟨?_, ?_, rfl⟩ ?_ (between.put_progress more within advanced)
    · rw [Directory.put_files_other _ _ (by simp), Directory.put_files_other _ _ (by simp)]
    · rw [Directory.put_files_other _ _ (by simp), Directory.put_files_other _ _ (by simp)]
    · rw [Directory.put_files_other _ _ (by simp), Directory.put_files_other _ _ (by simp)]

/-! ## Before the commit point -/

theorem clearTail_keeps {safe : Directory → Prop} {memory : σ} {state : Directory}
    {post : Except Raised Unit → σ → Directory → Prop} (here : safe state)
    (absent : state.files .tail = none → post (.ok ()) memory state)
    (cleared : post (.ok ()) memory (state.put .tail [])) :
    (clearTail : Act σ Unit).Keeps Directory.machine safe post memory state := by
  refine keeps_bind.mpr (keeps_read.mpr ⟨here, ?_⟩)
  cases found : state.files .tail with
  | none => exact absent found
  | some data => exact (keeps_truncateDurably found).mpr ⟨here, cleared⟩

theorem writeSeal_keeps {safe : Directory → Prop} {memory : σ} {state : Directory}
    {manifest : TrajectoryManifest formats.fingerprints}
    {post : Except Raised (TrajectoryManifest formats.fingerprints) → σ → Directory → Prop}
    (here : safe state) (unsealed : state.files .manifest = none)
    (holds : post (.ok manifest) memory (state.put .manifest (formats.manifestBytes manifest))) :
    (writeSeal formats manifest).Keeps Directory.machine safe post memory state := by
  have agrees : ∀ found, state.files .manifest = some found →
      found = formats.manifestBytes manifest := by
    intro found there
    rw [unsealed] at there
    cases there
  let created : Except Raised Bool → σ → Directory → Prop := fun outcome unchanged later =>
    outcome = .ok true ∧ unchanged = memory ∧
      later = state.put .manifest (formats.manifestBytes manifest)
  have writes : (ask (.writeNew .manifest (formats.manifestBytes manifest))).Keeps
      Directory.machine safe created memory state := by
    refine (keeps_writeNew agrees).mpr ⟨here, ?_, rfl, rfl⟩
    rw [unsealed]
    rfl
  refine Keeps.bind (Keeps.tryCatch writes (fun _ _ _ holds => holds) ?_) ?_ ?_
  · rintro _ _ _ ⟨impossible, _⟩
    cases impossible
  · rintro _ _ _ ⟨isTrue, rfl, rfl⟩
    cases isTrue
    exact holds
  · rintro _ _ _ ⟨impossible, _⟩
    cases impossible

theorem abandonedBecause_ne (unverifiable : Bool) (location : Option PublishedFile)
    (events : List TrajectoryEvent) :
    abandonedBecause unverifiable location events ≠ .postCommitEvidenceLost := by
  unfold abandonedBecause
  dsimp only
  split_ifs <;> simp

theorem tailBytes_eq_nil {events : List TrajectoryEvent} {torn : Bytes}
    (empty : tailBytes formats events ++ torn = []) : events = [] := by
  cases events with
  | nil => rfl
  | cons event events =>
      rw [tailBytes, List.flatMap_cons, closed] at empty
      simp at empty

section Reconcile

variable {record : TrajectoryOpenRecord} {left : List TrajectoryEvent} {state : Directory}
  {memory : σ} {now : String}

theorem Recoverable.of_holds
    (opened : state.files .openRecord = some (formats.openRecordBytes record))
    (unsealed : state.files .manifest = none) (uncommitted : state.location ≠ some .thisResult)
    (holds : Holds formats record.trajectoryId left state.files) :
    Recoverable formats record left state :=
  ⟨opened, Or.inl ⟨unsealed, uncommitted, holds⟩⟩

/-- Before the commit point, the rolled events and what continues them are sealed. -/
theorem beforeCommit_keeps (collisionFree : Function.Injective formats.digestOf)
    (opened : state.files .openRecord = some (formats.openRecordBytes record))
    (unsealed : state.files .manifest = none) (uncommitted : state.location ≠ some .thisResult)
    (holds : Holds formats record.trajectoryId left state.files)
    {post : Except Raised (TrajectoryManifest formats.fingerprints) → σ → Directory → Prop}
    (done : ∀ later manifest, later.files .openRecord = state.files .openRecord →
      later.files .manifest = some (formats.manifestBytes manifest) →
      Seals formats later.files manifest left → post (.ok manifest) memory later) :
    (beforeCommit formats record.trajectoryId record now).Keeps Directory.machine
      (Recoverable formats record left) post memory state := by
  obtain ⟨events, refs, rolled, kept, torn, onDisk, retains⟩ := holds
  have beside : ∀ later, Beside state later →
      Holds formats record.trajectoryId left later.files → Recoverable formats record left later :=
    fun later same held => .of_holds (same.openRecord.trans opened)
      (same.manifest.trans unsealed) (same.location ▸ uncommitted) held
  have here := beside state ⟨rfl, rfl, rfl⟩ ⟨events, refs, rolled, kept, torn, onDisk, retains⟩
  refine keeps_bind.mpr (readProgress_keeps onDisk.progress here ?_)
  refine keeps_bind.mpr (loadRolled_keeps onDisk.chain (onDisk.numbered.take rolled) here ?_)
  refine keeps_bind.mpr (keeps_read.mpr ⟨here, ?_⟩)
  -- The tail reads back as the events behind the rolled ones.
  dsimp only
  rw [onDisk.tail, parseTail_tailBytes onDisk.numbered onDisk.unicode onDisk.overlap onDisk.within
    onDisk.tornPlain]
  dsimp only
  have width : (events.take rolled).length = rolled := List.length_take_of_le onDisk.within
  have isLeft := onDisk.continued_eq retains
  generalize continued record.trajectoryId (events.take rolled) (events.drop rolled) false =
    continuation at isLeft
  obtain ⟨sealed, broke⟩ := continuation
  dsimp only at isLeft ⊢
  subst isLeft
  have atLeast : rolled ≤ sealed.length := width ▸ retains.longer.length_le
  have isTake : events.take sealed.length = sealed :=
    (List.prefix_iff_eq_take.mp retains.begins).symm
  have behindRolled : sealed.drop rolled = (events.take sealed.length).drop rolled := by
    rw [isTake]
  rw [width, behindRolled]
  refine keeps_bind.mpr
    (roll_onDisk_keeps collisionFree onDisk atLeast retains.begins.length_le here
    ?_ ?_)
  · exact fun later same held => beside later same ⟨_, _, _, _, _, held, retains⟩
  intro rolledState refs' same tailSame rolledDisk
  have rolledUp : Retains record.trajectoryId (events.take sealed.length) events sealed := by
    rw [isTake]
    exact retains.rolledUp
  have afterRoll := beside rolledState same ⟨_, _, _, _, _, rolledDisk, rolledUp⟩
  -- Behind the emptied tail, or where there was none, the rolled events are what is left.
  have finish : ∀ final, Beside state final →
      OnDisk formats record.trajectoryId sealed final.files refs' sealed.length sealed.length [] →
      (do
        let location ← ask .readLocation
        let body ← Act.ofExcept (manifestBody record refs' sealed
          { completeness := .partially
            abandonment := some (abandonedBecause (false || broke) location sealed)
            tornTailBytes := torn.length } now)
        writeSeal formats (body.seal formats.fingerprints) : Act σ _).Keeps Directory.machine
          (Recoverable formats record sealed) post memory final := by
    intro final sameFinal finalDisk
    have finalChain := finalDisk.chain
    have whole : Retains record.trajectoryId (sealed.take sealed.length) sealed sealed := by
      rw [List.take_length]
      exact .all sealed
    have recoverable := beside final sameFinal ⟨_, _, _, _, _, finalDisk, whole⟩
    rw [List.take_length] at finalChain
    refine keeps_bind.mpr (keeps_readLocation.mpr ⟨recoverable, ?_⟩)
    have abandoned : Sealing.Abandoned
        { completeness := .partially
          abandonment := some (abandonedBecause (false || broke) final.published sealed)
          tornTailBytes := torn.length } := by
      refine ⟨rfl, rfl, rfl, ?_⟩
      simp [abandonedBecause_ne]
    obtain ⟨body, made, isId, isChunks, isContent⟩ := manifestBody_ok record finalChain
      finalDisk.numbered (Nat.le_refl _) abandoned now
    refine keeps_bind.mpr (keeps_ofExcept.mpr ?_)
    rw [made]
    refine writeSeal_keeps recoverable (sameFinal.manifest.trans unsealed) ?_
    refine done _ _ ?_ (Directory.put_files_same ..) ⟨?_, isContent⟩
    · rw [Directory.put_files_other _ _ (by simp)]
      exact sameFinal.openRecord
    · have sealedChain : Chain formats record.trajectoryId
          (final.put .manifest (formats.manifestBytes (body.seal formats.fingerprints))).files
          refs' sealed :=
        finalChain.congr fun _ _ => Directory.put_files_other _ _ (by simp)
      show loadEvents formats _ body.trajectoryId body.chunks = _
      rw [isId, isChunks]
      exact sealedChain.load finalDisk.numbered
  refine keeps_bind.mpr (clearTail_keeps afterRoll ?_ ?_)
  · intro absent
    -- Without a tail nothing stands behind the rolled events.
    have empty := rolledDisk.tail
    rw [absent] at empty
    have none_left := tailBytes_eq_nil empty.symm
    have reached : events.length ≤ kept := List.drop_eq_nil_iff.mp none_left
    have all : sealed = events := by
      refine retains.begins.eq_of_length_le ?_
      have := rolledDisk.overlap
      omega
    subst all
    refine finish rolledState same ?_
    refine ⟨rolledDisk.numbered, rolledDisk.progress, rolledDisk.chain, rolledDisk.within, ?_,
      Nat.le_refl _, List.not_mem_nil, rolledDisk.addressed, rolledDisk.unicode⟩
    rw [absent, List.drop_length]
    rfl
  · have cleared := rolledDisk.clear
    rw [isTake] at cleared
    refine finish _ ⟨?_, ?_, same.location⟩ cleared
    · rw [Directory.put_files_other _ _ (by simp)]
      exact same.openRecord
    · rw [Directory.put_files_other _ _ (by simp)]
      exact same.manifest

/-! ## Past the commit point -/

/-- Evidence that verifies lists the content of its events. -/
theorem verified_content {view : View} {trajectoryId : AttemptId} {events : List TrajectoryEvent}
    {manifest : TrajectoryManifest formats.fingerprints}
    (verifies : verifyTrajectory formats view trajectoryId manifest = [])
    (loads : loadEvents formats view manifest.trajectoryId manifest.chunks = (events, [])) :
    manifest.content = contentReferences events := by
  rw [verifyTrajectory, loads] at verifies
  simp only [List.append_eq_nil_iff] at verifies
  by_contra differs
  have listed := verifies.1.1.1.2
  rw [if_pos (Ne.symm differs)] at listed
  cases listed

theorem keeps_linkStaged {safe : Directory → Prop} {data : Bytes}
    {post : Except Raised Bool → σ → Directory → Prop}
    (unsealed : state.files .manifest = none) (there : state.files .staged = some data) :
    (ask .linkStaged).Keeps Directory.machine safe post memory state ↔
      safe state ∧ post (.ok true) memory (state.put .manifest data) := by
  refine (keeps_atomic .linkStaged fun _ torn => nomatch torn).trans ?_
  rw [Directory.perform, unsealed, there]

theorem verifyPublication_own {result : Bytes}
    {staged : TrajectoryManifest formats.fingerprints}
    (digest : staged.resultDigest = some (formats.digestOf result)) :
    verifyPublication formats (some ⟨true, result⟩) staged = [] := by
  simp [verifyPublication, digest]

/-- Past the commit point the staged manifest is sealed. -/
theorem pastCommit_keeps {staged : TrajectoryManifest formats.fingerprints} {result : Bytes}
    (opened : state.files .openRecord = some (formats.openRecordBytes record))
    (unsealed : state.files .manifest = none) (published : state.location = some .thisResult)
    (committed : Committed formats record.trajectoryId left state.files staged result)
    {post : Except Raised (TrajectoryManifest formats.fingerprints) → σ → Directory → Prop}
    (done : ∀ later manifest, later.files .openRecord = state.files .openRecord →
      later.files .manifest = some (formats.manifestBytes manifest) →
      Seals formats later.files manifest left → post (.ok manifest) memory later) :
    (pastCommit formats record.trajectoryId record now).Keeps Directory.machine
      (Recoverable formats record left) post memory state := by
  have here : Recoverable formats record left state :=
    ⟨opened, Or.inr (Or.inl ⟨unsealed, published, staged, result, committed⟩)⟩
  refine keeps_bind.mpr (readManifest_keeps.mpr ⟨here, ?_⟩)
  rw [committed.stagedFile, Option.bind_some, formats.validate_manifestBytes]
  refine keeps_bind.mpr (verified_keeps here ?_)
  refine keeps_bind.mpr (keeps_readLocation.mpr ⟨here, ?_⟩)
  have found : state.published = some ⟨true, result⟩ := by
    rw [Directory.published, published, committed.resultFile]
    rfl
  dsimp only
  rw [committed.verifies, found, verifyPublication_own committed.digest, if_pos (List.append_nil _)]
  refine keeps_bind.mpr ((keeps_linkStaged unsealed committed.stagedFile).mpr ⟨here, ?_⟩)
  refine done _ staged ?_ (Directory.put_files_same ..) ⟨?_, ?_⟩
  · exact Directory.put_files_other _ _ (by simp)
  · rw [← committed.loads]
    exact loadEvents_congr fun _ _ => Directory.put_files_other _ _ (by simp)
  · exact verified_content committed.verifies committed.loads

/-! ## Reconciliation -/

theorem Recoverable.setLock (recoverable : Recoverable formats record left state) (lock : Lock) :
    Recoverable formats record left { state with lock := lock } :=
  ⟨recoverable.opened, recoverable.stands⟩

/-- The attempt is sealed with the events. -/
def SealedAs (formats : Formats) (record : TrajectoryOpenRecord) (events : List TrajectoryEvent)
    (manifest : TrajectoryManifest formats.fingerprints) (directory : Directory) : Prop :=
  directory.files .openRecord = some (formats.openRecordBytes record) ∧
    directory.files .manifest = some (formats.manifestBytes manifest) ∧
    Seals formats directory.files manifest events

theorem SealedAs.recoverable {manifest : TrajectoryManifest formats.fingerprints}
    (sealedAs : SealedAs formats record left manifest state) :
    Recoverable formats record left state :=
  let ⟨opened, manifestFile, seals⟩ := sealedAs
  ⟨opened, Or.inr (Or.inr ⟨manifest, manifestFile, seals⟩)⟩

theorem Directory.published_other (uncommitted : state.location ≠ some .thisResult) :
    ¬ (state.published.any PublishedFile.same = true) := by
  unfold Directory.published
  split
  · simp
  · exact absurd ‹_› uncommitted
  · simp

/-- The work of a reconciler that has the attempt for itself. -/
theorem sealAttempt_keeps (collisionFree : Function.Injective formats.digestOf)
    (recoverable : Recoverable formats record left state)
    (unsealed : state.files .manifest = none) :
    (sealAttempt formats record.trajectoryId now).Keeps Directory.machine
      (Recoverable formats record left)
      (fun outcome unchanged later => unchanged = memory ∧ ∃ manifest,
        outcome = .ok ⟨record.trajectoryId, .newlySealed, some manifest⟩ ∧
        SealedAs formats record left manifest later) memory state := by
  have opened := recoverable.opened
  refine keeps_bind.mpr (keeps_bind.mpr (keeps_readIfAny.mpr ⟨recoverable, ?_⟩))
  rw [opened]
  dsimp only [Option.bind_some]
  refine keeps_pure.mpr ?_
  rw [formats.parse_openRecordBytes]
  refine keeps_bind.mpr (keeps_readLocation.mpr ⟨recoverable, ?_⟩)
  rcases recoverable.stands with ⟨_, uncommitted, holds⟩ |
    ⟨_, published, staged, result, committed⟩ | ⟨manifest, there, _⟩
  · dsimp only
    rw [if_neg (Directory.published_other uncommitted)]
    refine keeps_bind.mpr (beforeCommit_keeps collisionFree opened unsealed uncommitted holds
      fun later manifest openRecord manifestFile seals => ?_)
    exact ⟨rfl, manifest, rfl, openRecord.trans opened, manifestFile, seals⟩
  · have own : state.published.any PublishedFile.same = true := by
      rw [Directory.published, published]
      rfl
    dsimp only
    rw [if_pos own]
    refine keeps_bind.mpr (pastCommit_keeps opened unsealed published committed
      fun later manifest openRecord manifestFile seals => ?_)
    exact ⟨rfl, manifest, rfl, openRecord.trans opened, manifestFile, seals⟩
  · rw [unsealed] at there
    cases there

/-- Reconciliation of an attempt that can be sealed, through any crash, and its end. -/
theorem reconcileAttempt_keeps (collisionFree : Function.Injective formats.digestOf)
    (recoverable : Recoverable formats record left state)
    (released : state.lock = .missing ∨ state.lock = .free) :
    (reconcileAttempt formats record.trajectoryId now).Keeps Directory.machine
      (Recoverable formats record left)
      (fun outcome _ later => ∃ status manifest,
        outcome = .ok ⟨record.trajectoryId, status, some manifest⟩ ∧
        SealedAs formats record left manifest later) memory state := by
  refine keeps_bind.mpr (readManifest_keeps.mpr ⟨recoverable, ?_⟩)
  rcases Option.eq_none_or_eq_some (state.files .manifest) with unsealed | ⟨data, there⟩
  · rw [unsealed]
    refine keeps_bind.mpr
      ((keeps_atomic .tryLock fun _ torn => by cases torn).mpr ⟨recoverable, ?_⟩)
    rw [Directory.perform]
    rcases released with missing | free
    · rw [missing]
      refine (sealAttempt_keeps collisionFree recoverable unsealed).weaken ?_
      rintro outcome _ later ⟨_, manifest, isOutcome, sealedAs⟩
      exact ⟨_, manifest, isOutcome, sealedAs⟩
    · rw [free]
      refine keeps_bind.mpr (keeps_attempt.mpr ((sealAttempt_keeps collisionFree
        (recoverable.setLock .mine) unsealed).weaken ?_))
      rintro outcome _ later ⟨_, manifest, isOutcome, sealedAs⟩
      refine keeps_bind.mpr ((keeps_atomic .unlock fun _ torn => by cases torn).mpr
        ⟨sealedAs.recoverable, ?_⟩)
      obtain ⟨lock, unlocks⟩ := later.perform_unlock
      rw [unlocks]
      subst isOutcome
      exact ⟨_, manifest, rfl, sealedAs⟩
  · rcases recoverable.stands with ⟨unsealed, _⟩ | ⟨unsealed, _⟩ | ⟨manifest, isManifest, seals⟩
    · rw [there] at unsealed
      cases unsealed
    · rw [there] at unsealed
      cases unsealed
    · rw [isManifest, Option.bind_some, formats.validate_manifestBytes]
      exact ⟨_, manifest, rfl, recoverable.opened, isManifest, seals⟩

end Reconcile

end Xaytune.Trajectory
