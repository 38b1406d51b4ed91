import Xaytune.Trajectory.Chain

/-!
# What each file operation does

The rules of the operations on one directory, for the condition a program keeps through every
crash, and the specifications of the reads and rolls built from them.
-/

namespace Xaytune.Trajectory

open Xaytune.Library Action

variable {formats : Formats} {σ : Type} {safe : Directory → Prop} {memory : σ} {state : Directory}

/-! ## Files of a directory -/

namespace Directory

@[simp]
theorem put_files_same (directory : Directory) (file : FileName) (data : Bytes) :
    (directory.put file data).files file = some data := by
  rw [put]
  exact Function.update_self ..

@[simp]
theorem put_files_other (directory : Directory) {file other : FileName} (data : Bytes)
    (different : other ≠ file) : (directory.put file data).files other = directory.files other := by
  rw [put]
  exact Function.update_of_ne different ..

theorem put_eq_self {directory : Directory} {file : FileName} {data : Bytes}
    (there : directory.files file = some data) : directory.put file data = directory := by
  rw [put, ← there, Function.update_eq_self]

/-- A file that is new, or holds the same bytes, adds to what is held. -/
theorem extends_put {directory : Directory} {file : FileName} {data : Bytes}
    (agrees : ∀ found, directory.files file = some found → found = data) :
    Extends directory.files (directory.put file data).files := by
  intro other found there
  by_cases same : other = file
  · subst same
    rw [agrees found there]
    exact put_files_same ..
  · rw [put_files_other _ _ same]
    exact there

theorem perform_writeNew {directory : Directory} {file : FileName} {data : Bytes}
    (agrees : ∀ found, directory.files file = some found → found = data) :
    directory.perform (.writeNew file data) =
      (directory.put file data, .ok (directory.files file).isNone) := by
  rw [perform]
  cases there : directory.files file with
  | none => rfl
  | some found =>
      obtain rfl := agrees found there
      rw [put_eq_self there]
      simp

theorem perform_unlock (directory : Directory) :
    ∃ lock, directory.perform .unlock = ({ directory with lock := lock }, .ok ()) := by
  obtain ⟨files, location, lock⟩ := directory
  cases lock with
  | mine => exact ⟨.free, rfl⟩
  | missing => exact ⟨.missing, rfl⟩
  | free => exact ⟨.free, rfl⟩
  | others => exact ⟨.others, rfl⟩

end Directory

/-! ## The rules -/

theorem keeps_atomic (request : Call) {post : Except Raised (Answer request) → σ → Directory → Prop}
    (atomic : ∀ left, ¬ state.Torn request left) :
    (ask request).Keeps Directory.machine safe post memory state ↔
      safe state ∧ post (state.perform request).2 memory (state.perform request).1 := by
  refine keeps_ask.trans (and_congr_right fun _ => ?_)
  exact ⟨fun both => both.2, fun holds => ⟨fun left torn => absurd torn (atomic left), holds⟩⟩

theorem keeps_read {file : FileName} {post : Except Raised (Option Bytes) → σ → Directory → Prop} :
    (ask (.read file)).Keeps Directory.machine safe post memory state ↔
      safe state ∧ post (.ok (state.files file)) memory state :=
  keeps_atomic (.read file) fun _ torn => nomatch torn

theorem keeps_readIfAny {file : FileName}
    {post : Except Raised (Option Bytes) → σ → Directory → Prop} :
    (readIfAny file).Keeps Directory.machine safe post memory state ↔
      safe state ∧ post (.ok (state.files file)) memory state :=
  Program.keeps_bind.trans keeps_read

theorem keeps_readLocation
    {post : Except Raised (Option PublishedFile) → σ → Directory → Prop} :
    (ask .readLocation).Keeps Directory.machine safe post memory state ↔
      safe state ∧ post (.ok state.published) memory state :=
  keeps_atomic .readLocation fun _ torn => nomatch torn

theorem keeps_writeNew {file : FileName} {data : Bytes}
    {post : Except Raised Bool → σ → Directory → Prop}
    (agrees : ∀ found, state.files file = some found → found = data) :
    (ask (.writeNew file data)).Keeps Directory.machine safe post memory state ↔
      safe state ∧ post (.ok (state.files file).isNone) memory (state.put file data) := by
  refine (keeps_atomic (.writeNew file data) fun _ torn => nomatch torn).trans ?_
  rw [Directory.perform_writeNew agrees]

theorem keeps_replaceAtomically {file : FileName} {data : Bytes}
    {post : Except Raised Unit → σ → Directory → Prop} :
    (ask (.replaceAtomically file data)).Keeps Directory.machine safe post memory state ↔
      safe state ∧ post (.ok ()) memory (state.put file data) :=
  keeps_atomic (.replaceAtomically file data) fun _ torn => nomatch torn

theorem keeps_truncateDurably {file : FileName} {site : Site} {data : Bytes}
    {post : Except Raised Unit → σ → Directory → Prop} (there : state.files file = some data) :
    (ask (.truncateDurably file site)).Keeps Directory.machine safe post memory state ↔
      safe state ∧ post (.ok ()) memory (state.put file []) := by
  refine (keeps_atomic (.truncateDurably file site) fun _ torn => nomatch torn).trans ?_
  rw [Directory.perform, there]

theorem keeps_appendDurably {file : FileName} {data : Bytes}
    {post : Except Raised Unit → σ → Directory → Prop} :
    (ask (.appendDurably file data)).Keeps Directory.machine safe post memory state ↔
      safe state ∧
        (∀ written, written <+: data →
          safe (state.put file ((state.files file).getD [] ++ written))) ∧
        post (.ok ()) memory (state.put file ((state.files file).getD [] ++ data)) := by
  refine keeps_ask.trans (and_congr_right fun _ => and_congr_left fun _ => ?_)
  constructor
  · intro inside written some_of
    exact inside _ (.append file data written some_of)
  · rintro inside left ⟨_, _, written, some_of⟩
    exact inside written some_of

@[simp]
theorem keeps_ofExcept {α : Type} {outcome : Except Raised α}
    {post : Except Raised α → σ → Directory → Prop} :
    (Act.ofExcept outcome).Keeps Directory.machine safe post memory state ↔
      post outcome memory state := by
  cases outcome with
  | ok value => exact Iff.rfl
  | error error => exact Iff.rfl

/-! ## Reading -/

theorem observe_keeps {post : Except Raised View → σ → Directory → Prop} (files : List FileName)
    (here : safe state)
    (holds : ∀ view : View, (∀ file ∈ files, view file = state.files file) →
      post (.ok view) memory state) :
    (observe files).Keeps Directory.machine safe post memory state := by
  induction files generalizing post with
  | nil => exact holds _ fun file member => absurd member List.not_mem_nil
  | cons file files ih =>
      refine keeps_bind.mpr (keeps_read.mpr ⟨here, ?_⟩)
      refine keeps_bind.mpr (ih ?_)
      intro view agrees
      refine holds _ fun other member => ?_
      by_cases same : other = file
      · subst same
        exact Function.update_self ..
      · rw [Function.update_of_ne same]
        exact agrees other ((List.mem_cons.mp member).resolve_left same)

theorem loadEvents_congr {view view' : View} {trajectoryId : AttemptId} {chunks : List ChunkRef}
    (agree : ∀ ref ∈ chunks, view (.chunk ref.index ref.digest) =
      view' (.chunk ref.index ref.digest)) :
    loadEvents formats view trajectoryId chunks = loadEvents formats view' trajectoryId chunks := by
  have each : ∀ ref ∈ chunks, loadChunk formats view trajectoryId ref =
      loadChunk formats view' trajectoryId ref := by
    intro ref member
    rw [loadChunk, loadChunk, agree ref member]
  rw [loadEvents, loadEvents, Prod.mk.injEq]
  exact ⟨List.flatMap_congr fun ref member => congrArg Prod.fst (each ref member),
    List.flatMap_congr fun ref member => congrArg Prod.snd (each ref member)⟩

/-- Evidence verifies by the files it names alone. -/
theorem verifyTrajectory_congr {view view' : View} {trajectoryId : AttemptId}
    {manifest : TrajectoryManifest formats.fingerprints}
    (agree : ∀ file ∈ evidenceFiles formats manifest, view file = view' file) :
    verifyTrajectory formats view trajectoryId manifest =
      verifyTrajectory formats view' trajectoryId manifest := by
  have chunks : ∀ ref ∈ manifest.chunks, view (.chunk ref.index ref.digest) =
      view' (.chunk ref.index ref.digest) := by
    intro ref member
    refine agree _ ?_
    simp only [evidenceFiles, List.append_assoc, List.mem_append]
    exact Or.inl (List.mem_map_of_mem member)
  have expiry : view .expiry = view' .expiry := agree _ (by simp [evidenceFiles])
  have result : view .result = view' .result := agree _ (by simp [evidenceFiles])
  have blobs : checkAvailability formats view trajectoryId manifest =
      checkAvailability formats view' trajectoryId manifest := by
    have expiries : authorizedExpiries formats view trajectoryId manifest =
        authorizedExpiries formats view' trajectoryId manifest := by
      rw [authorizedExpiries, authorizedExpiries, readExpiryLog, readExpiryLog, expiry]
    unfold checkAvailability
    rw [expiries]
    refine List.map_congr_left fun blob member => ?_
    have held : view (.blob blob.1 blob.2) = view' (.blob blob.1 blob.2) := by
      refine agree _ ?_
      simp only [evidenceFiles, List.append_assoc, List.mem_append]
      exact Or.inr (Or.inr (Or.inl (List.mem_map.mpr ⟨blob, member, rfl⟩)))
    rw [availabilityOf, availabilityOf, held]
  have complete : ∀ events, completeProblems formats view manifest events =
      completeProblems formats view' manifest events := by
    intro events
    rw [completeProblems, completeProblems, result]
  unfold verifyTrajectory
  rw [loadEvents_congr chunks, blobs]
  simp only [complete]

theorem verified_keeps {post : Except Raised (List String) → σ → Directory → Prop}
    {trajectoryId : AttemptId} {manifest : TrajectoryManifest formats.fingerprints}
    (here : safe state)
    (holds : post (.ok (verifyTrajectory formats state.files trajectoryId manifest)) memory state) :
    (TrajectoryWriter.verified formats trajectoryId manifest).Keeps Directory.machine safe post
      memory state := by
  refine keeps_bind.mpr (observe_keeps _ here fun view agrees => ?_)
  refine keeps_pure.mpr ?_
  rw [verifyTrajectory_congr agrees]
  exact holds

theorem readManifest_keeps {file : FileName}
    {post : Except Raised (Option (TrajectoryManifest formats.fingerprints)) → σ → Directory →
      Prop} :
    (readManifest formats file).Keeps Directory.machine safe post memory state ↔
      safe state ∧ post (.ok ((state.files file).bind formats.validateManifest)) memory state :=
  keeps_bind.trans keeps_readIfAny

/-! ## Rolling -/

/-- Every chunk file is named by the digest of its bytes. -/
def Addressed (formats : Formats) (view : View) : Prop :=
  ∀ index digest data, view (.chunk index digest) = some data → formats.digestOf data = digest

theorem Addressed.put {file : FileName} {data : Bytes} (addressed : Addressed formats state.files)
    (other : ∀ index digest, file = .chunk index digest → formats.digestOf data = digest) :
    Addressed formats (state.put file data).files := by
  intro index digest found there
  by_cases same : FileName.chunk index digest = file
  · subst same
    rw [Directory.put_files_same] at there
    cases there
    exact other index digest rfl
  · rw [Directory.put_files_other _ _ same] at there
    exact addressed index digest found there

theorem Addressed.agrees (collisionFree : Function.Injective formats.digestOf)
    (addressed : Addressed formats state.files) {index : Nat} {data found : Bytes}
    (there : state.files (.chunk index (formats.digestOf data)) = some found) : found = data :=
  collisionFree (addressed index _ found there)

/-- A roll of numbered events publishes their chunk where no other stands, then advances the
progress to it. -/
theorem roll_publishes {trajectoryId : AttemptId} {progress : TrajectoryProgress}
    {events more : List TrajectoryEvent} {data : Bytes}
    {post : Except Raised TrajectoryProgress → σ → Directory → Prop}
    (isData : chunkBytes formats trajectoryId progress.chunks.length
      (progress.chunks.getLast?.map ChunkRef.digest) more = .ok data)
    (agrees : ∀ found,
      state.files (.chunk progress.chunks.length (formats.digestOf data)) = some found →
        found = data)
    (chain : Chain formats trajectoryId state.files progress.chunks events)
    (numbered : NumberedFrom events.length more)
    (here : safe state)
    (nothing : more = [] → post (.ok progress) memory state)
    (rolls : ∀ ref later,
      ref.index = progress.chunks.length → ref.digest = formats.digestOf data →
      ref.events = more.length → ref.bytes = data.length →
      later = state.put (.chunk ref.index ref.digest) data →
      Extends state.files later.files →
      Chain formats trajectoryId later.files (progress.chunks ++ [ref]) (events ++ more) →
      safe later ∧
        post (.ok ⟨progress.trajectoryId, progress.chunks ++ [ref]⟩) memory
          (later.put .progress (formats.progressBytes
            ⟨progress.trajectoryId, progress.chunks ++ [ref]⟩))) :
    (roll formats trajectoryId progress more).Keeps Directory.machine safe post memory state := by
  unfold roll
  cases isFirst : more.head? with
  | none => exact nothing (List.head?_eq_none_iff.mp isFirst)
  | some first =>
      cases isLast : more.getLast? with
      | none =>
          have empty := List.getLast?_eq_none_iff.mp isLast
          rw [empty] at isFirst
          cases isFirst
      | some last =>
          obtain ⟨ref, made, isIndex, isDigest, isEvents, isBytes⟩ := chunkRef_ok numbered isFirst
            isLast isData (formats.digestOf data)
          have agrees : ∀ found, state.files (.chunk ref.index ref.digest) = some found →
              found = data := by
            rw [isIndex, isDigest]
            exact agrees
          have wider := Directory.extends_put agrees
          have advanced := chain.advance numbered isFirst isLast isData made wider
            (Directory.put_files_same ..)
          obtain ⟨written, done⟩ := rolls ref _ isIndex isDigest isEvents isBytes rfl wider advanced
          refine keeps_bind.mpr (keeps_ofExcept.mpr ?_)
          rw [isData]
          refine keeps_bind.mpr (keeps_ofExcept.mpr ?_)
          rw [made]
          refine keeps_bind.mpr ((keeps_writeNew agrees).mpr ⟨here, ?_⟩)
          exact keeps_bind.mpr (keeps_replaceAtomically.mpr ⟨written, done⟩)

/-- Where no two contents have one digest, the place of a chunk is its own. -/
theorem roll_keeps {trajectoryId : AttemptId} {progress : TrajectoryProgress}
    {events more : List TrajectoryEvent}
    {post : Except Raised TrajectoryProgress → σ → Directory → Prop}
    (collisionFree : Function.Injective formats.digestOf)
    (addressed : Addressed formats state.files)
    (chain : Chain formats trajectoryId state.files progress.chunks events)
    (numbered : NumberedFrom events.length more)
    (unicode : ∀ event ∈ more, event.isUnicode = true) (here : safe state)
    (nothing : more = [] → post (.ok progress) memory state)
    (rolls : ∀ ref data later,
      later = state.put (.chunk ref.index ref.digest) data →
      Extends state.files later.files →
      formats.digestOf data = ref.digest →
      Chain formats trajectoryId later.files (progress.chunks ++ [ref]) (events ++ more) →
      safe later ∧
        post (.ok ⟨progress.trajectoryId, progress.chunks ++ [ref]⟩) memory
          (later.put .progress (formats.progressBytes
            ⟨progress.trajectoryId, progress.chunks ++ [ref]⟩))) :
    (roll formats trajectoryId progress more).Keeps Directory.machine safe post memory state := by
  obtain ⟨data, written⟩ := chunkBytes_ok trajectoryId progress.chunks.length
    (progress.chunks.getLast?.map ChunkRef.digest) unicode
  exact roll_publishes written (fun _ there => addressed.agrees collisionFree there) chain numbered
    here nothing fun ref later _ isDigest _ _ put wider advanced =>
      rolls ref _ later put wider isDigest.symm advanced

end Xaytune.Trajectory
