import Xaytune.Checkpoints.Wholeness

/-!
# A checkpoint id names one bundle

What is under an id is a whole bundle whenever there is anything, and no rename ever lands on it.
A commit compares itself with what it finds there, and so answers the same whenever it is tried.
-/

namespace Xaytune.Checkpoints

open Xaytune.Library

variable {formats : BundleFormats}

namespace StoreHost

variable {host host' : StoreHost} {pid place : Nat}

/-! ## What is published -/

/-- Only a rename onto a free id changes what is published. -/
theorem Sound.act_committed (sound : host.Sound formats) (lawful : formats.Lawful)
    (pid place : Nat) :
    (host.act formats pid place).committed = host.committed ∨
      ∃ staging reference directory, host.committed staging.checkpointId = none ∧
        (host.act formats pid place).committed =
          Function.update host.committed staging.checkpointId (some directory) ∧
        (host.act formats pid place).processes pid =
          some ⟨.commit staging (.syncing reference), true⟩ := by
  rcases sound.act_cases lawful pid place with
    idle | ⟨source, manifest, stage, next, isPut, going, puts⟩ | ⟨staging, stage, isCommit, going⟩
  · exact .inl (congrArg StoreHost.committed idle)
  · exact .inl puts.committed
  · obtain ⟨manifest, number, next, rfl, nears, -⟩ := sound.nears lawful isCommit going place
    rcases nears.committed with ⟨same, -⟩ | ⟨fresh, ⟨reference, rfl⟩, directory, -, updated, -⟩
    · exact .inl same
    · refine .inr ⟨manifest.staged number, reference, directory, fresh, updated, ?_⟩
      rw [nears.processes, Function.update_self]

/-- What is published stays as it is. -/
theorem Sound.step_grows (sound : host.Sound formats) (lawful : formats.Lawful) {move : StoreMove}
    {checkpointId : String} {directory : Directory}
    (published : host.committed checkpointId = some directory) :
    (host.step formats move).committed checkpointId = some directory := by
  cases move with
  | putStaging | commit =>
      simp only [StoreHost.step, start]
      split_ifs
      · exact published
      · exact published
  | crash pid => exact published
  | act pid place =>
      rw [StoreHost.step]
      rcases sound.act_committed lawful pid place with
        same | ⟨staging, reference, written, free, updated, -⟩
      · rw [same, published]
      · rw [updated, Function.update_of_ne]
        · exact published
        · rintro rfl
          rw [free] at published
          cases published

theorem Sound.grows (sound : host.Sound formats) (lawful : formats.Lawful)
    (reached : Reaches (StoreHost.step formats) Orderly host host') {checkpointId : String}
    {directory : Directory} (published : host.committed checkpointId = some directory) :
    host'.committed checkpointId = some directory := by
  have kept : host'.Sound formats ∧ host'.committed checkpointId = some directory := by
    apply reached.invariant ⟨sound, published⟩
    rintro between move ⟨sound', published'⟩ orderly
    exact ⟨sound'.step lawful orderly, sound'.step_grows lawful published'⟩
  exact kept.2

/-- The names of the published bundles. -/
def Names (host : StoreHost) (names : List String) : Prop :=
  ∀ name, name ∈ names ↔ (host.committed name).isSome

/-- The reference is of the bundle published under its id. -/
def Refers (formats : BundleFormats) (host : StoreHost) (reference : CheckpointRef) : Prop :=
  ∃ manifest, Whole formats manifest (host.committed manifest.context.checkpointId) ∧
    reference = manifest.reference (formats.uri manifest.context.checkpointId)

theorem Refers.get {reference : CheckpointRef} (refers : host.Refers formats reference) :
    ∃ directory manifest, get formats host.committed reference = .ok (directory, manifest) ∧
      Bundle formats manifest directory ∧ host.committed reference.id = some directory ∧
      manifest.context.checkpointId = reference.id := by
  obtain ⟨manifest, ⟨directory, published, bundle⟩, rfl⟩ := refers
  exact ⟨directory, manifest, bundle.get published, bundle, published, rfl⟩

/-- Any published names are listed, each with its bundle's reference. -/
theorem Sound.listed (sound : host.Sound formats) {names : List String}
    (published : ∀ name ∈ names, (host.committed name).isSome) :
    ∃ references, listed formats host.committed names = .ok references ∧
      ∀ reference, reference ∈ references ↔ reference.id ∈ names ∧
        host.Refers formats reference := by
  induction names with
  | nil => exact ⟨[], rfl, by simp⟩
  | cons name rest ih =>
      obtain ⟨references, isListed, members⟩ := ih fun name member =>
        published name (List.mem_cons_of_mem _ member)
      obtain ⟨directory, isPublished⟩ :=
        Option.isSome_iff_exists.mp (published name List.mem_cons_self)
      obtain ⟨manifest, bundle, rfl, -⟩ := sound.bundles _ _ isPublished
      have got := bundle.get isPublished
      refine ⟨manifest.reference (formats.uri manifest.context.checkpointId) :: references, ?_, ?_⟩
      · simp only [Checkpoints.listed, isPublished, bundle.tells, Bind.bind, Except.bind, got,
          isListed]
      · intro reference
        have mine : reference = manifest.reference (formats.uri manifest.context.checkpointId) ↔
            reference.id = manifest.context.checkpointId ∧ host.Refers formats reference := by
          constructor
          · rintro rfl
            exact ⟨rfl, manifest, ⟨directory, isPublished, bundle⟩, rfl⟩
          · rintro ⟨same, other, whole, rfl⟩
            have ids : other.context.checkpointId = manifest.context.checkpointId := same
            rw [ids] at whole
            rw [whole.unique ⟨directory, isPublished, bundle⟩]
        rw [List.mem_cons, List.mem_cons, members, mine, or_and_right]

/-! ## What a commit comes to -/

/-- A commit that has ended answers as the bundle under its id says. -/
theorem Sound.answer (sound : host.Sound formats) {staging : StagingRef} {stage : CommitStage}
    {alive : Bool} (isCommit : host.processes pid = some ⟨.commit staging stage, alive⟩)
    (ended : stage.running = false) :
    ∃ manifest, Whole formats manifest (host.committed staging.checkpointId) ∧
      manifest.context.checkpointId = staging.checkpointId ∧
      stage = if manifest.manifestDigest = staging.manifestDigest then
          .returned (manifest.reference (formats.uri staging.checkpointId))
        else .raised (.conflict staging.checkpointId) := by
  obtain ⟨manifest, number, rfl, -, fits⟩ := sound.commits _ _ _ _ isCommit
  have holds := fits (by rw [ended]; nofun)
  cases stage with
  | returned reference =>
      obtain ⟨rfl, whole⟩ := holds
      exact ⟨manifest, whole, rfl, by simp [CheckpointManifest.staged]⟩
  | raised error =>
      obtain ⟨rfl, other, whole, differs⟩ := holds
      obtain ⟨directory, published, bundle⟩ := whole
      obtain ⟨same, another, isId, -⟩ := sound.bundles _ _ published
      have isOther := Whole.unique ⟨directory, rfl, bundle⟩ ⟨directory, rfl, another⟩
      subst isOther
      refine ⟨other, ⟨directory, published, bundle⟩, isId, ?_⟩
      rw [if_neg]
      · rfl
      · exact differs
  | _ => cases ended

theorem act_of_ended {staging : StagingRef} {stage : CommitStage} {alive : Bool}
    (isCommit : host.processes pid = some ⟨.commit staging stage, alive⟩)
    (ended : stage.running = false) : host.act formats pid place = host := by
  cases alive with
  | false => simp only [StoreHost.act, isCommit]
  | true =>
      simp only [StoreHost.act, isCommit]
      cases stage with
      | returned | raised => rfl
      | _ => cases ended

theorem follow_of_ended {staging : StagingRef} {stage : CommitStage} {alive : Bool}
    (isCommit : host.processes pid = some ⟨.commit staging stage, alive⟩)
    (ended : stage.running = false) (places : List Nat) :
    follow (StoreHost.step formats) (places.map (.act pid)) host = host := by
  induction places with
  | nil => rfl
  | cons place rest ih =>
      rw [List.map_cons, follow, StoreHost.step, act_of_ended isCommit ended]
      exact ih

/-- A live commit that is left to itself ends. -/
theorem Sound.finishes (sound : host.Sound formats) (lawful : formats.Lawful)
    {staging : StagingRef} {stage : CommitStage}
    (isCommit : host.processes pid = some ⟨.commit staging stage, true⟩) (places : List Nat)
    (enough : stage.rank + removals (host.staging staging.directory) ≤ places.length) :
    ∃ ended, (follow (StoreHost.step formats) (places.map (.act pid)) host).processes pid =
        some ⟨.commit staging ended, true⟩ ∧ ended.running = false := by
  cases going : stage.running with
  | false =>
      rw [follow_of_ended isCommit going]
      exact ⟨stage, isCommit, going⟩
  | true =>
      induction places generalizing host stage with
      | nil =>
          exfalso
          have rank_pos : 0 < stage.rank := by
            cases stage with
            | returned | raised => cases going
            | _ => simp [CommitStage.rank]
          simp only [List.length_nil] at enough
          omega
      | cons place rest ih =>
          obtain ⟨manifest, number, next, rfl, nears, kept⟩ :=
            sound.nears lawful isCommit going place
          have here : (host.act formats pid place).processes pid =
              some ⟨.commit (manifest.staged number) next, true⟩ := by
            rw [nears.processes, Function.update_self]
          rw [List.map_cons, follow, StoreHost.step]
          cases going' : next.running with
          | false =>
              rw [follow_of_ended here going']
              exact ⟨next, here, going'⟩
          | true =>
              apply ih kept here _ going'
              have nearer := nears.nearer
              simp only [List.length_cons, CheckpointManifest.staged] at enough ⊢
              omega

end StoreHost

open StoreHost in
/-- No bundle takes another's place under a checkpoint id, and what is under it never changes;
a reference that was returned is good for ever, and only whole bundles that were committed are
listed; a commit comes to its end, and answers as the bundle under its id says; and nothing but a
rename onto a free id, by a commit that then returns, changes what is published. -/
theorem checkpoint_id_names_one_bundle (lawful : formats.Lawful) {host : StoreHost}
    (reached : Reaches (StoreHost.step formats) Orderly .empty host) :
    (host.renamed.map StagingRef.checkpointId).Nodup ∧
    (∀ later, Reaches (StoreHost.step formats) Orderly host later →
      ∀ checkpointId directory, host.committed checkpointId = some directory →
        later.committed checkpointId = some directory) ∧
    (∀ pid staging reference alive,
      host.processes pid = some ⟨.commit staging (.returned reference), alive⟩ →
        ∀ later, Reaches (StoreHost.step formats) Orderly host later →
          (∃ directory manifest,
            get formats later.committed reference = .ok (directory, manifest)) ∧
          ∀ names, later.Names names → ∃ references,
            listed formats later.committed names = .ok references ∧ reference ∈ references) ∧
    (∀ names, host.Names names → ∃ references,
      listed formats host.committed names = .ok references ∧
        ∀ reference ∈ references, ∃ directory manifest number,
          host.committed reference.id = some directory ∧ Bundle formats manifest directory ∧
          reference = manifest.reference (formats.uri reference.id) ∧
          manifest.staged number ∈ host.renamed) ∧
    (∀ pid staging stage, host.processes pid = some ⟨.commit staging stage, true⟩ →
      ∃ bound, ∀ places : List Nat, bound ≤ places.length →
        ∃ ended, (follow (StoreHost.step formats) (places.map (.act pid)) host).processes pid =
          some ⟨.commit staging ended, true⟩ ∧ ended.running = false) ∧
    (∀ pid staging stage alive, host.processes pid = some ⟨.commit staging stage, alive⟩ →
      stage.running = false →
        ∃ manifest, Whole formats manifest (host.committed staging.checkpointId) ∧
          manifest.context.checkpointId = staging.checkpointId ∧
          stage = if manifest.manifestDigest = staging.manifestDigest then
              .returned (manifest.reference (formats.uri staging.checkpointId))
            else .raised (.conflict staging.checkpointId)) ∧
    ∀ pid place, (host.act formats pid place).committed = host.committed ∨
      ∃ staging reference directory, host.committed staging.checkpointId = none ∧
        (host.act formats pid place).committed =
          Function.update host.committed staging.checkpointId (some directory) ∧
        (host.act formats pid place).processes pid =
          some ⟨.commit staging (.syncing reference), true⟩ := by
  have sound : host.Sound formats := Sound.empty.of_reaches lawful reached
  refine ⟨sound.once, ?_, ?_, ?_, ?_, ?_, sound.act_committed lawful⟩
  · intro later onward checkpointId directory published
    exact sound.grows lawful onward published
  · intro pid staging reference alive returned later onward
    have sound' := sound.of_reaches lawful onward
    obtain ⟨manifest, ⟨directory, published, bundle⟩, isId, answer⟩ := sound.answer returned rfl
    have isReference : reference = manifest.reference (formats.uri staging.checkpointId) := by
      split_ifs at answer
      exact CommitStage.returned.inj answer
    rw [← isId] at published isReference
    have published' := sound.grows lawful onward published
    have refers : later.Refers formats reference :=
      ⟨manifest, ⟨directory, published', bundle⟩, isReference⟩
    constructor
    · obtain ⟨directory', manifest', got, -⟩ := refers.get
      exact ⟨directory', manifest', got⟩
    · intro names isNames
      obtain ⟨references, isListed, members⟩ := sound'.listed fun name => (isNames name).mp
      refine ⟨references, isListed, (members reference).mpr ⟨?_, refers⟩⟩
      have named : manifest.context.checkpointId ∈ names :=
        (isNames _).mpr (Option.isSome_iff_exists.mpr ⟨directory, published'⟩)
      rw [isReference]
      exact named
  · intro names isNames
    obtain ⟨references, isListed, members⟩ := sound.listed fun name => (isNames name).mp
    refine ⟨references, isListed, ?_⟩
    intro reference member
    obtain ⟨manifest, ⟨directory, published, bundle⟩, rfl⟩ := ((members reference).mp member).2
    obtain ⟨manifest', bundle', -, number, renamed⟩ := sound.bundles _ _ published
    have same := Whole.unique ⟨directory, rfl, bundle⟩ ⟨directory, rfl, bundle'⟩
    exact ⟨directory, manifest, number, published, bundle, rfl, same ▸ renamed⟩
  · intro pid staging stage isCommit
    exact ⟨_, fun places enough => sound.finishes lawful isCommit places enough⟩
  · intro pid staging stage alive isCommit ended
    exact sound.answer isCommit ended

/-! ## Runs of one process -/

namespace StoreHost

variable {host : StoreHost} {pid place number : Nat} {manifest : CheckpointManifest}
  {source directory : Directory}

theorem goTo_goTo (task task' : StoreTask) :
    (host.goTo pid task).goTo pid task' = host.goTo pid task' := by
  simp [goTo, Function.update_idem]

theorem act_goTo_put (stage : PutStage) :
    (host.goTo pid (.put source manifest stage)).act formats pid place =
      (host.goTo pid (.put source manifest stage)).putStep formats pid source manifest stage
        place := by
  simp [act, goTo]

theorem act_goTo_commit (staging : StagingRef) (stage : CommitStage) :
    (host.goTo pid (.commit staging stage)).act formats pid place =
      (host.goTo pid (.commit staging stage)).commitStep formats pid staging stage place := by
  simp [act, goTo]

theorem orderly_act (pid place : Nat) : host.Orderly (.act pid place) := ⟨trivial, nofun⟩

theorem reaches_act {start : StoreHost}
    (reached : Reaches (StoreHost.step formats) Orderly start host) (pid place : Nat) :
    Reaches (StoreHost.step formats) Orderly start (host.act formats pid place) :=
  reached.next (orderly_act pid place)

theorem reaches_start {start : StoreHost}
    (reached : Reaches (StoreHost.step formats) Orderly start host)
    (free : host.processes pid = none) :
    Reaches (StoreHost.step formats) Orderly start
      (host.goTo pid (.put source manifest .checking)) := by
  have begun : host.step formats (.putStaging pid source manifest) =
      host.goTo pid (.put source manifest .checking) := by
    simp [StoreHost.step, StoreHost.start, free]
  rw [← begun]
  exact reached.next ⟨trivial, by simp⟩

theorem reaches_acts {start : StoreHost}
    (reached : Reaches (StoreHost.step formats) Orderly start host) (count : Nat) :
    Reaches (StoreHost.step formats) Orderly start
      (follow (StoreHost.step formats) (List.replicate count (.act pid 0)) host) := by
  induction count generalizing host with
  | zero => exact reached
  | succ count ih => exact ih (reaches_act reached pid 0)

/-- The files that are left are written one after the other. -/
theorem reaches_created {start : StoreHost} (sourced : Sourced formats source manifest)
    {left : List Entry} (isStaging : host.staging pid = some directory)
    (rows : directory.rows ++ left = bundleEntries formats source manifest)
    (reached : Reaches (StoreHost.step formats) Orderly start
      (host.goTo pid (.put source manifest (.creating left)))) :
    ∃ written, written.rows = bundleEntries formats source manifest ∧
      Reaches (StoreHost.step formats) Orderly start
        ((host.writeStaging pid (some written)).goTo pid
          (.put source manifest (.creating []))) := by
  induction left generalizing host directory with
  | nil =>
      have same : host.writeStaging pid (some directory) = host := by
        rw [writeStaging, ← isStaging, Function.update_eq_self]
      refine ⟨directory, by simpa using rows, ?_⟩
      rw [same]
      exact reached
  | cons entry left ih =>
      obtain ⟨next, inserted, nextRows⟩ := @insert_next directory entry left (rows ▸ sourced.nodup)
      have created : (host.goTo pid (.put source manifest (.creating (entry :: left)))).act formats
          pid 0 = (host.writeStaging pid (some next)).goTo pid
            (.put source manifest (.filling entry left)) := by
        rw [act_goTo_put]
        simp [putStep, goTo, isStaging, inserted, writeStaging]
      have filled : ((host.writeStaging pid (some next)).goTo pid
          (.put source manifest (.filling entry left))).act formats pid 0 =
            (host.writeStaging pid (some (next.replace entry))).goTo pid
              (.put source manifest (.creating left)) := by
        rw [act_goTo_put]
        simp [putStep, goTo, writeStaging]
      have onward := reaches_act (reaches_act reached pid 0) pid 0
      rw [created, filled] at onward
      have entries : (next.replace entry).rows ++ left = bundleEntries formats source manifest := by
        rw [replace_last nextRows]
        simpa using rows
      obtain ⟨written, isWritten, ended⟩ := ih (Function.update_self ..) entries onward
      refine ⟨written, isWritten, ?_⟩
      simpa [writeStaging] using ended

/-- A verified source is staged whole. -/
theorem reaches_staged {start : StoreHost} (lawful : formats.Lawful)
    (sourced : Sourced formats source manifest) (free : host.processes pid = none)
    (reached : Reaches (StoreHost.step formats) Orderly start host) :
    ∃ written, written.rows = bundleEntries formats source manifest ∧
      Reaches (StoreHost.step formats) Orderly start
        ((host.writeStaging pid (some written)).goTo pid
          (.put source manifest (.returned (manifest.staged pid)))) := by
  have checked :
    ((host.goTo pid (.put source manifest .checking)).act formats pid 0).act formats pid
      0 = (host.writeStaging pid (some (.empty _))).goTo pid
        (.put source manifest (.creating (bundleEntries formats source manifest))) := by
    rw [act_goTo_put]
    simp only [putStep, sourced.sound, sourced.verified]
    rw [goTo_goTo, act_goTo_put]
    simp [putStep, goTo, writeStaging]
  have started : Reaches (StoreHost.step formats) Orderly start
      (host.goTo pid (.put source manifest .checking)) := reaches_start reached free
  have begun := reaches_act (reaches_act started pid 0) pid 0
  rw [checked] at begun
  obtain ⟨written, rows, created⟩ :=
    reaches_created sourced (Function.update_self ..) (List.nil_append _) begun
  have bundle := sourced.bundle lawful rows
  have returned : ((((host.writeStaging pid (some (.empty _))).writeStaging pid (some written)).goTo
      pid (.put source manifest (.creating []))).act formats pid 0).act formats pid 0 =
        (host.writeStaging pid (some written)).goTo pid
          (.put source manifest (.returned (manifest.staged pid))) := by
    rw [act_goTo_put]
    simp only [putStep]
    rw [goTo_goTo, act_goTo_put]
    simp [putStep, goTo, writeStaging, bundle.keeps, CheckpointManifest.staged]
  have ended := reaches_act (reaches_act created pid 0) pid 0
  rw [returned] at ended
  exact ⟨written, rows, ended⟩

/-- A commit may start: its staging has been returned and no process is at work on it. -/
theorem reaches_looking {start : StoreHost}
    (reached : Reaches (StoreHost.step formats) Orderly start host)
    (free : host.processes pid = none) (isStaged : host.Staged manifest number)
    (alone : ∀ pid, ¬host.Committing number pid) :
    Reaches (StoreHost.step formats) Orderly start
      (host.goTo pid (.commit (manifest.staged number) .looking)) := by
  have begun : host.step formats (.commit pid (manifest.staged number)) =
      host.goTo pid (.commit (manifest.staged number) .looking) := by
    simp [StoreHost.step, StoreHost.start, free]
  rw [← begun]
  exact reached.next ⟨⟨⟨manifest, number, rfl, isStaged⟩, alone⟩, by simp⟩

/-- The host once a staging has been renamed. -/
def publish (manifest : CheckpointManifest) (number : Nat) (directory : Directory)
    (host : StoreHost) : StoreHost :=
  { host.writeStaging number none with
    committed := Function.update host.committed manifest.context.checkpointId (some directory)
    renamed := manifest.staged number :: host.renamed }

/-- The first commit under an id publishes its staging. -/
theorem acts_publish (isStaging : host.staging number = some directory)
    (bundle : Bundle formats manifest directory)
    (fresh : host.committed manifest.context.checkpointId = none) :
    follow (StoreHost.step formats) (List.replicate 5 (.act pid 0))
        (host.goTo pid (.commit (manifest.staged number) .looking)) =
      (host.publish manifest number directory).goTo pid (.commit (manifest.staged number)
        (.returned (manifest.reference (formats.uri manifest.context.checkpointId)))) := by
  simp [follow, StoreHost.step, List.replicate, act, commitStep, goTo, publish, writeStaging,
    CheckpointManifest.staged, fresh, isStaging, bundle.tells, bundle.keeps]

/-- A commit of what is published already gets to the removal of its staging. -/
theorem acts_replay {published : Directory} (isStaging : host.staging number = some directory)
    (bundle : Bundle formats manifest directory)
    (isPublished : host.committed manifest.context.checkpointId = some published)
    (bundle' : Bundle formats manifest published) :
    follow (StoreHost.step formats) (List.replicate 3 (.act pid 0))
        (host.goTo pid (.commit (manifest.staged number) .looking)) =
      host.goTo pid (.commit (manifest.staged number)
        (.removing (manifest.reference (formats.uri manifest.context.checkpointId)))) := by
  have compared := bundle'.existing manifest.manifestDigest
  rw [if_neg (not_not.mpr rfl)] at compared
  simp [follow, StoreHost.step, List.replicate, act, commitStep, goTo, checkReplay,
    CheckpointManifest.staged, isPublished, compared, isStaging, bundle.tells, bundle.keeps,
    Bind.bind, Except.bind]

/-- A commit whose staging has lost its manifest raises, whatever is published. -/
theorem acts_torn {published : Directory} (isStaging : host.staging number = some directory)
    {error : CheckpointError} (torn : readManifest formats (some directory) = .error error)
    (isPublished : host.committed manifest.context.checkpointId = some published)
    (bundle : Bundle formats manifest published) :
    follow (StoreHost.step formats) (List.replicate 3 (.act pid 0))
        (host.goTo pid (.commit (manifest.staged number) .looking)) =
      host.goTo pid (.commit (manifest.staged number) (.raised error)) := by
  have compared := bundle.existing manifest.manifestDigest
  rw [if_neg (not_not.mpr rfl)] at compared
  simp [follow, StoreHost.step, List.replicate, act, commitStep, goTo, checkReplay,
    CheckpointManifest.staged, isPublished, compared, isStaging, torn, Bind.bind, Except.bind]

/-- Two writers have staged one manifest. -/
def stagedTwice (source : Directory) (manifest : CheckpointManifest) (directory : Directory) :
    StoreHost :=
  ((StoreHost.empty.writeStaging 0 (some directory)).goTo 0
    (.put source manifest (.returned (manifest.staged 0))) |>.writeStaging 1
      (some directory)).goTo 1 (.put source manifest (.returned (manifest.staged 1)))

/-- The first has committed it and the second is about to remove its staging. -/
def replaying (formats : BundleFormats) (source : Directory) (manifest : CheckpointManifest)
    (directory : Directory) : StoreHost :=
  let reference := manifest.reference (formats.uri manifest.context.checkpointId)
  (((stagedTwice source manifest directory).publish manifest 0 directory).goTo 2
    (.commit (manifest.staged 0) (.returned reference))).goTo 3
      (.commit (manifest.staged 1) (.removing reference))

theorem committing_goTo {task : StoreTask} {other : Nat}
    (running : (host.goTo pid task).Committing number other) :
    host.Committing number other ∨
      ∃ staging stage, task = .commit staging stage ∧ stage.running = true ∧
        staging.directory = number := by
  obtain ⟨staging, stage, isCommit, going, rfl⟩ := running
  by_cases same : other = pid
  · subst same
    simp only [goTo, Function.update_self, Option.some.injEq, StoreProcess.mk.injEq] at isCommit
    exact .inr ⟨staging, stage, isCommit.1, going, rfl⟩
  · simp only [goTo, Function.update_of_ne same] at isCommit
    exact .inl ⟨staging, stage, isCommit, going, rfl⟩

theorem not_committing_stagedTwice (other : Nat) :
    ¬(stagedTwice source manifest directory).Committing number other := by
  intro running
  rcases committing_goTo running with running | ⟨_, _, task, -⟩
  · rcases committing_goTo running with ⟨staging, stage, isCommit, -⟩ | ⟨_, _, task, -⟩
    · cases isCommit
    · cases task
  · cases task

theorem reaches_replaying (lawful : formats.Lawful) (sourced : Sourced formats source manifest) :
    ∃ written, written.rows = bundleEntries formats source manifest ∧
      Reaches (StoreHost.step formats) Orderly .empty
        (replaying formats source manifest written) := by
  obtain ⟨first, rows, reached⟩ :=
    @reaches_staged formats .empty 0 manifest source .empty lawful sourced rfl .start
  obtain ⟨second, rows', reached⟩ :=
    @reaches_staged formats _ 1 manifest source .empty lawful sourced (by rfl) reached
  obtain rfl : second = first := Table.ext (rows'.trans rows.symm)
  have bundle := sourced.bundle lawful rows
  have looking : Reaches (StoreHost.step formats) Orderly .empty
      ((stagedTwice source manifest second).goTo 2 (.commit (manifest.staged 0) .looking)) :=
    reaches_looking reached rfl ⟨source, true, rfl⟩ not_committing_stagedTwice
  have published := @reaches_acts _ _ 2 _ looking 5
  rw [acts_publish (by rfl) bundle (by rfl)] at published
  have looking' : Reaches (StoreHost.step formats) Orderly .empty
      ((((stagedTwice source manifest second).publish manifest 0 second).goTo 2
        (.commit (manifest.staged 0) (.returned (manifest.reference
          (formats.uri manifest.context.checkpointId))))).goTo 3
            (.commit (manifest.staged 1) .looking)) := by
    apply reaches_looking published rfl ⟨source, true, rfl⟩
    intro other running
    rcases committing_goTo running with running | ⟨_, _, task, going, -⟩
    · exact not_committing_stagedTwice other running
    · cases task
      cases going
  have removing := @reaches_acts _ _ 3 _ looking' 3
  rw [acts_replay (by rfl) bundle (Function.update_self ..) bundle] at removing
  exact ⟨second, rows, removing⟩

/-- The removal has taken the manifest when the process crashes. -/
def torn (formats : BundleFormats) (source : Directory) (manifest : CheckpointManifest)
    (directory rest : Directory) : StoreHost :=
  ((replaying formats source manifest directory).writeStaging 1 (some rest)).crash 3

theorem reaches_torn {files : List Entry} {written rest : Directory}
    (reached : Reaches (StoreHost.step formats) Orderly .empty
      (replaying formats source manifest written))
    (rows : written.rows = files ++ [manifestEntry formats manifest]) (isRest : rest.rows = files) :
    Reaches (StoreHost.step formats) Tried .empty (torn formats source manifest written rest) := by
  have taken : removeStep files.length written = some rest := by
    have some_left : written.rows ≠ [] := by simp [rows]
    have inside : files.length % written.rows.length = files.length := by
      apply Nat.mod_eq_of_lt
      simp [rows]
    rw [removeStep, if_neg some_left, inside]
    refine congrArg some (Table.ext ?_)
    simp [removeFile, rows, isRest, List.eraseIdx_append_of_length_le]
  have removed : (replaying formats source manifest written).act formats 3 files.length =
      (replaying formats source manifest written).writeStaging 1 (some rest) := by
    rw [replaying, act_goTo_commit]
    have isStaging : (replaying formats source manifest written).staging 1 = some written := rfl
    simp only [replaying] at isStaging
    simp only [commitStep, CheckpointManifest.staged] at isStaging ⊢
    simp only [isStaging, taken]
    simp [goTo, writeStaging]
  have weaker := (reaches_act reached 3 files.length).mono fun _ _ orderly => orderly.1
  rw [removed] at weaker
  have permitted : ((replaying formats source manifest written).writeStaging 1 (some rest)).Tried
      (.crash 3) := trivial
  exact weaker.next permitted

theorem not_committing_torn {rest : Directory} (other : Nat) :
    ¬(torn formats source manifest directory rest).Committing number other := by
  rintro ⟨staging, stage, isCommit, going, same⟩
  by_cases crashed : other = 3
  · subst crashed
    cases isCommit
  · simp only [torn, crash, writeStaging, replaying, goTo,
      Function.update_of_ne crashed] at isCommit
    by_cases ended : other = 2
    · subst ended
      rw [Function.update_self] at isCommit
      cases isCommit
      cases going
    · rw [Function.update_of_ne ended] at isCommit
      exact not_committing_stagedTwice other ⟨staging, stage, isCommit, going, same⟩

end StoreHost

theorem Sample.sourced : ∃ source manifest, Sourced Sample.digests source manifest := by
  obtain ⟨files, -, listed⟩ := (Sample.declarable none nofun).listed
  have verified : verify Sample.digests (copyOf listed.listing)
      (declared Sample.digests (Sample.state none) Sample.context files) = .ok () :=
    listed.listing.verify (List.append_nil _).symm nofun rfl
  exact ⟨_, _, listed.manifestFault, verified⟩

open StoreHost in
/-- Two writers stage one manifest; the second commit is on its way when the first has returned. -/
theorem checkpoint_id_names_one_bundle_of_two_writers :
    ∃ (host : StoreHost) (manifest : CheckpointManifest) (reference : CheckpointRef),
      Reaches (StoreHost.step Sample.digests) Orderly .empty host ∧
      host.processes 2 = some ⟨.commit (manifest.staged 0) (.returned reference), true⟩ ∧
      host.processes 3 = some ⟨.commit (manifest.staged 1) (.removing reference), true⟩ ∧
      (∃ directory found, get Sample.digests host.committed reference = .ok (directory, found)) ∧
      (∃ references, listed Sample.digests host.committed [manifest.context.checkpointId] =
        .ok references ∧ reference ∈ references) ∧
      ∃ bound, ∀ places : List Nat, bound ≤ places.length →
        ∃ ended, (follow (StoreHost.step Sample.digests) (places.map (.act 3)) host).processes 3 =
          some ⟨.commit (manifest.staged 1) ended, true⟩ ∧ ended.running = false := by
  obtain ⟨source, manifest, sourced⟩ := Sample.sourced
  obtain ⟨written, rows, reached⟩ := reaches_replaying Sample.lawful sourced
  obtain ⟨-, -, returned, -, ends, -, -⟩ := checkpoint_id_names_one_bundle Sample.lawful reached
  have names : (replaying Sample.digests source manifest written).Names
      [manifest.context.checkpointId] := by
    intro name
    by_cases same : name = manifest.context.checkpointId
    · simp [same, replaying, publish, goTo]
    · simp [same, replaying, publish, goTo, stagedTwice, writeStaging, StoreHost.empty]
  obtain ⟨got, lists⟩ := returned 2 (manifest.staged 0) _ true rfl _ .start
  exact ⟨_, manifest, _, reached, rfl, rfl, got, lists _ names, ends 3 _ _ rfl⟩

open StoreHost in
/-- A crash inside the removal of a replayed staging: the next commit of what is published already
is refused as corrupt. -/
theorem replayed_commit_raises_after_crash :
    ∃ (host : StoreHost) (manifest : CheckpointManifest),
      Reaches (StoreHost.step Sample.digests) Tried .empty host ∧
      Whole Sample.digests manifest (host.committed manifest.context.checkpointId) ∧
      host.processes 4 = some ⟨.commit (manifest.staged 1)
        (.raised (.corruption "checkpoint manifest is missing or invalid")), true⟩ := by
  obtain ⟨source, manifest, sourced⟩ := Sample.sourced
  obtain ⟨written, rows, reached⟩ := reaches_replaying Sample.lawful sourced
  obtain ⟨files, listing, entries, -⟩ := sourced.listing
  have bundle := sourced.bundle Sample.lawful rows
  have crashed := @reaches_torn _ _ _ _ _ (copyOf listing) reached (rows.trans entries) rfl
  have missing : readManifest Sample.digests (some (copyOf listing)) =
      .error (.corruption "checkpoint manifest is missing or invalid") := by
    have absent : (copyOf listing).find? "manifest.json" = none := by
      apply Table.find?_eq_none_iff.mpr
      intro entry member
      exact path_ne_manifest (listing.canonical entry member)
    simp only [readManifest, Option.bind_some, absent, Option.bind_none]
  have published : (torn Sample.digests source manifest written (copyOf listing)).committed
      manifest.context.checkpointId = some written := Function.update_self ..
  have looking : Reaches (StoreHost.step Sample.digests) Orderly
      (torn Sample.digests source manifest written (copyOf listing))
      ((torn Sample.digests source manifest written (copyOf listing)).goTo 4
        (.commit (manifest.staged 1) .looking)) :=
    reaches_looking .start rfl ⟨source, true, rfl⟩ not_committing_torn
  have onward := @reaches_acts _ _ 4 _ looking 3
  rw [acts_torn (by rfl) missing published bundle] at onward
  exact ⟨_, manifest, crashed.trans (onward.mono fun _ _ orderly => orderly.1),
    ⟨written, published, bundle⟩, rfl⟩

end Xaytune.Checkpoints
