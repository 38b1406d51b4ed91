import Xaytune.Checkpoints.Publication
import Xaytune.Checkpoints.RoundTrip

/-!
# Stagings are whole

A staging directory is whole from the moment its reference is returned until it is renamed or
removed, and it is removed only when its manifest is published already.
-/

namespace Xaytune.Checkpoints

open Xaytune.Library

variable (formats : BundleFormats)

/-- The directory is there and is a bundle of the manifest. -/
def Whole (manifest : CheckpointManifest) (found : Option Directory) : Prop :=
  ∃ directory, found = some directory ∧ Bundle formats manifest directory

/-- The reference to a manifest staged in a directory. -/
def CheckpointManifest.staged (manifest : CheckpointManifest) (number : Nat) : StagingRef :=
  ⟨manifest.context.checkpointId, number, manifest.manifestDigest⟩

/-- The manifest is sound and the source is what it lists. -/
structure Sourced (source : Directory) (manifest : CheckpointManifest) : Prop where
  sound : manifestFault formats manifest = none
  verified : verify formats source manifest = .ok ()

/-- What holds of a staging directory while `put_staging` fills it. -/
def PutStage.Fits (source : Directory) (manifest : CheckpointManifest) (pid : Nat)
    (found : Option Directory) : PutStage → Prop
  | .checking | .raised _ => True
  | .making => Sourced formats source manifest
  | .creating left =>
      Sourced formats source manifest ∧
        ∃ directory, found = some directory ∧
          directory.rows ++ left = bundleEntries formats source manifest
  | .filling entry left =>
      Sourced formats source manifest ∧
        ∃ directory written, found = some directory ∧ directory.rows = written ++ [(entry.1, [])] ∧
          written ++ entry :: left = bundleEntries formats source manifest
  | .verifying =>
      Sourced formats source manifest ∧
        ∃ directory, found = some directory ∧
          directory.rows = bundleEntries formats source manifest
  | .cleaning _ => False
  | .returned staging => staging = manifest.staged pid

/-- What holds of the staging directory and of the id while `commit` works on them. -/
def CommitStage.Fits (manifest : CheckpointManifest) (found published : Option Directory) :
    CommitStage → Prop
  | .looking => True
  | .reading => Whole formats manifest found
  | .verifying read | .publishing read => read = manifest ∧ Whole formats manifest found
  | .comparing => published.isSome
  | .discarding reference | .removing reference | .syncing reference | .returned reference =>
      reference = manifest.reference (formats.uri manifest.context.checkpointId) ∧
        Whole formats manifest published
  | .raised error =>
      error = .conflict manifest.context.checkpointId ∧
        ∃ other, Whole formats other published ∧ other.manifestDigest ≠ manifest.manifestDigest

def CommitStage.rank : CommitStage → Nat
  | .looking => 8
  | .reading => 7
  | .verifying _ => 6
  | .publishing _ => 5
  | .comparing => 4
  | .discarding _ => 3
  | .removing _ => 2
  | .syncing _ => 1
  | .returned _ | .raised _ => 0

/-- How many removals a directory takes. -/
def removals (found : Option Directory) : Nat :=
  found.elim 0 fun directory => directory.rows.length + 1

namespace StoreHost

/-- `put_staging` has returned the reference of a manifest. -/
def Staged (host : StoreHost) (manifest : CheckpointManifest) (number : Nat) : Prop :=
  ∃ source alive, host.processes number =
    some ⟨.put source manifest (.returned (manifest.staged number)), alive⟩

/-- A live commit of the staging in a directory that has not ended. -/
def Committing (host : StoreHost) (number pid : Nat) : Prop :=
  ∃ staging stage, host.processes pid = some ⟨.commit staging stage, true⟩ ∧
    stage.running = true ∧ staging.directory = number

/-- A live process inside the removal of a staging. -/
def Removing (host : StoreHost) (number pid : Nat) : Prop :=
  ∃ staging reference, host.processes pid = some ⟨.commit staging (.removing reference), true⟩ ∧
    staging.directory = number

/-- The staging is whole, or it is gone and its manifest is published. -/
def Rests (host : StoreHost) (manifest : CheckpointManifest) (number : Nat) : Prop :=
  Whole formats manifest (host.staging number) ∨
    host.staging number = none ∧
      Whole formats manifest (host.committed manifest.context.checkpointId)

/-- What every run keeps. -/
structure Sound (host : StoreHost) : Prop where
  bundles : ∀ checkpointId directory, host.committed checkpointId = some directory →
    ∃ manifest, Bundle formats manifest directory ∧ manifest.context.checkpointId = checkpointId ∧
      ∃ number, manifest.staged number ∈ host.renamed
  published : ∀ staging ∈ host.renamed, (host.committed staging.checkpointId).isSome
  once : (host.renamed.map StagingRef.checkpointId).Nodup
  puts : ∀ pid source manifest stage alive,
    host.processes pid = some ⟨.put source manifest stage, alive⟩ →
      stage.Fits formats source manifest pid (host.staging pid)
  commits : ∀ pid staging stage alive,
    host.processes pid = some ⟨.commit staging stage, alive⟩ →
      ∃ manifest number, staging = manifest.staged number ∧ host.Staged manifest number ∧
        ((stage.running = true → alive = true) →
          stage.Fits formats manifest (host.staging number)
            (host.committed manifest.context.checkpointId))
  rests : ∀ manifest number, host.Staged manifest number →
    (∀ pid, ¬host.Removing number pid) → host.Rests formats manifest number
  single : ∀ number first second, host.Committing number first → host.Committing number second →
    first = second

/-- A commit is of a reference that was returned, and is tried again when the try before has ended
or crashed. -/
def Tried (host : StoreHost) : StoreMove → Prop
  | .putStaging _ _ _ | .act _ _ | .crash _ => True
  | .commit _ staging =>
      (∃ manifest number, staging = manifest.staged number ∧ host.Staged manifest number) ∧
        ∀ pid, ¬host.Committing staging.directory pid

/-- And no crash falls inside the removal of a replayed staging. -/
def Orderly (host : StoreHost) (move : StoreMove) : Prop :=
  host.Tried move ∧ ∀ pid number, move = .crash pid → ¬host.Removing number pid

end StoreHost

variable {formats}

/-! ## Directories -/

theorem Whole.unique {first second : CheckpointManifest} {found : Option Directory}
    (whole : Whole formats first found) (whole' : Whole formats second found) : first = second := by
  obtain ⟨directory, rfl, bundle⟩ := whole
  obtain ⟨directory', same, bundle'⟩ := whole'
  cases same
  exact Except.ok.inj (bundle.tells.symm.trans bundle'.tells)

theorem Whole.grows {manifest : CheckpointManifest} {found later : Option Directory}
    (whole : Whole formats manifest found)
    (grows : ∀ directory, found = some directory → later = some directory) :
    Whole formats manifest later := by
  obtain ⟨directory, isFound, bundle⟩ := whole
  exact ⟨directory, grows _ isFound, bundle⟩

theorem CommitStage.Fits.grows {manifest : CheckpointManifest}
    {found published later : Option Directory} {stage : CommitStage}
    (fits : stage.Fits formats manifest found published)
    (grows : ∀ directory, published = some directory → later = some directory) :
    stage.Fits formats manifest found later := by
  cases stage with
  | looking | reading | verifying | publishing => exact fits
  | comparing =>
      obtain ⟨directory, isPublished⟩ := Option.isSome_iff_exists.mp fits
      exact Option.isSome_iff_exists.mpr ⟨directory, grows _ isPublished⟩
  | discarding | removing | syncing | returned => exact ⟨fits.1, fits.2.grows grows⟩
  | raised =>
      obtain ⟨isError, other, whole, differs⟩ := fits
      exact ⟨isError, other, whole.grows grows, differs⟩

/-- What is copied of a verified source. -/
theorem Sourced.listing {source : Directory} {manifest : CheckpointManifest}
    (sourced : Sourced formats source manifest) :
    ∃ files, Listing files ∧ bundleEntries formats source manifest =
        files ++ [manifestEntry formats manifest] ∧
      manifest.files = files.map (describe formats) := by
  have verified := sourced.verified
  unfold verify at verified
  cases listed : filesIn true source with
  | error error => simp [listed, Bind.bind, Except.bind] at verified
  | ok files =>
      simp only [listed, Bind.bind, Except.bind] at verified
      split_ifs at verified with same
      obtain ⟨listing, members⟩ := Listing.of_filesIn listed
      have entries : listedEntries source manifest = files :=
        Listing.listedEntries (fun entry member => ((members entry).mp member).1) same.symm
      exact ⟨files, listing, by rw [bundleEntries, entries], same.symm⟩

theorem Sourced.nodup {source : Directory} {manifest : CheckpointManifest}
    (sourced : Sourced formats source manifest) :
    ((bundleEntries formats source manifest).map Prod.fst).Nodup := by
  obtain ⟨files, listing, entries, -⟩ := sourced.listing
  rw [entries]
  exact listing.with_manifest manifest

theorem Sourced.bundle {source directory : Directory} {manifest : CheckpointManifest}
    (sourced : Sourced formats source manifest) (lawful : formats.Lawful)
    (rows : directory.rows = bundleEntries formats source manifest) :
    Bundle formats manifest directory := by
  obtain ⟨files, listing, entries, isFiles⟩ := sourced.listing
  rw [entries] at rows
  constructor
  · have found : directory.find? "manifest.json" = some (manifestEntry formats manifest) :=
      Table.find?_eq_some_iff.mpr ⟨by simp [rows, Table.mem_iff], rfl⟩
    simp only [readManifest, Option.bind_some, found, manifestEntry, lawful.load_dump,
      sourced.sound, Option.isNone_none, if_true]
  · apply listing.verify rows _ isFiles
    intro entry member
    rw [List.mem_singleton.mp member]
    rfl

theorem Bundle.existing {manifest : CheckpointManifest} {directory : Directory}
    (bundle : Bundle formats manifest directory) (expected : Digest) :
    existing formats manifest.context.checkpointId directory expected =
      if manifest.manifestDigest ≠ expected then .error (.conflict manifest.context.checkpointId)
      else .ok (manifest.reference (formats.uri manifest.context.checkpointId)) := by
  simp only [Checkpoints.existing, bundle.tells, bundle.keeps, Bind.bind, Except.bind, ne_eq,
    not_true_eq_false, if_false]

/-- A created file is filled where it stands. -/
theorem replace_last {directory : Directory} {written : List Entry} {entry : Entry}
    (rows : directory.rows = written ++ [(entry.1, [])]) :
    (directory.replace entry).rows = written ++ [entry] := by
  have others : ∀ stored ∈ written, stored.1 ≠ entry.1 := by
    have nodup := directory.nodup
    rw [rows, List.map_append, List.nodup_append] at nodup
    intro stored member
    exact nodup.2.2 stored.1 (List.mem_map_of_mem member) entry.1 (by simp)
  have kept : written.map (fun stored => if stored.1 = entry.1 then entry else stored) =
    written := by
    rw [List.map_congr_left (fun stored member => if_neg (others stored member)), List.map_id']
  simp only [Table.replace, rows, List.map_append, kept, List.map_cons, if_true, List.map_nil]

/-- The next file of a bundle can be created. -/
theorem insert_next {directory : Directory} {entry : Entry} {left : List Entry}
    (nodup : ((directory.rows ++ entry :: left).map Prod.fst).Nodup) :
    ∃ next, directory.insert? (entry.1, []) = some next ∧
      next.rows = directory.rows ++ [(entry.1, [])] := by
  have fresh : entry.1 ∉ directory.rows.map Prod.fst := by
    rw [List.map_append, List.nodup_append] at nodup
    intro member
    exact nodup.2.2 entry.1 member entry.1 (by simp) rfl
  exact ⟨_, dif_neg fresh, rfl⟩

namespace StoreHost

/-! ## A step of `put_staging` -/

/-- A step of a process that is staging a manifest. -/
structure Puts (formats : BundleFormats) (host host' : StoreHost) (pid : Nat) (source : Directory)
    (manifest : CheckpointManifest) (stage : PutStage) : Prop where
  processes : host'.processes =
    Function.update host.processes pid (some ⟨.put source manifest stage, true⟩)
  elsewhere : ∀ number, number ≠ pid → host'.staging number = host.staging number
  committed : host'.committed = host.committed
  renamed : host'.renamed = host.renamed
  fits : stage.Fits formats source manifest pid (host'.staging pid)
  whole : ∀ staging, stage = .returned staging → Whole formats manifest (host'.staging pid)

variable {host host' : StoreHost} {pid place : Nat}

section Putting

variable {source : Directory} {manifest : CheckpointManifest} {stage : PutStage}

theorem Puts.goTo (fits : stage.Fits formats source manifest pid (host.staging pid))
    (whole : ∀ staging, stage = .returned staging → Whole formats manifest (host.staging pid)) :
    Puts formats host (host.goTo pid (.put source manifest stage)) pid source manifest stage :=
  ⟨rfl, fun _ _ => rfl, rfl, rfl, fits, whole⟩

theorem Puts.write {directory : Option Directory}
    (fits : stage.Fits formats source manifest pid directory)
    (going : ∀ staging, stage ≠ .returned staging) :
    Puts formats host ((host.writeStaging pid directory).goTo pid (.put source manifest stage)) pid
      source manifest stage where
  processes := rfl
  elsewhere number other := Function.update_of_ne other ..
  committed := rfl
  renamed := rfl
  fits := by
    have written : ((host.writeStaging pid directory).goTo pid (.put source manifest stage)).staging
        pid = directory := Function.update_self ..
    rw [written]
    exact fits
  whole staging returned := absurd returned (going staging)

/-- A staging that is begun is never given up. -/
theorem puts_of_putStep (lawful : formats.Lawful)
    (fits : stage.Fits formats source manifest pid (host.staging pid))
    (going : (∀ staging, stage ≠ .returned staging) ∧ ∀ error, stage ≠ .raised error) :
    ∃ next, Puts formats host (host.putStep formats pid source manifest stage place) pid source
      manifest next := by
  cases stage with
  | checking =>
      cases fault : manifestFault formats manifest with
      | some text =>
          refine ⟨.raised (.validation text), ?_⟩
          simp only [putStep, fault]
          exact .goTo trivial nofun
      | none =>
          cases verified : verify formats source manifest with
          | error error =>
              refine ⟨.raised error, ?_⟩
              simp only [putStep, fault, verified]
              exact .goTo trivial nofun
          | ok _ =>
              refine ⟨.making, ?_⟩
              simp only [putStep, fault, verified]
              exact .goTo ⟨fault, verified⟩ nofun
  | making => exact ⟨_, .write ⟨fits, .empty _, rfl, rfl⟩ nofun⟩
  | creating left =>
      obtain ⟨sourced, directory, isStaging, rows⟩ := fits
      cases left with
      | nil => exact ⟨_, .goTo ⟨sourced, directory, isStaging, by simpa using rows⟩ nofun⟩
      | cons entry left =>
          obtain ⟨next, inserted, nextRows⟩ :=
            @insert_next directory entry left (rows ▸ sourced.nodup)
          refine ⟨.filling entry left, ?_⟩
          simp only [putStep, isStaging, Option.bind_some, inserted]
          exact .write ⟨sourced, next, directory.rows, rfl, nextRows, rows⟩ nofun
  | filling entry left =>
      obtain ⟨sourced, directory, written, isStaging, rows, entries⟩ := fits
      refine ⟨.creating left, ?_⟩
      simp only [putStep, isStaging, Option.map_some]
      exact .write ⟨sourced, _, rfl, by rw [replace_last rows]; simpa using entries⟩ nofun
  | verifying =>
      obtain ⟨sourced, directory, isStaging, rows⟩ := fits
      have bundle := sourced.bundle lawful rows
      refine ⟨.returned (manifest.staged pid), ?_⟩
      simp only [putStep, isStaging, bundle.keeps]
      exact .goTo rfl fun _ _ => ⟨directory, isStaging, bundle⟩
  | cleaning error => exact fits.elim
  | returned staging => exact absurd rfl (going.1 staging)
  | raised error => exact absurd rfl (going.2 error)

/-- A process that had not returned a reference goes on; nothing else is touched. -/
theorem Sound.put (sound : host.Sound formats) {was : Option StoreProcess}
    (isProcess : host.processes pid = was)
    (fresh : ∀ process, was = some process → ∃ source' manifest' stage',
      process.task = .put source' manifest' stage' ∧ ∀ staging, stage' ≠ .returned staging)
    {next : PutStage} (puts : Puts formats host host' pid source manifest next) :
    host'.Sound formats := by
  have other {number : Nat} (differs : number ≠ pid) :
      host'.processes number = host.processes number := by
    rw [puts.processes, Function.update_of_ne differs]
  have here : host'.processes pid = some ⟨.put source manifest next, true⟩ := by
    rw [puts.processes, Function.update_self]
  have not_staged {manifest' : CheckpointManifest} : ¬host.Staged manifest' pid := by
    rintro ⟨source', alive, returned⟩
    obtain ⟨_, _, stage', task, going⟩ := fresh _ (isProcess.symm.trans returned)
    simp only [StoreTask.put.injEq] at task
    exact going _ task.2.2.symm
  have staged {manifest' : CheckpointManifest} {number : Nat} (differs : number ≠ pid) :
      host'.Staged manifest' number ↔ host.Staged manifest' number := by
    simp only [Staged, other differs]
  have removing {number pid' : Nat} (removes : host.Removing number pid') :
      host'.Removing number pid' := by
    obtain ⟨staging, reference, isRemoving, directory⟩ := removes
    refine ⟨staging, reference, ?_, directory⟩
    rw [other]
    · exact isRemoving
    · rintro rfl
      obtain ⟨_, _, _, task, -⟩ := fresh _ (isProcess.symm.trans isRemoving)
      cases task
  have committing {number pid' : Nat} (commits : host'.Committing number pid') :
      host.Committing number pid' := by
    obtain ⟨staging, stage', isCommit, rest⟩ := commits
    refine ⟨staging, stage', ?_, rest⟩
    rw [← other]
    · exact isCommit
    · rintro rfl
      rw [here] at isCommit
      cases isCommit
  refine ⟨?_, ?_, ?_, ?_, ?_, ?_, ?_⟩
  · rw [puts.committed, puts.renamed]
    exact sound.bundles
  · rw [puts.committed, puts.renamed]
    exact sound.published
  · rw [puts.renamed]
    exact sound.once
  · intro pid' source' manifest' stage' alive isPut
    by_cases same : pid' = pid
    · subst same
      rw [here] at isPut
      cases isPut
      exact puts.fits
    · rw [other same] at isPut
      rw [puts.elsewhere _ same]
      exact sound.puts _ _ _ _ _ isPut
  · intro pid' staging stage' alive isCommit
    have differs : pid' ≠ pid := by
      rintro rfl
      rw [here] at isCommit
      cases isCommit
    rw [other differs] at isCommit
    obtain ⟨manifest', number, isStaging, isStaged, fits⟩ := sound.commits _ _ _ _ isCommit
    have apart : number ≠ pid := by
      rintro rfl
      exact not_staged isStaged
    refine ⟨manifest', number, isStaging, (staged apart).mpr isStaged, ?_⟩
    rw [puts.elsewhere _ apart, puts.committed]
    exact fits
  · intro manifest' number isStaged idle
    by_cases same : number = pid
    · subst same
      obtain ⟨source', alive, returned⟩ := isStaged
      rw [here] at returned
      cases returned
      exact .inl (puts.whole _ rfl)
    · have rests := sound.rests manifest' number ((staged same).mp isStaged)
        fun pid' removes => idle pid' (removing removes)
      rw [Rests, puts.elsewhere _ same, puts.committed]
      exact rests
  · intro number first second commits commits'
    exact sound.single number first second (committing commits) (committing commits')

end Putting

/-! ## A step of `commit` -/

/-- What a committed directory may turn into: itself, or what was not there before. -/
structure Commits (formats : BundleFormats) (host host' : StoreHost) (pid number : Nat)
    (manifest : CheckpointManifest) (stage : CommitStage) : Prop where
  processes : host'.processes =
    Function.update host.processes pid (some ⟨.commit (manifest.staged number) stage, true⟩)
  elsewhere : ∀ other, other ≠ number → host'.staging other = host.staging other
  committed : (host'.committed = host.committed ∧ host'.renamed = host.renamed) ∨
    (host.committed manifest.context.checkpointId = none ∧
      (∃ reference, stage = .syncing reference) ∧
      ∃ directory, Bundle formats manifest directory ∧
        host'.committed =
          Function.update host.committed manifest.context.checkpointId (some directory) ∧
        host'.renamed = manifest.staged number :: host.renamed)
  fits : stage.Fits formats manifest (host'.staging number)
    (host'.committed manifest.context.checkpointId)
  rests : (∀ reference, stage ≠ .removing reference) → host'.Rests formats manifest number

section Committing

variable {manifest : CheckpointManifest} {number : Nat} {stage next : CommitStage}

theorem Commits.grows (commits : Commits formats host host' pid number manifest next)
    (checkpointId : String) (directory : Directory)
    (published : host.committed checkpointId = some directory) :
    host'.committed checkpointId = some directory := by
  rcases commits.committed with ⟨same, -⟩ | ⟨fresh, -, written, -, updated, -⟩
  · rw [same, published]
  · rw [updated, Function.update_of_ne]
    · exact published
    · rintro rfl
      rw [fresh] at published
      cases published

/-- A stage that has ended speaks of the id alone. -/
theorem fits_of_ended {found later published : Option Directory} (ended : stage.running = false)
    (fits : stage.Fits formats manifest found published) :
    stage.Fits formats manifest later published := by
  cases stage with
  | returned | raised => exact fits
  | _ => cases ended

theorem Commits.bundles (commits : Commits formats host host' pid number manifest next)
    (sound : host.Sound formats) (checkpointId : String) (directory : Directory)
    (published : host'.committed checkpointId = some directory) :
    ∃ manifest, Bundle formats manifest directory ∧ manifest.context.checkpointId = checkpointId ∧
      ∃ number, manifest.staged number ∈ host'.renamed := by
  rcases commits.committed with ⟨same, renamed⟩ | ⟨-, -, written, bundle, updated, renamed⟩
  · rw [renamed]
    exact sound.bundles _ _ (same ▸ published)
  · rw [updated] at published
    rw [renamed]
    by_cases here : checkpointId = manifest.context.checkpointId
    · subst here
      rw [Function.update_self] at published
      cases published
      exact ⟨manifest, bundle, rfl, number, List.mem_cons_self⟩
    · rw [Function.update_of_ne here] at published
      obtain ⟨other, isBundle, isId, number', member⟩ := sound.bundles _ _ published
      exact ⟨other, isBundle, isId, number', List.mem_cons_of_mem _ member⟩

theorem Commits.published (commits : Commits formats host host' pid number manifest next)
    (sound : host.Sound formats) (staging : StagingRef) (member : staging ∈ host'.renamed) :
    (host'.committed staging.checkpointId).isSome := by
  have grown (isRenamed : staging ∈ host.renamed) :
      (host'.committed staging.checkpointId).isSome := by
    obtain ⟨directory, published⟩ := Option.isSome_iff_exists.mp (sound.published _ isRenamed)
    exact Option.isSome_iff_exists.mpr ⟨directory, commits.grows _ _ published⟩
  rcases commits.committed with ⟨-, renamed⟩ | ⟨-, -, written, -, updated, renamed⟩
  · exact grown (renamed ▸ member)
  · rw [renamed] at member
    rcases List.mem_cons.mp member with rfl | member
    · rw [updated]
      simp [CheckpointManifest.staged]
    · exact grown member

theorem Commits.once (commits : Commits formats host host' pid number manifest next)
    (sound : host.Sound formats) : (host'.renamed.map StagingRef.checkpointId).Nodup := by
  rcases commits.committed with ⟨-, renamed⟩ | ⟨fresh, -, written, -, -, renamed⟩
  · rw [renamed]
    exact sound.once
  · rw [renamed, List.map_cons, List.nodup_cons]
    refine ⟨?_, sound.once⟩
    intro member
    obtain ⟨staging, isRenamed, isId⟩ := List.mem_map.mp member
    have published := sound.published _ isRenamed
    rw [isId] at published
    simp [CheckpointManifest.staged, fresh] at published

/-- A commit of a staging that no other live process is committing goes on. -/
theorem Sound.commit (sound : host.Sound formats) (isStaged : host.Staged manifest number)
    (alone : ∀ other, host.Committing number other → other = pid)
    (was : ∀ process, host.processes pid = some process →
      ∃ stage, process.task = .commit (manifest.staged number) stage)
    (commits : Commits formats host host' pid number manifest next) : host'.Sound formats := by
  have here : host'.processes pid = some ⟨.commit (manifest.staged number) next, true⟩ := by
    rw [commits.processes, Function.update_self]
  have other {pid' : Nat} (differs : pid' ≠ pid) :
      host'.processes pid' = host.processes pid' := by
    rw [commits.processes, Function.update_of_ne differs]
  have not_put {source : Directory} {manifest' : CheckpointManifest} {stage' : PutStage}
      {alive : Bool} : host.processes pid ≠ some ⟨.put source manifest' stage', alive⟩ := by
    intro isPut
    obtain ⟨_, task⟩ := was _ isPut
    cases task
  have staged {manifest' : CheckpointManifest} {number' : Nat} :
      host'.Staged manifest' number' ↔ host.Staged manifest' number' := by
    by_cases same : number' = pid
    · subst same
      constructor
      · rintro ⟨source, alive, returned⟩
        rw [here] at returned
        cases returned
      · rintro ⟨source, alive, returned⟩
        exact absurd returned not_put
    · simp only [Staged, other same]
  have elsewhere {number' pid' : Nat} (apart : number' ≠ number)
      (removes : host.Removing number' pid') : host'.Removing number' pid' := by
    obtain ⟨staging, reference, isRemoving, rfl⟩ := removes
    refine ⟨staging, reference, ?_, rfl⟩
    rw [other]
    · exact isRemoving
    · rintro rfl
      obtain ⟨_, task⟩ := was _ isRemoving
      cases task
      exact apart rfl
  have committing {number' pid' : Nat} (running : host'.Committing number' pid') :
      pid' = pid ∧ number' = number ∨ pid' ≠ pid ∧ host.Committing number' pid' := by
    obtain ⟨staging, stage', isCommit, going, rfl⟩ := running
    by_cases same : pid' = pid
    · subst same
      rw [here] at isCommit
      cases isCommit
      exact .inl ⟨rfl, rfl⟩
    · exact .inr ⟨same, staging, stage', other same ▸ isCommit, going, rfl⟩
  refine ⟨commits.bundles sound, commits.published sound, commits.once sound, ?_, ?_, ?_, ?_⟩
  · intro pid' source manifest' stage' alive isPut
    have differs : pid' ≠ pid := by
      rintro rfl
      rw [here] at isPut
      cases isPut
    rw [other differs] at isPut
    have fits := sound.puts _ _ _ _ _ isPut
    by_cases same : pid' = number
    · -- the directory is the staged one, whose put has returned
      subst same
      obtain ⟨source', alive', returned⟩ := isStaged
      rw [returned] at isPut
      cases isPut
      exact fits
    · rw [commits.elsewhere _ same]
      exact fits
  · intro pid' staging stage' alive isCommit
    by_cases same : pid' = pid
    · subst same
      rw [here] at isCommit
      cases isCommit
      exact ⟨manifest, number, rfl, staged.mpr isStaged, fun _ => commits.fits⟩
    · rw [other same] at isCommit
      obtain ⟨manifest', number', rfl, isStaged', fits⟩ := sound.commits _ _ _ _ isCommit
      refine ⟨manifest', number', rfl, staged.mpr isStaged', ?_⟩
      intro active
      have grown := (fits active).grows (commits.grows manifest'.context.checkpointId)
      by_cases apart : number' = number
      · subst apart
        cases going : stage'.running with
        | false => exact fits_of_ended going grown
        | true =>
            rw [active going] at isCommit
            exact absurd (alone pid' ⟨_, _, isCommit, going, rfl⟩) same
      · rw [commits.elsewhere _ apart]
        exact grown
  · intro manifest' number' isStaged' idle
    by_cases apart : number' = number
    · subst apart
      obtain ⟨source, alive, returned⟩ := isStaged
      obtain ⟨source', alive', returned'⟩ := staged.mp isStaged'
      rw [returned] at returned'
      cases returned'
      apply commits.rests
      rintro reference rfl
      exact idle pid ⟨_, reference, here, rfl⟩
    · rcases sound.rests manifest' number' (staged.mp isStaged')
        fun pid' removes => idle pid' (elsewhere apart removes) with whole | ⟨gone, whole⟩
      · refine .inl ?_
        rw [commits.elsewhere _ apart]
        exact whole
      · refine .inr ⟨?_, whole.grows (commits.grows _)⟩
        rw [commits.elsewhere _ apart, gone]
  · intro number' first second running running'
    rcases committing running with ⟨rfl, rfl⟩ | ⟨differs, running⟩ <;>
      rcases committing running' with ⟨rfl, same⟩ | ⟨differs', running'⟩
    · rfl
    · exact (alone second running').symm
    · subst same
      exact alone first running
    · exact sound.single number' first second running running'

theorem Commits.goTo (fits : next.Fits formats manifest (host.staging number)
      (host.committed manifest.context.checkpointId))
    (rests : host.Rests formats manifest number) :
    Commits formats host (host.goTo pid (.commit (manifest.staged number) next)) pid number manifest
      next :=
  ⟨rfl, fun _ _ => rfl, .inl ⟨rfl, rfl⟩, fits, fun _ => rests⟩

/-- A step of a commit that brings it nearer to its end. -/
structure Nears (formats : BundleFormats) (host host' : StoreHost) (pid number : Nat)
    (manifest : CheckpointManifest) (stage next : CommitStage) : Prop
    extends Commits formats host host' pid number manifest next where
  nearer : next.rank + removals (host'.staging number) < stage.rank + removals (host.staging number)

theorem Nears.goTo (fits : next.Fits formats manifest (host.staging number)
      (host.committed manifest.context.checkpointId))
    (rests : host.Rests formats manifest number) (lower : next.rank < stage.rank) :
    Nears formats host (host.goTo pid (.commit (manifest.staged number) next)) pid number manifest
      stage next :=
  ⟨.goTo fits rests, Nat.add_lt_add_right lower _⟩

theorem removals_removeStep (place : Nat) (directory : Directory) :
    removals (removeStep place directory) < removals (some directory) := by
  unfold removeStep
  split_ifs with none_left
  · exact Nat.succ_pos _
  · have positive : 0 < directory.rows.length := List.length_pos_of_ne_nil none_left
    have inside : place % directory.rows.length < directory.rows.length :=
      Nat.mod_lt _ positive
    have shorter := List.length_eraseIdx_of_lt inside
    simp only [removals, Option.elim_some, removeFile, shorter]
    omega

theorem nears_of_commitStep (lawful : formats.Lawful) (sound : host.Sound formats)
    (fits : stage.Fits formats manifest (host.staging number)
      (host.committed manifest.context.checkpointId))
    (rests : (∀ reference, stage ≠ .removing reference) → host.Rests formats manifest number)
    (going : stage.running = true) :
    ∃ next, Nears formats host
      (host.commitStep formats pid (manifest.staged number) stage place) pid
      number manifest stage next := by
  cases stage with
  | looking =>
      cases published : host.committed manifest.context.checkpointId with
      | none =>
          have whole : Whole formats manifest (host.staging number) := by
            rcases rests (by simp) with whole | ⟨-, directory, isPublished, -⟩
            · exact whole
            · rw [published] at isPublished
              cases isPublished
          refine ⟨.reading, ?_⟩
          simp only [commitStep, CheckpointManifest.staged, published]
          exact .goTo whole (rests (by simp)) (by simp [CommitStage.rank])
      | some directory =>
          refine ⟨.comparing, ?_⟩
          simp only [commitStep, CheckpointManifest.staged, published]
          exact .goTo (by simp [CommitStage.Fits, published]) (rests (by simp))
            (by simp [CommitStage.rank])
  | reading =>
      obtain ⟨directory, isStaging, bundle⟩ := fits
      refine ⟨.verifying manifest, ?_⟩
      simp only [commitStep, CheckpointManifest.staged, isStaging, bundle.tells, ne_eq,
        not_true_eq_false, or_self, if_false]
      exact .goTo ⟨rfl, directory, isStaging, bundle⟩ (rests (by simp)) (by simp [CommitStage.rank])
  | verifying read =>
      obtain ⟨rfl, directory, isStaging, bundle⟩ := fits
      refine ⟨.publishing read, ?_⟩
      simp only [commitStep, CheckpointManifest.staged, isStaging, bundle.keeps]
      exact .goTo ⟨rfl, directory, isStaging, bundle⟩ (rests (by simp)) (by simp [CommitStage.rank])
  | publishing read =>
      obtain ⟨rfl, directory, isStaging, bundle⟩ := fits
      cases published : host.committed read.context.checkpointId with
      | none =>
          have whole : Whole formats read (Function.update host.committed
              read.context.checkpointId (some directory) read.context.checkpointId) :=
            ⟨directory, Function.update_self .., bundle⟩
          refine ⟨.syncing (read.reference (formats.uri read.context.checkpointId)), ?_⟩
          simp only [commitStep, CheckpointManifest.staged, isStaging, published]
          refine ⟨⟨rfl, fun other apart => Function.update_of_ne apart ..,
            .inr ⟨published, ⟨_, rfl⟩, directory, bundle, rfl, rfl⟩, ⟨rfl, whole⟩,
            fun _ => .inr ⟨Function.update_self .., whole⟩⟩, ?_⟩
          simp only [StoreHost.goTo, StoreHost.writeStaging, Function.update_self, isStaging,
            removals, CommitStage.rank, Option.elim_none, Option.elim_some]
          omega
      | some taken =>
          refine ⟨.comparing, ?_⟩
          simp only [commitStep, CheckpointManifest.staged, isStaging, published]
          exact .goTo (by simp [CommitStage.Fits, published]) (rests (by simp))
            (by simp [CommitStage.rank])
  | comparing =>
      obtain ⟨directory, published⟩ := Option.isSome_iff_exists.mp fits
      obtain ⟨other, bundle, isId, -⟩ := sound.bundles _ _ published
      have compared := bundle.existing manifest.manifestDigest
      rw [isId] at compared
      by_cases same : other.manifestDigest = manifest.manifestDigest
      · have isManifest : other = manifest := by
          rcases rests (by simp) with ⟨staged, -, mine⟩ | ⟨-, staged, -, mine⟩
          · exact bundle.manifest_eq lawful mine same
          · exact bundle.manifest_eq lawful mine same
        subst isManifest
        rw [if_neg (not_not.mpr rfl)] at compared
        refine ⟨.discarding (other.reference (formats.uri other.context.checkpointId)), ?_⟩
        simp only [commitStep, CheckpointManifest.staged, published, compared]
        exact .goTo ⟨rfl, directory, published,
          bundle⟩ (rests (by simp)) (by simp [CommitStage.rank])
      · rw [if_pos same] at compared
        refine ⟨.raised (.conflict manifest.context.checkpointId), ?_⟩
        simp only [commitStep, CheckpointManifest.staged, published, compared]
        exact .goTo ⟨rfl, other, ⟨directory, published, bundle⟩, same⟩ (rests (by simp))
          (by simp [CommitStage.rank])
  | discarding reference =>
      cases isStaging : host.staging number with
      | none =>
          refine ⟨.returned reference, ?_⟩
          simp only [commitStep, checkReplay, CheckpointManifest.staged, isStaging, Option.map_none]
          exact .goTo fits (rests (by simp)) (by simp [CommitStage.rank])
      | some directory =>
          have bundle : Bundle formats manifest directory := by
            rcases rests (by simp) with ⟨staged, isStaged, bundle⟩ | ⟨gone, -⟩
            · rw [isStaging] at isStaged
              cases isStaged
              exact bundle
            · rw [isStaging] at gone
              cases gone
          have replayed : checkReplay formats (manifest.staged number) host = some (.ok ()) := by
            simp only [checkReplay, CheckpointManifest.staged, isStaging, Option.map_some,
              bundle.tells, Bind.bind, Except.bind, ne_eq, not_true_eq_false, if_false,
                bundle.keeps]
          refine ⟨.removing reference, ?_⟩
          simp only [commitStep, replayed]
          exact .goTo fits (rests (by simp)) (by simp [CommitStage.rank])
  | removing reference =>
      cases isStaging : host.staging number with
      | none =>
          refine ⟨.returned reference, ?_⟩
          simp only [commitStep, CheckpointManifest.staged, isStaging]
          exact .goTo fits (.inr ⟨isStaging, fits.2⟩) (by simp [CommitStage.rank])
      | some directory =>
          refine ⟨.removing reference, ?_⟩
          simp only [commitStep, CheckpointManifest.staged, isStaging]
          refine ⟨⟨rfl, fun other apart => Function.update_of_ne apart .., .inl ⟨rfl, rfl⟩, fits,
            fun other => absurd rfl (other reference)⟩, ?_⟩
          simp only [StoreHost.goTo, StoreHost.writeStaging, Function.update_self, isStaging]
          exact Nat.add_lt_add_left (removals_removeStep place directory) _
  | syncing reference =>
      exact ⟨.returned reference, .goTo fits (rests (by simp)) (by simp [CommitStage.rank])⟩
  | returned reference => cases going
  | raised error => cases going

/-- What a live commit may rely on. -/
theorem Sound.live (sound : host.Sound formats) {staging : StagingRef}
    (isCommit : host.processes pid = some ⟨.commit staging stage, true⟩)
    (going : stage.running = true) :
    ∃ manifest number, staging = manifest.staged number ∧ host.Staged manifest number ∧
      stage.Fits formats manifest (host.staging number)
        (host.committed manifest.context.checkpointId) ∧
      ((∀ reference, stage ≠ .removing reference) → host.Rests formats manifest number) ∧
      ∀ other, host.Committing number other → other = pid := by
  obtain ⟨manifest, number, rfl, isStaged, fits⟩ := sound.commits _ _ _ _ isCommit
  have alone : ∀ other, host.Committing number other → other = pid := by
    intro other running
    exact sound.single number other pid running ⟨_, _, isCommit, going, rfl⟩
  refine ⟨manifest, number, rfl, isStaged, fits fun _ => rfl, ?_, alone⟩
  intro staying
  apply sound.rests manifest number isStaged
  rintro other ⟨staging', reference, isRemoving, same⟩
  have isPid := alone other ⟨_, _, isRemoving, rfl, same⟩
  subst isPid
  rw [isCommit] at isRemoving
  cases isRemoving
  exact staying reference rfl

/-- The step of a live commit. -/
theorem Sound.nears (sound : host.Sound formats) (lawful : formats.Lawful) {staging : StagingRef}
    (isCommit : host.processes pid = some ⟨.commit staging stage, true⟩)
    (going : stage.running = true) (place : Nat) :
    ∃ manifest number next, staging = manifest.staged number ∧
      Nears formats host (host.act formats pid place) pid number manifest stage next ∧
      (host.act formats pid place).Sound formats := by
  obtain ⟨manifest, number, rfl, isStaged, fits, rests, alone⟩ := sound.live isCommit going
  obtain ⟨next, nears⟩ :=
    @nears_of_commitStep _ _ pid place _ _ _ lawful sound fits rests going
  have acted : host.act formats pid place =
      host.commitStep formats pid (manifest.staged number) stage place := by
    simp only [act, isCommit]
  rw [acted]
  refine ⟨manifest, number, next, rfl, nears, sound.commit isStaged alone ?_ nears.toCommits⟩
  intro process isProcess
  rw [isCommit] at isProcess
  cases isProcess
  exact ⟨stage, rfl⟩

end Committing

/-! ## Runs -/

theorem Sound.empty : StoreHost.empty.Sound formats := by
  refine ⟨?_, ?_, List.nodup_nil, ?_, ?_, ?_, ?_⟩
  · intro checkpointId directory published
    cases published
  · intro staging member
    cases member
  · intro pid source manifest stage alive isPut
    cases isPut
  · intro pid staging stage alive isCommit
    cases isCommit
  · rintro manifest number ⟨source, alive, returned⟩
    cases returned
  · rintro number first second ⟨staging, stage, isCommit, -⟩
    cases isCommit

/-- A process that acts has ended, or stages, or commits. -/
theorem Sound.act_cases (sound : host.Sound formats) (lawful : formats.Lawful) (pid place : Nat) :
    host.act formats pid place = host ∨
      (∃ source manifest stage next, host.processes pid = some ⟨.put source manifest stage, true⟩ ∧
        (∀ staging, stage ≠ .returned staging) ∧
        Puts formats host (host.act formats pid place) pid source manifest next) ∨
      ∃ staging stage, host.processes pid = some ⟨.commit staging stage, true⟩ ∧
        stage.running = true := by
  cases isProcess : host.processes pid with
  | none => exact .inl (by simp only [StoreHost.act, isProcess])
  | some process =>
      obtain ⟨task, alive⟩ := process
      cases alive with
      | false => exact .inl (by simp only [StoreHost.act, isProcess])
      | true =>
          cases task with
          | put source manifest stage =>
              by_cases going : (∀ staging, stage ≠ .returned staging) ∧ ∀ error,
                stage ≠ .raised error
              · obtain ⟨next, puts⟩ :=
                  @puts_of_putStep _ _ _ place _ _ _ lawful (sound.puts _ _ _ _ _ isProcess) going
                refine .inr (.inl ⟨source, manifest, stage, next, rfl, going.1, ?_⟩)
                simp only [StoreHost.act, isProcess]
                exact puts
              · refine .inl ?_
                simp only [StoreHost.act, isProcess]
                cases stage with
                | returned | raised => rfl
                | _ => exact absurd ⟨nofun, nofun⟩ going
          | commit staging stage =>
              cases going : stage.running with
              | true => exact .inr (.inr ⟨staging, stage, rfl, going⟩)
              | false =>
                  refine .inl ?_
                  simp only [StoreHost.act, isProcess]
                  cases stage with
                  | returned | raised => rfl
                  | _ => cases going

theorem Sound.act (sound : host.Sound formats) (lawful : formats.Lawful) (pid place : Nat) :
    (host.act formats pid place).Sound formats := by
  rcases sound.act_cases lawful pid place with
    idle | ⟨source, manifest, stage, next, isPut, going, puts⟩ | ⟨staging, stage, isCommit, going⟩
  · rw [idle]
    exact sound
  · apply sound.put isPut _ puts
    rintro process ⟨⟩
    exact ⟨source, manifest, stage, rfl, going⟩
  · obtain ⟨_, _, _, -, -, kept⟩ := sound.nears lawful isCommit going place
    exact kept

theorem Sound.crash (sound : host.Sound formats) (outside : ∀ number, ¬host.Removing number pid) :
    (host.crash pid).Sound formats := by
  have before {pid' : Nat} {task : StoreTask} {alive : Bool}
      (isProcess : (host.crash pid).processes pid' = some ⟨task, alive⟩) :
      ∃ alive', host.processes pid' = some ⟨task, alive'⟩ ∧ (alive = true → alive' = true) := by
    by_cases same : pid' = pid
    · subst same
      simp only [StoreHost.crash, Function.update_self, Option.map_eq_some_iff] at isProcess
      obtain ⟨⟨task', alive'⟩, isBefore, same⟩ := isProcess
      cases same
      exact ⟨alive', isBefore, nofun⟩
    · simp only [StoreHost.crash, Function.update_of_ne same] at isProcess
      exact ⟨alive, isProcess, id⟩
  have staged {manifest : CheckpointManifest} {number : Nat} :
      (host.crash pid).Staged manifest number ↔ host.Staged manifest number := by
    constructor
    · rintro ⟨source, alive, returned⟩
      obtain ⟨alive', isBefore, -⟩ := before returned
      exact ⟨source, alive', isBefore⟩
    · rintro ⟨source, alive, returned⟩
      by_cases same : number = pid
      · subst same
        exact ⟨source, false, by simp [StoreHost.crash, returned]⟩
      · exact ⟨source, alive, by simp [StoreHost.crash, Function.update_of_ne same, returned]⟩
  have committing {number pid' : Nat} (running : (host.crash pid).Committing number pid') :
      host.Committing number pid' := by
    obtain ⟨staging, stage, isCommit, going, rfl⟩ := running
    obtain ⟨alive, isBefore, lives⟩ := before isCommit
    exact ⟨staging, stage, lives rfl ▸ isBefore, going, rfl⟩
  refine ⟨sound.bundles, sound.published, sound.once, ?_, ?_, ?_, ?_⟩
  · intro pid' source manifest stage alive isPut
    obtain ⟨alive', isBefore, -⟩ := before isPut
    exact sound.puts _ _ _ _ _ isBefore
  · intro pid' staging stage alive isCommit
    obtain ⟨alive', isBefore, lives⟩ := before isCommit
    obtain ⟨manifest, number, rfl, isStaged, fits⟩ := sound.commits _ _ _ _ isBefore
    exact ⟨manifest, number, rfl, staged.mpr isStaged,
      fun active => fits fun going => lives (active going)⟩
  · intro manifest number isStaged idle
    apply sound.rests manifest number (staged.mp isStaged)
    intro pid' removes
    have differs : pid' ≠ pid := by
      rintro rfl
      exact outside number removes
    obtain ⟨staging, reference, isRemoving, rfl⟩ := removes
    refine idle pid' ⟨staging, reference, ?_, rfl⟩
    simp [StoreHost.crash, Function.update_of_ne differs, isRemoving]
  · intro number first second running running'
    exact sound.single number first second (committing running) (committing running')

theorem Sound.step (sound : host.Sound formats) (lawful : formats.Lawful) {move : StoreMove}
    (orderly : host.Orderly move) : (host.step formats move).Sound formats := by
  cases move with
  | putStaging pid source manifest =>
      simp only [StoreHost.step, start]
      split_ifs with fresh
      · have isNone := Option.isNone_iff_eq_none.mp fresh
        have puts : Puts formats host (host.goTo pid (.put source manifest .checking)) pid source
            manifest .checking := .goTo trivial nofun
        refine sound.put isNone ?_ puts
        intro process isSome
        cases isSome
      · exact sound
  | commit pid staging =>
      obtain ⟨⟨⟨manifest, number, rfl, isStaged⟩, free⟩, -⟩ := orderly
      simp only [StoreHost.step, start]
      split_ifs with fresh
      · have isNone := Option.isNone_iff_eq_none.mp fresh
        have rests : host.Rests formats manifest number := by
          apply sound.rests manifest number isStaged
          rintro pid' ⟨staging, reference, isRemoving, same⟩
          exact free pid' ⟨staging, _, isRemoving, rfl, same⟩
        have commits : Commits formats host
            (host.goTo pid (.commit (manifest.staged number) .looking)) pid number manifest
              .looking :=
          .goTo trivial rests
        apply sound.commit isStaged _ _ commits
        · intro other running
          exact absurd running (free other)
        · intro process isProcess
          rw [isNone] at isProcess
          cases isProcess
      · exact sound
  | act pid place => exact sound.act lawful pid place
  | crash pid => exact sound.crash fun number => orderly.2 pid number rfl

theorem Sound.of_reaches (sound : host.Sound formats) (lawful : formats.Lawful)
    (reached : Reaches (StoreHost.step formats) Orderly host host') : host'.Sound formats :=
  reached.invariant sound fun _ _ kept orderly => kept.step lawful orderly

end StoreHost

end Xaytune.Checkpoints
