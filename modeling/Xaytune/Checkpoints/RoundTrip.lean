import Mathlib.Tactic.DeriveCountable
import Xaytune.Checkpoints.Store
import Xaytune.Library.Spelling

/-!
# What is saved is restored

The files of a source are listed once by their components' order; every later listing, of the
encoded copy, of the staged bundle and of the committed one, is that list again. A bundle with any
other file, or another manifest, is found out by the digests.
-/

namespace Xaytune.Checkpoints

open Xaytune.Library

/-- What is relied on: the manifest's text is read back, and no two contents share a digest. -/
structure BundleFormats.Lawful (formats : BundleFormats) : Prop where
  load_dump : ∀ manifest, formats.load (formats.dump manifest) = some manifest
  sha256 : ∀ first second, formats.sha256 first = formats.sha256 second → first = second
  body : ∀ first second, formats.bodyFingerprint first = formats.bodyFingerprint second →
    first = second

/-! ## Listings -/

theorem components_injective {first second : String}
    (same : components first = components second) : first = second := by
  apply String.toList_injective
  have first_eq : ['/'].intercalate (first.toList.splitOn '/') = first.toList :=
    List.intercalate_splitOn '/'
  have second_eq : ['/'].intercalate (second.toList.splitOn '/') = second.toList :=
    List.intercalate_splitOn '/'
  rw [components, components] at same
  rw [← first_eq, same, second_eq]

theorem sorted_files (entries : List Entry) :
    (entries.mergeSort entryLe).Pairwise fun first second => entryLe first second := by
  apply List.pairwise_mergeSort
  · intro first second third le le'
    exact decide_eq_true (le_trans (of_decide_eq_true le) (of_decide_eq_true le'))
  · intro first second
    simpa [entryLe] using le_total (components first.1) (components second.1)

theorem checkpointPath_manifest : checkpointPath "manifest.json" = false := by decide

theorem path_ne_manifest {path : String} (canonical : checkpointPath path = true) :
    path ≠ "manifest.json" := by
  rintro rfl
  rw [checkpointPath_manifest] at canonical
  cases canonical

/-- What `writeFiles` leaves of a list of new files. -/
theorem writeFiles_fresh {entries : List Entry} {directory : Directory}
    (fresh : ((directory.rows ++ entries).map Prod.fst).Nodup) :
    writeFiles entries directory = .ok ⟨directory.rows ++ entries, fresh⟩ := by
  induction entries generalizing directory with
  | nil =>
      have same : directory = ⟨directory.rows ++ [], fresh⟩ := Table.ext (by simp)
      rw [writeFiles, ← same]
  | cons entry rest ih =>
      have new : entry.1 ∉ directory.rows.map Prod.fst := by
        rw [List.map_append, List.nodup_append] at fresh
        intro member
        exact fresh.2.2 entry.1 member entry.1 (by simp) rfl
      have moved : (((directory.rows ++ [entry]) ++ rest).map Prod.fst).Nodup := by
        simpa using fresh
      have inserted : ∃ next, directory.insert? entry = some next ∧
          next.rows = directory.rows ++ [entry] := by
        refine ⟨_, dif_neg new, rfl⟩
      obtain ⟨next, isNext, rows⟩ := inserted
      rw [writeFiles, isNext]
      have step := @ih next (by rw [rows]; exact moved)
      simp only [step]
      congr 1
      apply Table.ext
      simp [rows]

/-- A list of files as `files_in` returns it. -/
structure Listing (files : List Entry) : Prop where
  sorted : files.Pairwise fun first second => entryLe first second
  canonical : ∀ entry ∈ files, checkpointPath entry.1 = true
  unique : (files.map Prod.fst).Nodup

theorem Listing.of_filesIn {committed : Bool} {directory : Directory} {files : List Entry}
    (listed : filesIn committed directory = .ok files) :
    Listing files ∧ ∀ entry, entry ∈ files ↔
      entry ∈ directory ∧ ¬(committed = true ∧ entry.1 = "manifest.json") := by
  unfold filesIn at listed
  simp only at listed
  split_ifs at listed with canonical
  cases listed
  have members (entry : Entry) : entry ∈ (directory.rows.filter fun entry =>
      ¬(committed ∧ entry.1 = "manifest.json")).mergeSort entryLe ↔
        entry ∈ directory ∧ ¬(committed = true ∧ entry.1 = "manifest.json") := by
    rw [(List.mergeSort_perm _ _).mem_iff, List.mem_filter, decide_eq_true_iff]
    rfl
  refine ⟨⟨sorted_files _, ?_, ?_⟩, members⟩
  · intro entry member
    exact List.all_eq_true.mp canonical entry ((List.mergeSort_perm _ _).mem_iff.mp member)
  · apply (((List.mergeSort_perm _ _).map Prod.fst).nodup_iff).mpr
    exact (List.filter_sublist.map Prod.fst).nodup directory.nodup

/-- A directory that holds a listing, and perhaps a manifest, is listed as it was. -/
theorem Listing.filesIn {files extra : List Entry} (listing : Listing files) {committed : Bool}
    {directory : Directory} (rows : directory.rows = files ++ extra)
    (manifests : ∀ entry ∈ extra, committed = true ∧ entry.1 = "manifest.json") :
    filesIn committed directory = .ok files := by
  have kept : files.filter (fun entry => ¬(committed ∧ entry.1 = "manifest.json")) = files := by
    apply List.filter_eq_self.mpr
    intro entry member
    have other := path_ne_manifest (listing.canonical entry member)
    simp [other]
  have dropped : extra.filter (fun entry => ¬(committed ∧ entry.1 = "manifest.json")) = [] := by
    apply List.filter_eq_nil_iff.mpr
    intro entry member
    simpa using manifests entry member
  have canonical : files.all (fun entry => checkpointPath entry.1) = true :=
    List.all_eq_true.mpr listing.canonical
  simp only [Checkpoints.filesIn, rows, List.filter_append, kept, dropped, List.append_nil,
    canonical, if_true]
  rw [List.mergeSort_of_pairwise listing.sorted]

section

variable {formats : BundleFormats}

/-- The entries of a listing are found by the paths a manifest gives them. -/
theorem Listing.listedEntries {files : List Entry} {source : Directory}
    {manifest : CheckpointManifest} (members : ∀ entry ∈ files, entry ∈ source)
    (isFiles : manifest.files = files.map (describe formats)) :
    listedEntries source manifest = files := by
  have found : ∀ entry ∈ files, source.find? (describe formats entry).path = some entry := by
    intro entry member
    exact Table.find?_of_mem (members entry member)
  rw [Checkpoints.listedEntries, isFiles, List.filterMap_map]
  calc files.filterMap _ = files.filterMap some := List.filterMap_congr found
    _ = files := List.filterMap_some

/-! ## Saving -/

/-- What a training state must be to be declared: files that can be listed, in an order on which
components and texts agree, captured components that are among them, and evidence for the
guarantee. -/
structure Declarable (formats : BundleFormats) (state : CheckpointState)
    (context : CheckpointContext) : Prop where
  canonical : ∀ entry ∈ state.source, checkpointPath entry.1 = true
  apart : ∀ inner ∈ state.source, ∀ outer ∈ state.source, insideOf inner.1 outer.1 = false
  ordered : ∀ first ∈ state.source, ∀ second ∈ state.source,
    components first.1 < components second.1 → first.1.toList < second.1.toList
  references : ∀ ref ∈ checkpointStateRefs state.stateManifest state.dataCursor,
    ∃ content, (ref.uri, content) ∈ state.source ∧ ref.digest = some (formats.sha256 content) ∧
      ref.producerAttemptId = some context.producerAttemptId ∧ ref.producerEvaluationId = none
  evidence : claimsWithoutEvidence state.resumeGuarantee state.stateManifest state.dataCursor = none

/-- What it must be to be saved: of a schema the codec knows, with a layout for each captured
component that has one. -/
structure Savable (formats : BundleFormats) (state : CheckpointState)
    (context : CheckpointContext) : Prop extends Declarable formats state context where
  schema : state.stateManifest.schemaVersion = "xaytune.checkpoint-state/v1alpha1"
  optimizer : state.stateManifest.optimizer.isSome → context.compatibility.optimizerLayout.isSome
  scheduler : state.stateManifest.scheduler.isSome → context.compatibility.schedulerLayout.isSome

/-- What `encode` declares of a list of files. -/
def declaredBody (formats : BundleFormats) (state : CheckpointState) (context : CheckpointContext)
    (files : List Entry) : ManifestBody :=
  { context
    codec := codecName
    codecVersion
    compatibilityKey := compatibilityKey formats context.compatibility
    files := files.map (describe formats)
    optimizerStep := state.optimizerStep
    dataCursor := state.dataCursor
    resumeGuarantee := state.resumeGuarantee
    stateManifest := state.stateManifest }

def declared (formats : BundleFormats) (state : CheckpointState) (context : CheckpointContext)
    (files : List Entry) : CheckpointManifest :=
  ⟨declaredBody formats state context files,
    formats.bodyFingerprint (declaredBody formats state context files)⟩

section Saving

variable {state : CheckpointState} {context : CheckpointContext} {files : List Entry}

/-- The listing of a source that can be declared. -/
structure Listed (formats : BundleFormats) (state : CheckpointState) (context : CheckpointContext)
    (files : List Entry) : Prop where
  declarable : Declarable formats state context
  listing : Listing files
  members : ∀ entry, entry ∈ files ↔ entry ∈ state.source

theorem Declarable.listed (declarable : Declarable formats state context) :
    ∃ files, filesIn false state.source = .ok files ∧ Listed formats state context files := by
  have canonical : (state.source.rows.filter fun entry =>
      ¬(false = true ∧ entry.1 = "manifest.json")).all
        (fun entry => checkpointPath entry.1) = true := by
    apply List.all_eq_true.mpr
    intro entry member
    exact declarable.canonical entry (List.mem_of_mem_filter member)
  have listed : filesIn false state.source = .ok ((state.source.rows.filter fun entry =>
      ¬(false = true ∧ entry.1 = "manifest.json")).mergeSort entryLe) := if_pos canonical
  obtain ⟨listing, members⟩ := Listing.of_filesIn listed
  refine ⟨_, listed, declarable, listing, ?_⟩
  intro entry
  rw [members]
  simp

theorem Listed.increasing (listed : Listed formats state context files) :
    (files.map Prod.fst).Pairwise fun first second => first.toList < second.toList := by
  have distinct := List.pairwise_map.mp (List.nodup_iff_pairwise_ne.mp listed.listing.unique)
  refine List.pairwise_map.mpr ((listed.listing.sorted.and distinct).imp_of_mem ?_)
  rintro first second isFirst isSecond ⟨le, ne⟩
  apply listed.declarable.ordered first ((listed.members first).mp isFirst) second
    ((listed.members second).mp isSecond)
  apply lt_of_le_of_ne (of_decide_eq_true le)
  intro same
  exact ne (components_injective same)

theorem Listed.nonempty (listed : Listed formats state context files) : files ≠ [] := by
  obtain ⟨content, member, -⟩ :=
    listed.declarable.references state.stateManifest.model (by simp [checkpointStateRefs])
  exact List.ne_nil_of_mem ((listed.members _).mpr member)

theorem Listed.manifestFault (listed : Listed formats state context files) :
    manifestFault formats (declared formats state context files) = none := by
  have paths : (declared formats state context files).files.map CheckpointFile.path =
      files.map Prod.fst := by
    simp [declared, declaredBody, describe, Function.comp_def]
  have canonical : (files.map Prod.fst).all checkpointPath = true := by
    apply List.all_eq_true.mpr
    intro path member
    obtain ⟨entry, isEntry, rfl⟩ := List.mem_map.mp member
    exact listed.declarable.canonical entry ((listed.members entry).mp isEntry)
  have apart : ((files.map Prod.fst).any fun inner => (files.map Prod.fst).any fun outer =>
      inner ≠ outer && insideOf inner outer) = false := by
    apply List.any_eq_false.mpr
    intro inner isInner
    obtain ⟨entry, isEntry, rfl⟩ := List.mem_map.mp isInner
    rw [Bool.not_eq_true]
    apply List.any_eq_false.mpr
    intro outer isOuter
    obtain ⟨entry', isEntry', rfl⟩ := List.mem_map.mp isOuter
    simp [listed.declarable.apart entry ((listed.members entry).mp isEntry) entry'
      ((listed.members entry').mp isEntry')]
  have some_file : (declared formats state context files).files ≠ [] := by
    simp [declared, declaredBody, listed.nonempty]
  have digest : ¬(declared formats state context files).manifestDigest ≠
      formats.bodyFingerprint (declared formats state context files).toManifestBody := by
    simp [declared]
  unfold Checkpoints.manifestFault
  simp only [paths]
  rw [if_neg (not_not.mpr canonical), if_neg some_file, if_neg (not_not.mpr listed.increasing),
    if_neg (by rw [apart]; exact Bool.false_ne_true), if_neg digest]
  exact listed.declarable.evidence

theorem Listing.find_described {entry : Entry} (listing : Listing files) (member : entry ∈ files) :
    (files.map (describe formats)).find? (fun file => file.path = entry.1) =
      some (describe formats entry) := by
  have found : files.find? (fun row => row.1 = entry.1) = some entry :=
    Table.find?_of_mem (show entry ∈ (⟨files, listing.unique⟩ : Directory) from member)
  have described : (fun file : CheckpointFile => decide (file.path = entry.1)) ∘ describe formats =
      fun row => decide (row.1 = entry.1) := rfl
  rw [List.find?_map, described, found]
  rfl

theorem Listed.validateComponents (listed : Listed formats state context files)
    (savable : Savable formats state context) :
    validateComponents formats (declared formats state context files) = .ok () := by
  have layouts : ¬((state.stateManifest.optimizer.isSome ∧
      context.compatibility.optimizerLayout.isNone) ∨
      (state.stateManifest.scheduler.isSome ∧ context.compatibility.schedulerLayout.isNone)) := by
    rintro (⟨captured, unknown⟩ | ⟨captured, unknown⟩)
    · have known := savable.optimizer captured
      simp_all
    · have known := savable.scheduler captured
      simp_all
  have sound : (checkpointStateRefs state.stateManifest state.dataCursor).findSome?
      (componentFault (files.map (describe formats)) context.producerAttemptId) = none := by
    apply List.findSome?_eq_none_iff.mpr
    intro ref isRef
    obtain ⟨content, inSource, digest, producer, evaluation⟩ := savable.references ref isRef
    have inFiles := (listed.members _).mpr inSource
    have found := @Listing.find_described formats files (ref.uri, content) listed.listing inFiles
    have canonical := savable.canonical _ inSource
    simp [componentFault, canonical, found, describe, digest, producer, evaluation]
  unfold Checkpoints.validateComponents
  simp only [declared, declaredBody]
  simp only [savable.schema, ne_eq, not_true_eq_false, if_false, layouts, sound]

/-- The encoded copy of a listing. -/
def copyOf (listing : Listing files) : Directory := ⟨files, listing.unique⟩

theorem Listed.encode (listed : Listed formats state context files)
    (isListed : filesIn false state.source = .ok files) :
    encode formats state context =
      (Checkpoints.validateComponents formats (declared formats state context files)).bind
        fun _ => .ok (copyOf listed.listing, declared formats state context files) := by
  have written : writeFiles files (.empty _) = .ok (copyOf listed.listing) :=
    @writeFiles_fresh files (.empty _) listed.listing.unique
  have again : filesIn false (copyOf listed.listing) = .ok files :=
    @Listing.filesIn _ [] listed.listing _ _ (List.append_nil _).symm nofun
  have body : (⟨context, codecName, codecVersion, compatibilityKey formats context.compatibility,
      files.map (describe formats), state.optimizerStep, state.dataCursor, state.resumeGuarantee,
      state.stateManifest⟩ : ManifestBody) = declaredBody formats state context files := rfl
  have manifest : (⟨declaredBody formats state context files,
      formats.bodyFingerprint (declaredBody formats state context files)⟩ : CheckpointManifest) =
        declared formats state context files := rfl
  simp only [Checkpoints.encode, isListed, Bind.bind, Except.bind, written, again, body, manifest,
    listed.manifestFault]

/-- A directory that says what it holds and holds what it says. -/
structure Bundle (formats : BundleFormats) (manifest : CheckpointManifest) (directory : Directory) :
    Prop where
  tells : readManifest formats (some directory) = .ok manifest
  keeps : verify formats directory manifest = .ok ()

theorem Listing.with_manifest (listing : Listing files) (manifest : CheckpointManifest) :
    ((files ++ [manifestEntry formats manifest]).map Prod.fst).Nodup := by
  rw [List.map_append, List.nodup_append]
  refine ⟨listing.unique, List.nodup_singleton _, ?_⟩
  intro path isPath other isOther
  obtain ⟨entry, member, rfl⟩ := List.mem_map.mp isPath
  rw [List.map_singleton, List.mem_singleton] at isOther
  rw [isOther]
  exact path_ne_manifest (listing.canonical entry member)

/-- The staged copy of a listing with its manifest. -/
def bundleOf (formats : BundleFormats) (listing : Listing files) (manifest : CheckpointManifest) :
    Directory :=
  ⟨files ++ [manifestEntry formats manifest], listing.with_manifest manifest⟩

theorem Listing.verify {directory : Directory} {extra : List Entry} {manifest : CheckpointManifest}
    (listing : Listing files) (rows : directory.rows = files ++ extra)
    (manifests : ∀ entry ∈ extra, entry.1 = "manifest.json")
    (isFiles : manifest.files = files.map (describe formats)) :
    verify formats directory manifest = .ok () := by
  have listed : Checkpoints.filesIn true directory = .ok files :=
    listing.filesIn rows fun entry member => ⟨rfl, manifests entry member⟩
  simp only [Checkpoints.verify, listed, Bind.bind, Except.bind, isFiles, if_true]

theorem Listed.bundle (listed : Listed formats state context files) (lawful : formats.Lawful) :
    Bundle formats (declared formats state context files)
      (bundleOf formats listed.listing (declared formats state context files)) := by
  constructor
  · have found : (bundleOf formats listed.listing (declared formats state context files)).find?
        "manifest.json" = some (manifestEntry formats (declared formats state context files)) :=
      Table.find?_eq_some_iff.mpr ⟨by simp [bundleOf, Table.mem_iff], rfl⟩
    simp only [readManifest, Option.bind_some, found, manifestEntry, lawful.load_dump,
      listed.manifestFault, Option.isNone_none, if_true]
  · apply listed.listing.verify rfl _ rfl
    intro entry member
    rw [List.mem_singleton.mp member]
    rfl

theorem Listed.putStaging (listed : Listed formats state context files) (lawful : formats.Lawful)
    (store : CheckpointStore) :
    putStaging formats (copyOf listed.listing) (declared formats state context files) store =
      .ok ({ store with
          staging := Function.update store.staging store.made
            (some (bundleOf formats listed.listing (declared formats state context files)))
          made := store.made + 1 },
        ⟨context.checkpointId, store.made,
          (declared formats state context files).manifestDigest⟩) := by
  have source : verify formats (copyOf listed.listing) (declared formats state context files) =
      .ok () := listed.listing.verify (List.append_nil _).symm nofun rfl
  have entries : listedEntries (copyOf listed.listing) (declared formats state context files) =
      files := @Listing.listedEntries formats _ _ _ (fun _ member => member) rfl
  have copied : writeFiles files (.empty _) = .ok (copyOf listed.listing) :=
    @writeFiles_fresh files (.empty _) listed.listing.unique
  have written : writeFiles [manifestEntry formats (declared formats state context files)]
      (copyOf listed.listing) =
        .ok (bundleOf formats listed.listing (declared formats state context files)) :=
    writeFiles_fresh (listed.listing.with_manifest _)
  simp only [Checkpoints.putStaging, listed.manifestFault, source, Bind.bind, Except.bind, entries,
    copied, written, (listed.bundle lawful).keeps]
  rfl

/-- The store behind a commit of a bundle, the first or another. -/
theorem Bundle.commit {manifest : CheckpointManifest} {directory : Directory}
    (bundle : Bundle formats manifest directory) {store : CheckpointStore} {number : Nat}
    (staged : store.staging number = some directory)
    (free : ∀ published, store.committed manifest.context.checkpointId = some published →
      published = directory) :
    ∃ store', commit formats ⟨manifest.context.checkpointId, number, manifest.manifestDigest⟩
        store = .ok (store', manifest.reference (formats.uri manifest.context.checkpointId)) ∧
      store'.committed =
        Function.update store.committed manifest.context.checkpointId (some directory) := by
  cases found : store.committed manifest.context.checkpointId with
  | none =>
      simp only [Checkpoints.commit, found, staged, bundle.tells, Bind.bind, Except.bind, ne_eq,
        not_true_eq_false, or_self, if_false, bundle.keeps]
      exact ⟨_, rfl, rfl⟩
  | some published =>
      obtain rfl := free published found
      simp only [Checkpoints.commit, found, existing, discardReplay, staged, bundle.tells,
        Bind.bind, Except.bind, ne_eq, not_true_eq_false, if_false, bundle.keeps]
      exact ⟨_, rfl, by rw [← found, Function.update_eq_self]⟩

theorem Listed.save (listed : Listed formats state context files)
    (savable : Savable formats state context) (lawful : formats.Lawful)
    (isListed : filesIn false state.source = .ok files) {store : CheckpointStore}
    (free : ∀ published, store.committed context.checkpointId = some published →
      published = bundleOf formats listed.listing (declared formats state context files)) :
    ∃ store', save formats state context store = .ok (store',
        (declared formats state context files).reference (formats.uri context.checkpointId)) ∧
      store'.committed = Function.update store.committed context.checkpointId
        (some (bundleOf formats listed.listing (declared formats state context files))) := by
  have bundle := listed.bundle lawful
  obtain ⟨store', committed⟩ := @Bundle.commit _ _ _ bundle
    { store with
      staging := Function.update store.staging store.made
        (some (bundleOf formats listed.listing (declared formats state context files)))
      made := store.made + 1 } store.made (Function.update_self ..) free
  have provenance : ¬((declared formats state context files).context ≠ context ∨
      (declared formats state context files).codec ≠ codecName ∨
      (declared formats state context files).codecVersion ≠ codecVersion ∨
      (declared formats state context files).compatibilityKey ≠
        compatibilityKey formats context.compatibility) := by
    simp [declared, declaredBody]
  simp only [Checkpoints.save, listed.encode isListed, listed.validateComponents savable, Bind.bind,
    Except.bind, if_neg provenance, listed.putStaging lawful store]
  exact ⟨store', committed⟩

end Saving

/-! ## Restoring -/

section Restoring

variable {manifest : CheckpointManifest} {directory : Directory}

theorem Bundle.get (bundle : Bundle formats manifest directory)
    {committed : String → Option Directory}
    (published : committed manifest.context.checkpointId = some directory) :
    get formats committed (manifest.reference (formats.uri manifest.context.checkpointId)) =
      .ok (directory, manifest) := by
  have isId : (manifest.reference (formats.uri manifest.context.checkpointId)).id =
      manifest.context.checkpointId := rfl
  simp only [Checkpoints.get, isId, published, bundle.tells, Bind.bind, Except.bind, bundle.keeps,
    if_true]

theorem fault_of_readManifest {found : Option Directory}
    (read : readManifest formats found = .ok manifest) : manifestFault formats manifest = none := by
  unfold readManifest at read
  split at read
  · cases read
  · split_ifs at read with valid
    cases read
    exact Option.isNone_iff_eq_none.mp valid

theorem digest_of_fault (sound : manifestFault formats manifest = none) :
    manifest.manifestDigest = formats.bodyFingerprint manifest.toManifestBody := by
  by_contra other
  simp only [manifestFault] at sound
  split_ifs at sound

theorem Bundle.manifest_eq (lawful : formats.Lawful) {other : CheckpointManifest}
    {elsewhere : Directory} (bundle : Bundle formats manifest directory)
    (another : Bundle formats other elsewhere)
    (digests : manifest.manifestDigest = other.manifestDigest) : manifest = other := by
  have mine := digest_of_fault (fault_of_readManifest bundle.tells)
  have theirs := digest_of_fault (fault_of_readManifest another.tells)
  have bodies := lawful.body _ _ (mine.symm.trans (digests.trans theirs))
  obtain ⟨body, digest⟩ := manifest
  obtain ⟨body', digest'⟩ := other
  simp only at bodies digests
  rw [bodies, digests]

theorem Bundle.files (bundle : Bundle formats manifest directory) :
    ∃ files, filesIn true directory = .ok files ∧
      files.map (describe formats) = manifest.files := by
  have kept := bundle.keeps
  unfold verify at kept
  cases listed : filesIn true directory with
  | error error => simp [listed, Bind.bind, Except.bind] at kept
  | ok files =>
      simp only [listed, Bind.bind, Except.bind] at kept
      split_ifs at kept with same
      exact ⟨files, rfl, same⟩

end Restoring

/-- The consumer restores for what was captured. -/
structure Matches (state : CheckpointState) (context : CheckpointContext)
    (consumer : RestoreContext) : Prop where
  candidate : consumer.candidateFingerprint = context.candidateFingerprint
  compatibility : consumer.compatibility = context.compatibility
  cursor : ∀ cursor, state.dataCursor = some cursor →
    consumer.datasetFingerprint = some cursor.datasetFingerprint ∧
      consumer.orderingFingerprint = some cursor.orderingFingerprint
  guarantee : ∀ guarantee, consumer.requiredGuarantee = some guarantee →
    guarantee = state.resumeGuarantee

theorem Listed.restore {state : CheckpointState} {context : CheckpointContext}
    {files : List Entry} (listed : Listed formats state context files)
    (savable : Savable formats state context) (lawful : formats.Lawful)
    {committed : String → Option Directory}
    (published : committed context.checkpointId =
      some (bundleOf formats listed.listing (declared formats state context files)))
    {consumer : RestoreContext} (matching : Matches state context consumer) :
    restore formats committed
      ((declared formats state context files).reference (formats.uri context.checkpointId))
      consumer =
        .ok (bundleOf formats listed.listing (declared formats state context files),
          declared formats state context files) := by
  have bundle := listed.bundle lawful
  have got := bundle.get published
  have isContext : (declared formats state context files).context = context := rfl
  rw [isContext] at got
  have key : (declared formats state context files).compatibilityKey =
      compatibilityKey formats consumer.compatibility := by
    rw [matching.compatibility]
    rfl
  have compatible : incompatibility formats (declared formats state context files) consumer =
      none := by
    have identity : ¬((declared formats state context files).codec ≠ codecName ∨
        (declared formats state context files).codecVersion ≠ codecVersion ∨
        (declared formats state context files).compatibilityKey ≠
          compatibilityKey formats consumer.compatibility ∨
        (declared formats state context files).context.candidateFingerprint ≠
          consumer.candidateFingerprint) := by
      rintro (other | other | other | other)
      · exact other rfl
      · exact other rfl
      · exact other key
      · exact other matching.candidate.symm
    have data : ((declared formats state context files).dataCursor.any fun cursor =>
        some cursor.datasetFingerprint ≠ consumer.datasetFingerprint ||
          some cursor.orderingFingerprint ≠ consumer.orderingFingerprint) = false := by
      cases isCursor : state.dataCursor with
      | none => simp [declared, declaredBody, isCursor]
      | some cursor =>
          obtain ⟨dataset, ordering⟩ := matching.cursor cursor isCursor
          simp [declared, declaredBody, isCursor, dataset, ordering]
    have guarantee : (consumer.requiredGuarantee.any fun guarantee =>
        (declared formats state context files).resumeGuarantee ≠ guarantee) = false := by
      cases isGuarantee : consumer.requiredGuarantee with
      | none => rfl
      | some guarantee =>
          simp [declared, declaredBody, matching.guarantee guarantee isGuarantee]
    rw [incompatibility, if_neg identity, data, guarantee]
    rfl
  have decoded : ¬((declared formats state context files).codec ≠ codecName ∨
      (declared formats state context files).codecVersion ≠ codecVersion ∨
      (declared formats state context files).compatibilityKey ≠
        compatibilityKey formats consumer.compatibility) := by
    rintro (other | other | other)
    · exact other rfl
    · exact other rfl
    · exact other key
  simp only [Checkpoints.restore, got, Bind.bind, Except.bind, compatible, decode, if_neg decoded,
    bundle.keeps, listed.validateComponents savable]

/-- Nothing is published under a context's id, or what the same save has published. -/
def Unclaimed (formats : BundleFormats) (state : CheckpointState) (context : CheckpointContext)
    (store : CheckpointStore) : Prop :=
  ∀ published, store.committed context.checkpointId = some published →
    ∃ before after reference, before.committed context.checkpointId = none ∧
      save formats state context before = .ok (after, reference) ∧
      after.committed context.checkpointId = some published

theorem Listed.published {state : CheckpointState} {context : CheckpointContext}
    {files : List Entry} (listed : Listed formats state context files)
    (savable : Savable formats state context) (lawful : formats.Lawful)
    (isListed : filesIn false state.source = .ok files) {store : CheckpointStore}
    (unclaimed : Unclaimed formats state context store) (published : Directory)
    (found : store.committed context.checkpointId = some published) :
    published = bundleOf formats listed.listing (declared formats state context files) := by
  obtain ⟨before, after, _, empty, earlier, stands⟩ := unclaimed published found
  have free : ∀ taken, before.committed context.checkpointId = some taken →
      taken = bundleOf formats listed.listing (declared formats state context files) := by
    rw [empty]
    nofun
  obtain ⟨after', saved, committed⟩ := listed.save savable lawful isListed free
  rw [earlier] at saved
  cases saved
  rw [committed, Function.update_self] at stands
  exact (Option.some.inj stands).symm

end

/-! ## Formats without collisions -/

deriving instance Countable for StateRestore, DataResume, CheckpointBoundary, ResumeGuarantee,
  StateRef, SamplerState, DataCursor, WorkerRNGState, RNGState, CheckpointStateManifest,
  CheckpointCompatibilityKey, CheckpointContext, CheckpointFile, ManifestBody, CheckpointManifest

namespace Sample

def weights : Content := [119, 101, 105, 103, 104, 116, 115]

def moments : Content := [109, 111, 109, 101, 110, 116, 115]

def weightsDigest : Digest :=
  "sha256:9a129038d9a00aed0cf6a7ea059ca50a813449061ab87848cf1a13eafdf33b2c"

def momentsDigest : Digest :=
  "sha256:690a8d18f75dfaa79dd8134ac62cdad42fffe0f34cb78dd14e2d3aae3ae83ad3"

theorem weightsDigest_begins : ['s', 'h', 'a', '2', '5', '6', ':', '9'] <+: weightsDigest.toList :=
  begins_of_eq_ofList ⟨_, rfl⟩

theorem momentsDigest_begins : ['s', 'h', 'a', '2', '5', '6', ':', '6'] <+: momentsDigest.toList :=
  begins_of_eq_ofList ⟨_, rfl⟩

def contents : Spelling Content Char :=
  .pair '0' weights moments (ne_of_begins weightsDigest_begins momentsDigest_begins rfl (by decide))
    (unmarked_of_begins 's' weightsDigest_begins (by decide) (by decide))
    (unmarked_of_begins 's' momentsDigest_begins (by decide) (by decide))

def unspelled (α β : Type) (mark : β) : Spelling α β := ⟨mark, [], List.nodup_nil, nofun⟩

/-- Digests that are as given for two contents, and differ wherever the contents do. -/
noncomputable def digests : BundleFormats where
  sha256 content := String.ofList (contents.spell content)
  bodyFingerprint body := String.ofList ((unspelled ManifestBody Char '0').spell body)
  keyFingerprint _ _ _ := weightsDigest
  dump := (unspelled CheckpointManifest UInt8 0).spell
  load := (unspelled CheckpointManifest UInt8 0).read
  uri checkpointId := "file:///store/committed/" ++ checkpointId

theorem lawful : digests.Lawful where
  load_dump := (unspelled CheckpointManifest UInt8 0).read_spell
  sha256 _ _ same := contents.spell_injective (String.ofList_injective same)
  body _ _ same := (unspelled ManifestBody Char '0').spell_injective (String.ofList_injective same)

theorem sha256_weights : digests.sha256 weights = weightsDigest := by
  have spelled : contents.spell weights = weightsDigest.toList :=
    contents.spell_of_given rfl
  simp only [digests, spelled, String.ofList_toList]

theorem sha256_moments : digests.sha256 moments = momentsDigest := by
  have spelled : contents.spell moments = momentsDigest.toList :=
    contents.spell_of_given rfl
  simp only [digests, spelled, String.ofList_toList]

def component (uri : String) (digest : Digest) : StateRef :=
  ⟨"artifact-" ++ uri, "checkpoint_state", uri, some digest, some "attempt-1", none, ""⟩

/-- A context that declares no optimizer layout. -/
def context : CheckpointContext where
  checkpointId := "checkpoint-1"
  producerAttemptId := "attempt-1"
  candidateFingerprint := "candidate"
  executionFingerprint := "execution"
  compatibility :=
    ⟨"native-torch/v1", "model", none, none, "none", "none", "one", [("torch", "2.4")], none, none⟩
  createdAt := 0

def source : Directory := ⟨[("state/model.pt", weights), ("optimizer.pt", moments)], by decide⟩

/-- Two files, of which the optimizer's may be declared captured. -/
def state (optimizer : Option StateRef) : CheckpointState where
  source
  optimizerStep := 3
  dataCursor := none
  resumeGuarantee := ⟨.modelOnly, .none, .optimizerStep⟩
  stateManifest :=
    ⟨"xaytune.checkpoint-state/v1alpha1", component "state/model.pt" weightsDigest, optimizer, none,
      none, none, 0, none⟩

theorem checkpointStateRefs_state (optimizer : Option StateRef) :
    checkpointStateRefs (state optimizer).stateManifest (state optimizer).dataCursor =
      component "state/model.pt" weightsDigest :: optimizer.toList := by
  cases optimizer with
  | none => rfl
  | some ref => rfl

theorem declarable (optimizer : Option StateRef)
    (isOptimizer : ∀ ref, optimizer = some ref → ref = component "optimizer.pt" momentsDigest) :
    Declarable digests (state optimizer) context where
  canonical := show ∀ entry ∈ source.rows, checkpointPath entry.1 = true by decide
  apart := show ∀ inner ∈ source.rows, ∀ outer ∈ source.rows, insideOf inner.1 outer.1 = false by
    decide
  ordered := show ∀ first ∈ source.rows, ∀ second ∈ source.rows,
      components first.1 < components second.1 → first.1.toList < second.1.toList by
    decide
  references := by
    intro ref isRef
    rw [checkpointStateRefs_state, List.mem_cons, Option.mem_toList] at isRef
    rcases isRef with rfl | captured
    · exact ⟨weights, List.mem_cons_self, congrArg some sha256_weights.symm, rfl, rfl⟩
    · rw [isOptimizer ref captured]
      exact ⟨moments, List.mem_cons_of_mem _ List.mem_cons_self,
        congrArg some sha256_moments.symm, rfl, rfl⟩
  evidence := by simp [claimsWithoutEvidence, state]

end Sample

end Xaytune.Checkpoints
