import Xaytune.Library.Grouping

/-!
# Packing tokenized samples into blocks

`tokenize_dataset` masks the labels of a sample's prompt; `pack_sequences` joins samples end to
end into blocks of one length, padded behind the last sample. It reads the input ids alone, so a
block's labels are its input ids.
-/

namespace Xaytune.Data

open Xaytune.Library

/-! ## Tokenized samples -/

/-- The label of a position that is not trained on. -/
def ignoreIndex : Int := -100

/-- The labels of a sample whose first positions are its prompt. -/
def maskPrompt (promptLength : Nat) (labels : List Int) : List Int :=
  List.replicate (min promptLength labels.length) ignoreIndex ++ labels.drop promptLength

structure TokenizedSample where
  inputIds : List Int
  labels : List Int
  promptLength : Nat
  nonempty : inputIds ≠ []
  masked : labels = maskPrompt promptLength inputIds

theorem maskPrompt_length (promptLength : Nat) (labels : List Int) :
    (maskPrompt promptLength labels).length = labels.length := by
  rw [maskPrompt, List.length_append, List.length_replicate, List.length_drop]
  omega

theorem TokenizedSample.labels_length (sample : TokenizedSample) :
    sample.labels.length = sample.inputIds.length := by
  rw [sample.masked, maskPrompt_length]

/-! ## Packing -/

structure Block where
  inputIds : List Int
  attentionMask : List Int
  labels : List Int

def padAndFinalize (inputIds labels : List Int) (maxSeqLength : Nat) (padTokenId : Int) : Block :=
  let padLength := maxSeqLength - inputIds.length
  { inputIds := inputIds ++ List.replicate padLength padTokenId
    attentionMask := List.replicate inputIds.length 1 ++ List.replicate padLength 0
    labels := labels ++ List.replicate padLength ignoreIndex }

section Pack

variable (maxSeqLength : Nat) (padTokenId : Int)

/-- The block at hand, if it holds anything. -/
def finished (ids labels : List Int) : List Block :=
  if ids = [] then [] else [padAndFinalize ids labels maxSeqLength padTokenId]

/-- The loop over the samples, from the ids and labels of the block at hand. -/
def packFrom : List TokenizedSample → (ids labels : List Int) → List Block
  | [], ids, labels => finished maxSeqLength padTokenId ids labels
  | sample :: rest, ids, labels =>
      let new := sample.inputIds.take maxSeqLength
      if maxSeqLength < ids.length + new.length then
        finished maxSeqLength padTokenId ids labels ++ packFrom rest new new
      else packFrom rest (ids ++ new) (labels ++ new)

def packSequences (sequences : List TokenizedSample) : List Block :=
  packFrom maxSeqLength padTokenId sequences [] []

end Pack

/-! ## What packing should keep -/

/-- The attended positions of a block: its input ids and labels where the mask is one. -/
def Block.attended (block : Block) : List (Int × Int) :=
  (((block.inputIds.zip block.labels).zip block.attentionMask).filter fun position =>
    position.2 = 1).map Prod.fst

/-- A block is attended on a beginning of the given length, and padded without a label behind it. -/
structure Framed (maxSeqLength : Nat) (block : Block) : Prop where
  ids : block.inputIds.length = maxSeqLength
  labels : block.labels.length = maxSeqLength
  mask : block.attentionMask =
    List.replicate block.attended.length 1 ++
      List.replicate (maxSeqLength - block.attended.length) 0
  within : block.attended.length ≤ maxSeqLength
  unlabelled : block.labels.drop block.attended.length =
    List.replicate (maxSeqLength - block.attended.length) ignoreIndex

/-- Every token keeps its label: the blocks hold the samples whole and in order, in as few blocks
as neighbours allow. -/
structure Packs (maxSeqLength : Nat) (samples : List TokenizedSample) (blocks : List Block) :
    Prop where
  labelled : blocks.flatMap Block.attended =
    samples.flatMap fun sample => sample.inputIds.zip sample.labels
  framed : ∀ block ∈ blocks, Framed maxSeqLength block
  whole : ∃ groups : List (List TokenizedSample), groups.flatten = samples ∧
    List.Forall₂ (fun group (block : Block) => block.attended.map Prod.fst =
      group.flatMap TokenizedSample.inputIds) groups blocks
  tight : blocks.IsChain fun first second =>
    maxSeqLength < first.attended.length + second.attended.length

section Blocks

variable {maxSeqLength : Nat} {padTokenId : Int} {ids labels : List Int}

theorem attended_padAndFinalize (same : labels.length = ids.length) :
    (padAndFinalize ids labels maxSeqLength padTokenId).attended = ids.zip labels := by
  have width : (ids.zip labels).length = ids.length := by
    rw [List.length_zip, same, Nat.min_self]
  have real : ∀ (pairs : List (Int × Int)) (count : Nat), pairs.length = count →
      ((pairs.zip (List.replicate count (1 : Int))).filter fun position => position.2 = 1).map
        Prod.fst = pairs := by
    intro pairs count isCount
    rw [List.filter_eq_self.mpr]
    · rw [List.map_fst_zip (by rw [List.length_replicate, isCount])]
    · intro position member
      exact decide_eq_true (List.eq_of_mem_replicate (List.of_mem_zip member).2)
  have padded : ∀ (pairs : List (Int × Int)) (count : Nat),
      (pairs.zip (List.replicate count (0 : Int))).filter (fun position => position.2 = 1) =
        [] := by
    intro pairs count
    refine List.filter_eq_nil_iff.mpr fun position member => ?_
    have zero := List.eq_of_mem_replicate (List.of_mem_zip member).2
    simp [zero]
  rw [Block.attended, padAndFinalize]
  simp only
  rw [List.zip_append same.symm, List.zip_append (by rw [List.length_replicate, width]),
    List.filter_append, List.map_append, real _ _ width, padded, List.map_nil, List.append_nil]

theorem framed_padAndFinalize (same : labels.length = ids.length)
    (small : ids.length ≤ maxSeqLength) :
    Framed maxSeqLength (padAndFinalize ids labels maxSeqLength padTokenId) := by
  have width : (padAndFinalize ids labels maxSeqLength padTokenId).attended.length =
    ids.length := by
    rw [attended_padAndFinalize same, List.length_zip, same, Nat.min_self]
  refine ⟨?_, ?_, ?_, ?_, ?_⟩
  · simp only [padAndFinalize, List.length_append, List.length_replicate]
    omega
  · simp only [padAndFinalize, List.length_append, List.length_replicate]
    omega
  · rw [width]
    rfl
  · rw [width]
    exact small
  · rw [width, ← same, padAndFinalize, List.drop_left, same]

end Blocks

/-- The ids of a group of samples. -/
def idsOf (group : List TokenizedSample) : List Int := group.flatMap TokenizedSample.inputIds

/-- The block of a group: its labels are its ids. -/
def blockOf (maxSeqLength : Nat) (padTokenId : Int) (group : List TokenizedSample) : Block :=
  padAndFinalize (idsOf group) (idsOf group) maxSeqLength padTokenId

def tokens (sample : TokenizedSample) : Nat := sample.inputIds.length

theorem idsOf_length (group : List TokenizedSample) :
    (idsOf group).length = total tokens group := by
  induction group with
  | nil => rfl
  | cons sample group ih =>
      rw [idsOf, List.flatMap_cons, List.length_append, ← idsOf, ih]
      rfl

theorem idsOf_eq_nil {group : List TokenizedSample} : idsOf group = [] ↔ group.isEmpty = true := by
  cases group with
  | nil => exact iff_of_true rfl rfl
  | cons sample group =>
      refine iff_of_false (fun empty => ?_) (by simp)
      rw [idsOf, List.flatMap_cons] at empty
      exact sample.nonempty (List.append_eq_nil_iff.mp empty).1

/-- The loop makes one block of each group, and its labels are never the samples'. -/
theorem packFrom_eq {maxSeqLength : Nat} {padTokenId : Int} (samples : List TokenizedSample)
    (each : ∀ sample ∈ samples, sample.inputIds.length ≤ maxSeqLength)
    (begun : List TokenizedSample) :
    packFrom maxSeqLength padTokenId samples (idsOf begun) (idsOf begun) =
      (nextFit tokens maxSeqLength samples begun).map (blockOf maxSeqLength padTokenId) := by
  have closes : ∀ group : List TokenizedSample,
      finished maxSeqLength padTokenId (idsOf group) (idsOf group) =
        (if group.isEmpty then [] else [group]).map (blockOf maxSeqLength padTokenId) := by
    intro group
    rw [finished]
    by_cases empty : group.isEmpty = true
    · rw [if_pos (idsOf_eq_nil.mpr empty), if_pos empty]
      rfl
    · rw [if_neg (empty ∘ idsOf_eq_nil.mp), if_neg empty]
      rfl
  induction samples generalizing begun with
  | nil => exact closes begun
  | cons sample rest ih =>
      have whole : sample.inputIds.take maxSeqLength = sample.inputIds :=
        List.take_of_length_le (each sample List.mem_cons_self)
      have rest_fits := fun other member => each other (List.mem_cons_of_mem sample member)
      have alone : idsOf [sample] = sample.inputIds := List.append_nil _
      have joined : idsOf (begun ++ [sample]) = idsOf begun ++ sample.inputIds := by
        rw [idsOf, List.flatMap_append]
        exact congrArg _ alone
      rw [packFrom, nextFit, whole, idsOf_length, ← alone, idsOf_length, total_singleton]
      split
      · rw [List.map_append, ← closes, ih rest_fits [sample]]
      · rw [alone, ← joined, ih rest_fits (begun ++ [sample])]

/-- A sample's labels are its ids exactly if its prompt holds nothing to mask. -/
theorem labels_eq_iff (sample : TokenizedSample) : sample.labels = sample.inputIds ↔
    ∀ id ∈ sample.inputIds.take sample.promptLength, id = ignoreIndex := by
  have width : (sample.inputIds.take sample.promptLength).length =
      min sample.promptLength sample.inputIds.length := List.length_take
  have parted : sample.labels = sample.inputIds ↔
      List.replicate (min sample.promptLength sample.inputIds.length) ignoreIndex =
        sample.inputIds.take sample.promptLength := by
    rw [sample.masked, maskPrompt]
    constructor
    · intro same
      have taken := congrArg (List.take (min sample.promptLength sample.inputIds.length)) same
      rwa [List.take_left' List.length_replicate, ← List.take_eq_take_min] at taken
    · intro same
      rw [same, List.take_append_drop]
  rw [parted, eq_comm, List.eq_replicate_iff]
  exact and_iff_right width

/-- The labelled tokens of some samples. -/
def labelled (samples : List TokenizedSample) : List (Int × Int) :=
  samples.flatMap fun sample => sample.inputIds.zip sample.labels

/-- What the blocks are attended on: every token as its own label. -/
theorem attended_blocks {maxSeqLength : Nat} {padTokenId : Int}
    (groups : List (List TokenizedSample)) :
    (groups.map (blockOf maxSeqLength padTokenId)).flatMap Block.attended =
      groups.flatten.flatMap fun sample => sample.inputIds.zip sample.inputIds := by
  have one : ∀ group : List TokenizedSample, (idsOf group).zip (idsOf group) =
      group.flatMap fun sample => sample.inputIds.zip sample.inputIds := by
    intro group
    induction group with
    | nil => rfl
    | cons sample group ih =>
        rw [idsOf, List.flatMap_cons, List.zip_append rfl, List.flatMap_cons, ← idsOf, ih]
  induction groups with
  | nil => rfl
  | cons group groups ih =>
      rw [List.map_cons, List.flatMap_cons, ih, blockOf, attended_padAndFinalize rfl, one,
        List.flatten_cons, List.flatMap_append]

/-- Tokens are their own labels exactly if no sample has a prompt to mask. -/
theorem labelled_eq_iff (samples : List TokenizedSample) :
    (samples.flatMap fun sample => sample.inputIds.zip sample.inputIds) = labelled samples ↔
      ∀ sample ∈ samples, sample.labels = sample.inputIds := by
  induction samples with
  | nil => exact iff_of_true rfl (by simp)
  | cons sample rest ih =>
      have widths : (sample.inputIds.zip sample.inputIds).length =
          (sample.inputIds.zip sample.labels).length := by
        rw [List.length_zip, List.length_zip, sample.labels_length]
      have here : sample.inputIds.zip sample.inputIds = sample.inputIds.zip sample.labels ↔
          sample.labels = sample.inputIds := by
        constructor
        · intro same
          have seconds := congrArg (List.map Prod.snd) same
          rw [List.map_snd_zip Nat.le.refl, List.map_snd_zip sample.labels_length.le] at seconds
          exact seconds.symm
        · intro same
          rw [same]
      rw [labelled, List.flatMap_cons, List.flatMap_cons, ← labelled, List.forall_mem_cons, ← ih,
        ← here]
      constructor
      · exact fun same => List.append_inj same widths
      · rintro ⟨first, others⟩
        rw [first, others]

/-- Whatever the labels, the samples stay whole and in order in padded blocks, and no two
neighbouring blocks would have fitted into one. -/
theorem packSequences_groups (maxSeqLength : Nat) (padTokenId : Int)
    {samples : List TokenizedSample}
    (each : ∀ sample ∈ samples, sample.inputIds.length ≤ maxSeqLength) :
    ∃ groups, packSequences maxSeqLength padTokenId samples =
        groups.map (blockOf maxSeqLength padTokenId) ∧
      Grouped tokens maxSeqLength samples groups := by
  have packed : packFrom maxSeqLength padTokenId samples [] [] =
      (nextFit tokens maxSeqLength samples []).map (blockOf maxSeqLength padTokenId) :=
    packFrom_eq samples each []
  have grouped :=
    nextFit_grouped samples each (show total tokens [] ≤ maxSeqLength from Nat.zero_le _)
  exact ⟨nextFit tokens maxSeqLength samples [], packed, grouped⟩

theorem attended_blockOf (maxSeqLength : Nat) (padTokenId : Int) (group : List TokenizedSample) :
    (blockOf maxSeqLength padTokenId group).attended = (idsOf group).zip (idsOf group) :=
  attended_padAndFinalize rfl

theorem attended_blockOf_length (maxSeqLength : Nat) (padTokenId : Int)
    (group : List TokenizedSample) :
    (blockOf maxSeqLength padTokenId group).attended.length = total tokens group := by
  rw [attended_blockOf, List.length_zip, Nat.min_self, idsOf_length]

/-- Packing keeps every token with its label exactly if no sample has a prompt to mask. -/
theorem packSequences_packs_iff (maxSeqLength : Nat) (padTokenId : Int)
    (samples : List TokenizedSample)
    (each : ∀ sample ∈ samples, sample.inputIds.length ≤ maxSeqLength) :
    Packs maxSeqLength samples (packSequences maxSeqLength padTokenId samples) ↔
      ∀ sample ∈ samples, ∀ id ∈ sample.inputIds.take sample.promptLength, id = ignoreIndex := by
  obtain ⟨groups, packed, grouped⟩ := packSequences_groups maxSeqLength padTokenId each
  have kept : (packSequences maxSeqLength padTokenId samples).flatMap Block.attended =
      labelled samples ↔
        ∀ sample ∈ samples, ∀ id ∈ sample.inputIds.take sample.promptLength, id = ignoreIndex := by
    rw [packed, attended_blocks, grouped.flatten, labelled_eq_iff]
    simp only [labels_eq_iff]
  constructor
  · intro packs
    exact kept.mp packs.labelled
  · intro unmasked
    constructor
    · exact kept.mpr unmasked
    · intro block member
      rw [packed] at member
      obtain ⟨group, isGroup, rfl⟩ := List.mem_map.mp member
      apply framed_padAndFinalize rfl
      rw [idsOf_length]
      exact grouped.fits group isGroup
    · refine ⟨groups, grouped.flatten, ?_⟩
      rw [packed, List.forall₂_map_right_iff, List.forall₂_same]
      intro group _
      rw [attended_blockOf, List.map_fst_zip Nat.le.refl]
      rfl
    · rw [packed, List.isChain_map]
      apply grouped.tight.imp
      intro first second full
      rw [attended_blockOf_length, attended_blockOf_length]
      exact full

/-- A sample of two tokens without a prompt. -/
def unprompted : TokenizedSample where
  inputIds := [5, 6]
  labels := [5, 6]
  promptLength := 0
  nonempty := by simp
  masked := rfl

theorem packSequences_packs_iff_unprompted :
    Packs 3 [unprompted, unprompted] (packSequences 3 0 [unprompted, unprompted]) := by
  have each : ∀ sample ∈ [unprompted, unprompted], sample.inputIds.length ≤ 3 := by
    simp [unprompted]
  have nothing : ∀ sample ∈ [unprompted, unprompted],
      ∀ id ∈ sample.inputIds.take sample.promptLength, id = ignoreIndex := by
    simp [unprompted]
  exact (packSequences_packs_iff 3 0 _ each).mpr nothing

/-- A sample of three tokens, the first of them its prompt. -/
def prompted : TokenizedSample where
  inputIds := [5, 6, 7]
  labels := [-100, 6, 7]
  promptLength := 1
  nonempty := by simp
  masked := rfl

/-- The prompt is trained on: its first token comes back as its own label. -/
theorem packed_prompt_is_labelled :
    ¬ Packs 4 [prompted] (packSequences 4 0 [prompted]) := by
  intro packs
  have labels : (packSequences 4 0 [prompted]).flatMap Block.attended = [(5, 5), (6, 6),
    (7, 7)] := by
    decide
  have wanted := packs.labelled
  rw [labels] at wanted
  exact absurd wanted (by decide)

end Xaytune.Data
