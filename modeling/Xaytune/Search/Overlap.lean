import Xaytune.Search.Space

/-!
# Overlapping fields of a search space

The check of neighbours misses an overlap exactly where a path that another extends is also gone
on with behind a newline, which a segment may end in and which sorts before the dot. Where it
misses none, applying values sets just the fields of the parameters, in any order.
-/

namespace Xaytune.Search

open Xaytune.Library Xaytune.Core

variable {F : Type}

/-! ## Letters of a path -/

theorem mem_join {separator letter : CodePoint} {words : List Text}
    (member : letter ∈ join separator words) :
    letter = separator ∨ ∃ word ∈ words, letter ∈ word := by
  have inTail : ∀ words : List Text, letter ∈ joinTail separator words →
      letter = separator ∨ ∃ word ∈ words, letter ∈ word := by
    intro words
    induction words with
    | nil => simp [joinTail]
    | cons word words ih =>
        intro behind
        rw [joinTail, List.mem_cons, List.mem_append] at behind
        rcases behind with isSeparator | here | later
        · exact .inl isSeparator
        · exact .inr ⟨word, List.mem_cons_self, here⟩
        · rcases ih later with isSeparator | ⟨other, isOther, inside⟩
          · exact .inl isSeparator
          · exact .inr ⟨other, List.mem_cons_of_mem _ isOther, inside⟩
  cases words with
  | nil => cases member
  | cons word words =>
      rw [join, List.mem_append] at member
      rcases member with here | later
      · exact .inr ⟨word, List.mem_cons_self, here⟩
      · rcases inTail words later with isSeparator | ⟨other, isOther, inside⟩
        · exact .inl isSeparator
        · exact .inr ⟨other, List.mem_cons_of_mem _ isOther, inside⟩

theorem dot_lt_segmentLetter {letter : CodePoint} (isLetter : segmentLetter letter = true) :
    dot < letter := by
  have lower : dot < point 'a' ∧ dot < point '_' ∧ dot < point '0' := by decide
  obtain ⟨lowerA, lowerLine, lowerDigit⟩ := lower
  simp only [segmentLetter, segmentStart, decide_eq_true_eq] at isLetter
  rcases isLetter with (⟨above, _⟩ | rfl) | ⟨above, _⟩
  · exact lt_of_lt_of_le lowerA above
  · exact lowerLine
  · exact lt_of_lt_of_le lowerDigit above

theorem mem_of_matchesSegment {segment : Text} (isMatch : matchesSegment segment = true)
    {letter : CodePoint} (member : letter ∈ segment) :
    letter = newline ∨ segmentLetter letter = true := by
  have inBody : ∀ body, isFieldName body = true →
      ∀ letter ∈ body, segmentLetter letter = true := by
    intro body isBody letter inside
    cases body with
    | nil => cases inside
    | cons first rest =>
        simp only [isFieldName, Bool.and_eq_true, List.all_eq_true] at isBody
        rcases List.mem_cons.mp inside with rfl | later
        · simp [segmentLetter, isBody.1]
        · exact isBody.2 letter later
  unfold matchesSegment at isMatch
  by_cases ends : segment.getLast? = some newline
  · rw [if_pos ends] at isMatch
    have parted : segment.dropLast ++ [newline] = segment := List.dropLast_append_getLast? _ ends
    rw [← parted, List.mem_append, List.mem_singleton] at member
    rcases member with inside | isNewline
    · exact .inr (inBody _ isMatch letter inside)
    · exact .inl isNewline
  · rw [if_neg ends] at isMatch
    exact .inr (inBody _ isMatch letter member)

theorem matchesSegment_of_accepted {path : Text} (accepted : aFieldPath path = .ok path) :
    ∀ segment ∈ segments path, matchesSegment segment = true := by
  intro segment member
  unfold aFieldPath at accepted
  by_contra unmatched
  have bad : (segments path).filter (fun segment => !matchesSegment segment) ≠ [] := by
    apply List.ne_nil_of_mem
    exact List.mem_filter.mpr ⟨member, by simpa using unmatched⟩
  rw [if_pos bad] at accepted
  cases accepted

/-- In an accepted path only a newline sorts before the dot. -/
theorem eq_newline_of_lt_dot {path : Text} (accepted : aFieldPath path = .ok path)
    {letter : CodePoint} (member : letter ∈ path) (before : letter < dot) : letter = newline := by
  have joined : join dot (segments path) = path := join_split path
  rw [← joined] at member
  rcases mem_join member with rfl | ⟨segment, isSegment, inside⟩
  · exact absurd before (lt_irrefl _)
  · rcases mem_of_matchesSegment (matchesSegment_of_accepted accepted segment isSegment) inside with
      isNewline | isLetter
    · exact isNewline
    · exact absurd before (lt_asymm (dot_lt_segmentLetter isLetter))

/-! ## What the check finds -/

/-- The second path goes on behind the first one and a dot. -/
def ExtendsPath (path longer : Text) : Prop := (path ++ [dot]).IsPrefix longer

theorem ExtendsPath.lt {path longer : Text} (longer_path : ExtendsPath path longer) :
    path < longer := by
  obtain ⟨rest, rfl⟩ := longer_path
  rw [List.append_assoc, List.singleton_append]
  exact lt_append_cons path dot rest

instance pathsApart_symm {F : Type} : Std.Symm fun first second : Parameter F =>
    Apart (segments first.path) (segments second.path) :=
  ⟨fun _ _ => Apart.symm⟩

/-- Names are distinct and no path equals another or extends it by further segments. -/
structure FieldsDistinct (parameters : List (Parameter F)) : Prop where
  names : (parameters.map Parameter.name).Nodup
  paths : parameters.Pairwise fun first second =>
    Apart (segments first.path) (segments second.path)

/-- There is an overlap, and each path that another extends is also gone on with behind a
newline. -/
structure HidesOverlap (parameters : List (Parameter F)) : Prop where
  names : (parameters.map Parameter.name).Nodup
  paths : (parameters.map Parameter.path).Nodup
  overlap : ∃ first ∈ parameters, ∃ second ∈ parameters, ExtendsPath first.path second.path
  hidden : ∀ first ∈ parameters, ∀ second ∈ parameters, ExtendsPath first.path second.path →
    ∃ between ∈ parameters, (first.path ++ [newline]).IsPrefix between.path

theorem firstOverlap_eq_none_iff (paths : List Text) : firstOverlap paths = none ↔
    paths.IsChain fun shorter longer => ¬ (longer = shorter ∨ ExtendsPath shorter longer) := by
  induction paths with
  | nil => exact iff_of_true rfl .nil
  | cons first rest ih =>
      cases rest with
      | nil => exact iff_of_true rfl (.singleton first)
      | cons second rest =>
          rw [firstOverlap, List.isChain_cons_cons, ← ih]
          split
          · next overlaps => exact iff_of_false (by simp) fun apart => apart.1 overlaps
          · next apart => exact (and_iff_right apart).symm

theorem apart_segments_iff (path path' : Text) : Apart (segments path) (segments path') ↔
    path ≠ path' ∧ ¬ ExtendsPath path path' ∧ ¬ ExtendsPath path' path := by
  rw [Apart, segments, segments, split_isPrefix_iff, split_isPrefix_iff]
  constructor
  · rintro ⟨forth, back⟩
    exact ⟨forth ∘ .inl, forth ∘ .inr, back ∘ .inr⟩
  · rintro ⟨differ, forth, back⟩
    exact ⟨fun either => either.elim differ forth,
      fun either => either.elim (differ ∘ Eq.symm) back⟩

/-- The check of neighbours misses an overlap only behind a newline. -/
theorem firstOverlap_sortedPaths_iff {parameters : List (Parameter F)}
    (accepted : ∀ parameter ∈ parameters, aFieldPath parameter.path = .ok parameter.path) :
    firstOverlap (sortedPaths parameters) = none ↔ (parameters.map Parameter.path).Nodup ∧
      ∀ first ∈ parameters, ∀ second ∈ parameters, ExtendsPath first.path second.path →
        ∃ between ∈ parameters, (first.path ++ [newline]).IsPrefix between.path := by
  have sorted : (sortedPaths parameters).Pairwise (· ≤ ·) := List.pairwise_insertionSort _ _
  have same : (sortedPaths parameters).Perm (parameters.map Parameter.path) :=
    List.perm_insertionSort _ _
  rw [firstOverlap_eq_none_iff, isChain_distinct_iff ExtendsPath.lt sorted, same.nodup_iff]
  apply and_congr_right
  intro _
  have mem : ∀ {parameter}, parameter ∈ parameters → parameter.path ∈ sortedPaths parameters :=
    fun member => same.mem_iff.mpr (List.mem_map_of_mem member)
  constructor
  · intro separated first isFirst second isSecond extending
    obtain ⟨_, isMiddle, lies⟩ :=
      separated first.path (mem isFirst) second.path (mem isSecond) extending
    obtain ⟨between, isBetween, rfl⟩ := List.mem_map.mp (same.mem_iff.mp isMiddle)
    obtain ⟨letter, tail, before, isPath⟩ := (between_iff extending).mp lies
    have inside : letter ∈ between.path := by rw [isPath]; simp
    have isNewline := eq_newline_of_lt_dot (accepted between isBetween) inside before
    refine ⟨between, isBetween, tail, ?_⟩
    rw [isPath, isNewline, List.append_assoc, List.singleton_append]
  · intro hidden low isLow high isHigh extending
    obtain ⟨first, isFirst, rfl⟩ := List.mem_map.mp (same.mem_iff.mp isLow)
    obtain ⟨second, isSecond, rfl⟩ := List.mem_map.mp (same.mem_iff.mp isHigh)
    obtain ⟨between, isBetween, tail, isPath⟩ := hidden first isFirst second isSecond extending
    refine ⟨between.path, mem isBetween, (between_iff extending).mpr ⟨newline, tail, ?_, ?_⟩⟩
    · decide
    · rw [← isPath, List.append_assoc, List.singleton_append]

/-! ## Acceptance -/

theorem make_ok_iff (parameters : List (Parameter F)) (some_parameters : parameters ≠ []) :
    (∃ space, SearchSpace.make parameters = .ok space) ↔
      (parameters.map Parameter.name).Nodup ∧ firstOverlap (sortedPaths parameters) = none := by
  unfold SearchSpace.make
  rw [if_neg some_parameters]
  split
  · next distinct =>
      rw [and_iff_right distinct]
      split
      · next found => simp [found]
      · next found => simp [found]
  · next taken => exact iff_of_false (by simp) fun both => taken both.1

theorem parameters_of_make {parameters : List (Parameter F)} {space : SearchSpace F}
    (made : SearchSpace.make parameters = .ok space) : space.parameters = byName parameters := by
  unfold SearchSpace.make at made
  split at made
  · cases made
  · split at made
    · split at made
      · cases made
      · cases made
        rfl
    · cases made

/-- Fields are distinct exactly if names and paths are and no path extends another. -/
theorem fieldsDistinct_iff (parameters : List (Parameter F)) : FieldsDistinct parameters ↔
    (parameters.map Parameter.name).Nodup ∧ (parameters.map Parameter.path).Nodup ∧
      ∀ first ∈ parameters, ∀ second ∈ parameters, ¬ ExtendsPath first.path second.path := by
  constructor
  · rintro ⟨names, paths⟩
    refine ⟨names, ?_, ?_⟩
    · rw [List.Nodup, List.pairwise_map]
      exact paths.imp fun apart => ((apart_segments_iff _ _).mp apart).1
    · intro first isFirst second isSecond extending
      by_cases same : first = second
      · subst same
        exact lt_irrefl _ extending.lt
      · have apart := List.Pairwise.forall paths isFirst isSecond same
        exact ((apart_segments_iff _ _).mp apart).2.1 extending
  · rintro ⟨names, paths, none_extends⟩
    refine ⟨names, ?_⟩
    rw [List.Nodup, List.pairwise_map] at paths
    apply paths.imp_of_mem
    intro first second isFirst isSecond differ
    exact (apart_segments_iff _ _).mpr ⟨differ, none_extends first isFirst second isSecond,
      none_extends second isSecond first isFirst⟩

/-- A nonempty tuple is accepted exactly if its fields are distinct, unless it hides an overlap. -/
theorem accepts_iff {parameters : List (Parameter F)} (some_parameters : parameters ≠ [])
    (accepted : ∀ parameter ∈ parameters, aFieldPath parameter.path = .ok parameter.path) :
    (∃ space, SearchSpace.make parameters = .ok space) ↔
      FieldsDistinct parameters ∨ HidesOverlap parameters := by
  rw [make_ok_iff parameters some_parameters, firstOverlap_sortedPaths_iff accepted,
    fieldsDistinct_iff]
  constructor
  · rintro ⟨names, paths, hidden⟩
    by_cases overlap : ∃ first ∈ parameters, ∃ second ∈ parameters,
        ExtendsPath first.path second.path
    · exact .inr ⟨names, paths, overlap, hidden⟩
    · refine .inl ⟨names, paths, fun first isFirst second isSecond extending => ?_⟩
      exact overlap ⟨first, isFirst, second, isSecond, extending⟩
  · rintro (⟨names, paths, none_extends⟩ | ⟨names, paths, _, hidden⟩)
    · refine ⟨names, paths, fun first isFirst second isSecond extending => ?_⟩
      exact absurd extending (none_extends first isFirst second isSecond)
    · exact ⟨names, paths, hidden⟩

theorem not_fieldsDistinct_of_hidesOverlap {parameters : List (Parameter F)}
    (hides : HidesOverlap parameters) : ¬ FieldsDistinct parameters := by
  intro distinct
  obtain ⟨first, isFirst, second, isSecond, extending⟩ := hides.overlap
  exact ((fieldsDistinct_iff parameters).mp distinct).2.2 first isFirst second isSecond extending

/-! ## Applying values -/

/-- The fields the parameters set, with their values. -/
def writesOf (values : List (Text × Value F)) (parameters : List (Parameter F)) :
    List (List Text × Value F) :=
  parameters.map fun parameter => (segments parameter.path, valueOf values parameter.name)

/-- Without a problem the loop has set every field. -/
theorem applyEach_iff (floats : FloatArithmetic F) (values : List (Text × Value F))
    (parameters : List (Parameter F)) (base document : Value F) :
    applyEach floats values parameters base = (document, []) ↔
      (∀ parameter ∈ parameters,
        parameter.domain.contains floats (valueOf values parameter.name) = true) ∧
      setEach (writesOf values parameters) base = some document := by
  induction parameters generalizing base with
  | nil =>
      rw [applyEach, writesOf, List.map_nil, setEach]
      simp
  | cons parameter rest ih =>
      rw [applyEach, List.forall_mem_cons, writesOf, List.map_cons, setEach_cons_iff, ← writesOf]
      simp only
      split
      · next inside =>
          split
          · next changed set => simp [ih, inside, set]
          · next none_set => simp [none_set]
      · next outside => simp [outside]

theorem applyDocument_ok {floats : FloatArithmetic F} {base document : Value F}
    {space : SearchSpace F} {values : List (Text × Value F)}
    (applied : applyDocument floats base space values = .ok document) :
    applyEach floats values space.parameters base = (document, []) := by
  unfold applyDocument at applied
  simp only at applied
  split at applied
  · split at applied
    · next isDone =>
        cases applied
        exact isDone
    · cases applied
  · cases applied

/-- What a search space promises: it is accepted exactly if its fields are distinct, the order of
the parameters is lost, and what values make of a base candidate is that candidate with just the
fields of the parameters set, in whatever order they are set. -/
structure SpaceSound (F : Type) (parameters : List (Parameter F)) : Prop where
  accepts : (∃ space, SearchSpace.make parameters = .ok space) ↔ FieldsDistinct parameters
  unordered : ∀ space, SearchSpace.make parameters = .ok space →
    ∀ declared, declared.Perm parameters → SearchSpace.make declared = .ok space
  exact : ∀ space, SearchSpace.make parameters = .ok space → ∀ floats base values document,
    applyDocument floats base space values = .ok document →
      SetsExactly (writesOf values parameters) base document ∧
        ∀ order, order.Perm parameters → applyEach floats values order base = (document, [])

section Order

variable {parameters declared : List (Parameter F)}

theorem sortedPaths_of_perm (same : declared.Perm parameters) :
    sortedPaths declared = sortedPaths parameters := by
  have samePaths : (sortedPaths declared).Perm (sortedPaths parameters) :=
    (List.perm_insertionSort _ _).trans ((same.map _).trans (List.perm_insertionSort _ _).symm)
  exact samePaths.eq_of_pairwise (fun _ _ _ _ => le_antisymm) (List.pairwise_insertionSort _ _)
    (List.pairwise_insertionSort _ _)

theorem byName_sorted (parameters : List (Parameter F)) :
    (byName parameters).Pairwise fun first second => first.name ≤ second.name := by
  have total : Std.Total fun first second : Parameter F => first.name ≤ second.name :=
    ⟨fun first second => le_total first.name second.name⟩
  have transitive : IsTrans (Parameter F) fun first second => first.name ≤ second.name :=
    ⟨fun _ _ _ => le_trans⟩
  exact List.pairwise_insertionSort _ _

theorem byName_of_perm (names : (parameters.map Parameter.name).Nodup)
    (same : declared.Perm parameters) : byName declared = byName parameters := by
  have sameParameters : (byName declared).Perm (byName parameters) :=
    (byName_perm declared).trans (same.trans (byName_perm parameters).symm)
  apply sameParameters.eq_of_pairwise _ (byName_sorted declared) (byName_sorted parameters)
  intro first second isFirst isSecond below above
  have isFirst' := same.mem_iff.mp ((byName_perm declared).mem_iff.mp isFirst)
  have isSecond' := (byName_perm parameters).mem_iff.mp isSecond
  exact List.inj_on_of_nodup_map names isFirst' isSecond' (le_antisymm below above)

theorem make_of_perm {space : SearchSpace F} (made : SearchSpace.make parameters = .ok space)
    (same : declared.Perm parameters) : SearchSpace.make declared = .ok space := by
  have some_parameters : parameters ≠ [] := by
    rintro rfl
    rw [SearchSpace.make, if_pos rfl] at made
    cases made
  have some_declared : declared ≠ [] := by
    rintro rfl
    exact some_parameters same.nil_eq.symm
  obtain ⟨names, unfound⟩ := (make_ok_iff parameters some_parameters).mp ⟨space, made⟩
  obtain ⟨space', made'⟩ := (make_ok_iff declared some_declared).mpr
    ⟨(same.map _).nodup_iff.mpr names, by rw [sortedPaths_of_perm same, unfound]⟩
  have sameParameters : space'.parameters = space.parameters := by
    rw [parameters_of_make made', parameters_of_make made, byName_of_perm names same]
  cases space
  cases space'
  cases sameParameters
  exact made'

end Order

/-- Where the fields are distinct, values are applied exactly and in any order. -/
theorem applies_exactly {parameters : List (Parameter F)} (distinct : FieldsDistinct parameters)
    {space : SearchSpace F} (made : SearchSpace.make parameters = .ok space)
    {floats : FloatArithmetic F} {base document : Value F} {values : List (Text × Value F)}
    (applied : applyDocument floats base space values = .ok document) :
    SetsExactly (writesOf values parameters) base document ∧
      ∀ order, order.Perm parameters → applyEach floats values order base = (document, []) := by
  have apart : AllApart (writesOf values parameters) := by
    rw [AllApart, writesOf, List.pairwise_map]
    exact distinct.paths
  have same : space.parameters.Perm parameters := by
    rw [parameters_of_make made]
    exact byName_perm parameters
  have each := applyDocument_ok applied
  rw [applyEach_iff] at each
  obtain ⟨inside, set⟩ := each
  have apart' : AllApart (writesOf values space.parameters) :=
    ((same.map _).pairwise_iff Apart.symm).mpr apart
  have setAll := setEach_perm (same.map _) apart' set
  refine ⟨setEach_exactly apart setAll, fun order same' => ?_⟩
  rw [applyEach_iff]
  constructor
  · intro parameter member
    exact inside parameter (same.mem_iff.mpr (same'.mem_iff.mp member))
  · exact setEach_perm (same'.map _).symm apart setAll

/-- A tuple of parameters makes a sound space exactly if it does not hide an overlap behind a
newline. -/
theorem spaceSound_iff {parameters : List (Parameter F)} (some_parameters : parameters ≠ [])
    (accepted : ∀ parameter ∈ parameters, parameter.Accepted) :
    SpaceSound F parameters ↔ ¬ HidesOverlap parameters := by
  have acceptance := accepts_iff some_parameters fun parameter member =>
    (accepted parameter member).path
  constructor
  · intro sound hides
    exact not_fieldsDistinct_of_hidesOverlap hides
      (sound.accepts.mp (acceptance.mpr (.inr hides)))
  · intro shows
    have accepts := acceptance.trans (or_iff_left shows)
    constructor
    · exact accepts
    · intro space made declared same
      exact make_of_perm made same
    · intro space made floats base values document applied
      exact applies_exactly (accepts.mp ⟨space, made⟩) made applied

/-- An integer parameter between nought and nine. -/
def digitParameter (name path : List Char) : Parameter Unit :=
  ⟨spell name, spell path, .int 0 9⟩

theorem spaceSound_iff_two_fields : SpaceSound Unit
    [digitParameter ['a'] ['x', '.', 'a'], digitParameter ['b'] ['x', '.', 'b']] := by
  have accepted : ∀ parameter ∈
      [digitParameter ['a'] ['x', '.', 'a'], digitParameter ['b'] ['x', '.', 'b']],
        parameter.Accepted := by
    intro parameter member
    rcases List.mem_cons.mp member with rfl | member
    · exact ⟨by decide, rfl⟩
    · rcases List.mem_singleton.mp member with rfl
      exact ⟨by decide, rfl⟩
  apply (spaceSound_iff (by simp) accepted).mpr
  intro hides
  obtain ⟨first, isFirst, second, isSecond, extending⟩ := hides.overlap
  revert extending
  revert second
  revert first
  unfold ExtendsPath
  decide

/-- The path `x`, another that ends in a newline, and one inside the first. -/
def hiddenOverlap : List (Parameter Unit) :=
  [digitParameter ['a'] ['x'], digitParameter ['b'] ['x', '\n'],
    digitParameter ['c'] ['x', '.', 'y']]

/-- The validators accept the three, and so does the space, though two of them overlap. -/
theorem newline_hides_overlap :
    (∀ parameter ∈ hiddenOverlap, parameter.Accepted) ∧ ¬ SpaceSound Unit hiddenOverlap := by
  have accepted : ∀ parameter ∈ hiddenOverlap, parameter.Accepted := by
    intro parameter member
    rcases List.mem_cons.mp member with rfl | member
    · exact ⟨by decide, rfl⟩
    · rcases List.mem_cons.mp member with rfl | member
      · exact ⟨by decide, rfl⟩
      · rcases List.mem_singleton.mp member with rfl
        exact ⟨by decide, rfl⟩
  refine ⟨accepted, fun sound => ?_⟩
  have made : ∃ space, SearchSpace.make hiddenOverlap = .ok space :=
    (make_ok_iff hiddenOverlap (by simp [hiddenOverlap])).mpr ⟨by decide, by decide⟩
  have distinct := (fieldsDistinct_iff hiddenOverlap).mp (sound.accepts.mp made)
  have overlap : ExtendsPath (spell ['x']) (spell ['x', '.', 'y']) := by
    unfold ExtendsPath
    decide
  exact distinct.2.2 (digitParameter ['a'] ['x']) (by simp [hiddenOverlap])
    (digitParameter ['c'] ['x', '.', 'y']) (by simp [hiddenOverlap]) overlap

end Xaytune.Search
