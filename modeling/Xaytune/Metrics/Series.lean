import Mathlib.Data.Fin.Basic
import Mathlib.Data.List.FinRange
import Mathlib.Data.List.MinMax
import Mathlib.Data.List.Nodup
import Mathlib.Data.List.Perm.Subperm
import Mathlib.Data.List.Sort
import Mathlib.Data.Prod.Lex

/-!
# Downsampling a series

`downsample` keeps the two ends of a series and, of every bucket of the points between them, the
earliest lowest and the earliest highest. Indices are below the length by their type, so the sorted
set of kept ones is a filter of all of them.
-/

namespace Xaytune.Metrics

variable {P V : Type} [LinearOrder V] (value : P → V)

/-- The number of buckets for a limit on the points. -/
def bucketCount (limit : Nat) : Nat := max 1 ((limit - 2) / 2)

/-- How many inner points a bucket holds: a ceiling. -/
def bucketSize (length limit : Nat) : Nat :=
  (length - 2 + bucketCount limit - 1) / bucketCount limit

/-- `range(1, length - 1, size)`. -/
def starts (length size : Nat) : List Nat := List.range' 1 ((length - 2 + size - 1) / size) size

/-- `range(start, min(start + size, length - 1))`, as indices. -/
def bucket {length : Nat} (size start : Nat) : List (Fin length) :=
  (List.finRange length).filter fun index =>
    start ≤ index ∧ (index : Nat) < min (start + size) (length - 1)

variable (points : List P)

/-- The buckets of a series, in order. -/
def buckets (limit : Nat) : List (List (Fin points.length)) :=
  (starts points.length (bucketSize points.length limit)).map
    (bucket (bucketSize points.length limit))

/-- `min(bucket, key=lambda index: (points[index].value, index))`. -/
def lowest (indices : List (Fin points.length)) : Option (Fin points.length) :=
  indices.argmin fun index => toLex (value points[index], (index : Nat))

/-- `max(bucket, key=lambda index: (points[index].value, -index))`. -/
def highest (indices : List (Fin points.length)) : Option (Fin points.length) :=
  indices.argmax fun index => toLex (value points[index], OrderDual.toDual (index : Nat))

/-- Whether an index is one of the set `kept`. -/
def isKept (limit : Nat) (index : Fin points.length) : Bool :=
  (index : Nat) = 0 ∨ (index : Nat) = points.length - 1 ∨
    ∃ indices ∈ buckets points limit,
      lowest value points indices = some index ∨ highest value points indices = some index

/-- The indices of the points that are returned. -/
def keptIndices (limit : Nat) : List (Fin points.length) :=
  if points.length ≤ limit then List.finRange points.length
  else (List.finRange points.length).filter (isKept value points limit)

def downsample (limit : Nat) : List P :=
  (keptIndices value points limit).map points.get

/-! ## Buckets -/

section buckets

variable {length limit size : Nat}

theorem bucketCount_pos (limit : Nat) : 0 < bucketCount limit :=
  Nat.lt_of_lt_of_le Nat.one_pos (Nat.le_max_left ..)

theorem bucketSize_pos (long : 2 < length) (limit : Nat) : 0 < bucketSize length limit := by
  have pos := bucketCount_pos limit
  apply Nat.div_pos _ pos
  omega

/-- The buckets hold every inner point. -/
theorem inner_le_mul (length limit : Nat) :
    length - 2 ≤ bucketCount limit * bucketSize length limit := by
  have pos := bucketCount_pos limit
  have split := Nat.div_add_mod (length - 2 + bucketCount limit - 1) (bucketCount limit)
  have rest := Nat.mod_lt (length - 2 + bucketCount limit - 1) pos
  unfold bucketSize
  omega

theorem length_starts_le (long : 2 < length) (limit : Nat) :
    (starts length (bucketSize length limit)).length ≤ bucketCount limit := by
  have pos := bucketSize_pos long limit
  have covers := inner_le_mul length limit
  rw [starts, List.length_range']
  apply Nat.le_of_lt_succ
  rw [Nat.div_lt_iff_lt_mul pos, Nat.succ_mul]
  omega

theorem mem_bucket {start : Nat} {index : Fin length} :
    index ∈ bucket size start ↔
      start ≤ index ∧ (index : Nat) < start + size ∧ (index : Nat) < length - 1 := by
  simp [bucket]

theorem two_lt_of_mem_starts {start : Nat} (member : start ∈ starts length size) :
    2 < length := by
  obtain ⟨number, below, -⟩ := List.mem_range'.mp member
  by_contra short
  rw [show length - 2 = 0 by omega, Nat.zero_add] at below
  rcases Nat.eq_zero_or_pos size with rfl | pos
  · simp at below
  · rw [Nat.div_eq_of_lt (by omega)] at below
    exact Nat.not_lt_zero _ below

theorem exists_start (pos : 0 < size) {index : Fin length} (first : 0 < (index : Nat))
    (last : (index : Nat) < length - 1) :
    ∃ start ∈ starts length size, index ∈ bucket size start := by
  have split := Nat.div_add_mod (index - 1 : Nat) size
  have rest := Nat.mod_lt (index - 1 : Nat) pos
  refine ⟨1 + size * ((index - 1) / size), ?_, mem_bucket.mpr ⟨by omega, by omega, last⟩⟩
  rw [starts, List.mem_range']
  refine ⟨(index - 1) / size, ?_, rfl⟩
  rw [show length - 2 + size - 1 = length - 3 + size by omega, Nat.add_div_right _ pos]
  exact Nat.lt_succ_of_le (Nat.div_le_div_right (by omega))

end buckets

/-! ## Extremes -/

section extremes

variable {value : P → V} {points : List P} {indices : List (Fin points.length)}

theorem exists_lowest (value : P → V) {index : Fin points.length} (member : index ∈ indices) :
    ∃ low, lowest value points indices = some low := by
  cases isLowest : lowest value points indices with
  | some low => exact ⟨low, rfl⟩
  | none =>
      rw [List.argmin_eq_none.mp isLowest] at member
      cases member

theorem exists_highest (value : P → V) {index : Fin points.length} (member : index ∈ indices) :
    ∃ high, highest value points indices = some high := by
  cases isHighest : highest value points indices with
  | some high => exact ⟨high, rfl⟩
  | none =>
      rw [List.argmax_eq_none.mp isHighest] at member
      cases member

theorem lowest_le {low index : Fin points.length}
    (isLowest : lowest value points indices = some low) (member : index ∈ indices) :
    value points[low] < value points[index] ∨
      value points[low] = value points[index] ∧ (low : Nat) ≤ index := by
  have least := List.le_of_mem_argmin member isLowest
  simpa [Prod.Lex.toLex_le_toLex] using least

theorem le_highest {high index : Fin points.length}
    (isHighest : highest value points indices = some high) (member : index ∈ indices) :
    value points[index] < value points[high] ∨
      value points[index] = value points[high] ∧ (high : Nat) ≤ index := by
  have greatest := List.le_of_mem_argmax member isHighest
  simpa [Prod.Lex.toLex_le_toLex] using greatest

end extremes

/-! ## The shape of a series -/

variable {value : P → V} {points : List P} {limit : Nat}

theorem mem_keptIndices {index : Fin points.length} :
    index ∈ keptIndices value points limit ↔
      points.length ≤ limit ∨ isKept value points limit index = true := by
  unfold keptIndices
  split_ifs with short
  · simp [short]
  · simp [short]

theorem keptIndices_sublist : (keptIndices value points limit).Sublist (List.finRange _) := by
  unfold keptIndices
  split_ifs
  · exact List.Sublist.refl _
  · exact List.filter_sublist

/-- The lowest and the highest point of a bucket. -/
def extremesOf (value : P → V) (points : List P) (indices : List (Fin points.length)) : List Nat :=
  ((lowest value points indices).toList ++ (highest value points indices).toList).map Fin.val

/-- The two ends, and the extremes of each bucket. -/
def candidates (value : P → V) (points : List P) (limit : Nat) : List Nat :=
  0 :: (points.length - 1) :: (buckets points limit).flatMap (extremesOf value points)

theorem mem_candidates {index : Fin points.length}
    (kept : isKept value points limit index = true) :
    (index : Nat) ∈ candidates value points limit := by
  have inner {indices : List (Fin points.length)} (member : indices ∈ buckets points limit)
      (isExtreme : index.val ∈ extremesOf value points indices) :
      (index : Nat) ∈ candidates value points limit :=
    List.mem_cons_of_mem _ (List.mem_cons_of_mem _ (List.mem_flatMap.mpr ⟨_, member, isExtreme⟩))
  rcases decide_eq_true_iff.mp kept with first | last | ⟨indices, member, low | high⟩
  · simp [candidates, first]
  · simp [candidates, last]
  · exact inner member (List.mem_map_of_mem (by simp [low]))
  · exact inner member (List.mem_map_of_mem (by simp [high]))

theorem length_extremesOf_le (indices : List (Fin points.length)) :
    (extremesOf value points indices).length ≤ 2 := by
  have low := Option.length_toList_le (o := lowest value points indices)
  have high := Option.length_toList_le (o := highest value points indices)
  rw [extremesOf, List.length_map, List.length_append]
  omega

theorem length_flatMap_extremesOf_le (each : List (List (Fin points.length))) :
    (each.flatMap (extremesOf value points)).length ≤ 2 * each.length := by
  induction each with
  | nil => simp
  | cons indices rest ih =>
      have pair := @length_extremesOf_le _ _ _ value points indices
      rw [List.flatMap_cons, List.length_append, List.length_cons]
      omega

theorem length_candidates_le (long : 2 < points.length) :
    (candidates value points limit).length ≤ 2 + 2 * bucketCount limit := by
  have pairs := @length_flatMap_extremesOf_le _ _ _ value points (buckets points limit)
  have count := length_starts_le long limit
  simp only [candidates, List.length_cons]
  rw [buckets, List.length_map] at pairs
  rw [buckets]
  omega

theorem length_keptIndices_le (wide : 4 ≤ limit) :
    (keptIndices value points limit).length ≤ limit := by
  by_cases short : points.length ≤ limit
  · simp [keptIndices, short]
  · have nodup : ((keptIndices value points limit).map Fin.val).Nodup :=
      List.Nodup.map Fin.val_injective (keptIndices_sublist.nodup (List.nodup_finRange _))
    have subset : (keptIndices value points limit).map Fin.val ⊆ candidates value points limit := by
      intro number member
      obtain ⟨index, isKept, rfl⟩ := List.mem_map.mp member
      exact mem_candidates ((mem_keptIndices.mp isKept).resolve_left short)
    have bound : (candidates value points limit).length ≤ 2 + 2 * bucketCount limit :=
      length_candidates_le (by omega)
    have fits : 2 + 2 * bucketCount limit ≤ limit := by
      unfold bucketCount
      omega
    calc (keptIndices value points limit).length
        = ((keptIndices value points limit).map Fin.val).length := (List.length_map _).symm
      _ ≤ (candidates value points limit).length := (List.subperm_of_subset nodup subset).length_le
      _ ≤ limit := bound.trans fits

/-- Every inner point lies in a bucket. -/
theorem exists_bucket {index : Fin points.length} (limit : Nat) (first : 0 < (index : Nat))
    (last : (index : Nat) < points.length - 1) :
    ∃ indices ∈ buckets points limit, index ∈ indices := by
  have long : 2 < points.length := by omega
  obtain ⟨start, member, inside⟩ := exists_start (bucketSize_pos long limit) first last
  exact ⟨_, List.mem_map_of_mem member, inside⟩

/-- The first index of a bucket is one of its own. -/
theorem exists_mem_bucket {indices : List (Fin points.length)}
    (member : indices ∈ buckets points limit) : 2 < points.length ∧ ∃ index, index ∈ indices := by
  obtain ⟨start, isStart, rfl⟩ := List.mem_map.mp member
  have long := two_lt_of_mem_starts isStart
  have pos := bucketSize_pos long limit
  obtain ⟨number, below, rfl⟩ := List.mem_range'.mp isStart
  have within := (Nat.lt_div_iff_mul_lt pos).mp below
  rw [Nat.mul_comm] at within
  exact ⟨long, ⟨1 + bucketSize points.length limit * number, by omega⟩,
    mem_bucket.mpr ⟨Nat.le_refl _, Nat.lt_add_of_pos_right pos, by dsimp only; omega⟩⟩

/-- A point higher than those before it and than none after it. -/
def FirstHighest (value : P → V) (points : List P) (index : Fin points.length) : Prop :=
  ∀ other : Fin points.length, value points[other] ≤ value points[index] ∧
    (other < index → value points[other] < value points[index])

def FirstLowest (value : P → V) (points : List P) (index : Fin points.length) : Prop :=
  ∀ other : Fin points.length, value points[index] ≤ value points[other] ∧
    (other < index → value points[index] < value points[other])

instance decidableFirstHighest (value : P → V) (points : List P) (index : Fin points.length) :
    Decidable (FirstHighest value points index) :=
  inferInstanceAs (Decidable (∀ _ : Fin points.length, _))

theorem kept_of_end {index : Fin points.length}
    (isEnd : (index : Nat) = 0 ∨ (index : Nat) = points.length - 1) :
    isKept value points limit index = true := by
  unfold isKept
  rw [decide_eq_true_iff]
  exact isEnd.imp_right .inl

theorem kept_of_extreme {index : Fin points.length} {indices : List (Fin points.length)}
    (member : indices ∈ buckets points limit)
    (isExtreme : lowest value points indices = some index ∨
      highest value points indices = some index) : isKept value points limit index = true := by
  unfold isKept
  rw [decide_eq_true_iff]
  exact .inr (.inr ⟨indices, member, isExtreme⟩)

/-- The first of the highest points of the series is the highest of its bucket that is kept. -/
theorem isKept_of_firstHighest {index : Fin points.length} (long : 2 < points.length)
    (first : FirstHighest value points index) : isKept value points limit index = true := by
  by_cases isEnd : (index : Nat) = 0 ∨ (index : Nat) = points.length - 1
  · exact kept_of_end isEnd
  · obtain ⟨indices, member, inside⟩ := exists_bucket limit (show 0 < index.val by omega) (by omega)
    obtain ⟨high, isHighest⟩ := exists_highest value inside
    suffices same : high = index by
      rw [same] at isHighest
      exact kept_of_extreme member (.inr isHighest)
    rcases le_highest isHighest inside with above | ⟨same, earlier⟩
    · exact absurd (first high).1 (not_le_of_gt above)
    · by_contra differs
      have below := (first high).2 (lt_of_le_of_ne earlier differs)
      exact absurd same.symm (ne_of_lt below)

theorem isKept_of_firstLowest {index : Fin points.length} (long : 2 < points.length)
    (first : FirstLowest value points index) : isKept value points limit index = true := by
  by_cases isEnd : (index : Nat) = 0 ∨ (index : Nat) = points.length - 1
  · exact kept_of_end isEnd
  · obtain ⟨indices, member, inside⟩ := exists_bucket limit (show 0 < index.val by omega) (by omega)
    obtain ⟨low, isLowest⟩ := exists_lowest value inside
    suffices same : low = index by
      rw [same] at isLowest
      exact kept_of_extreme member (.inl isLowest)
    rcases lowest_le isLowest inside with below | ⟨same, earlier⟩
    · exact absurd (first low).1 (not_le_of_gt below)
    · by_contra differs
      have above := (first low).2 (lt_of_le_of_ne earlier differs)
      exact absurd same.symm (ne_of_lt above)

theorem mem_keptIndices_of {index : Fin points.length}
    (kept : 2 < points.length → isKept value points limit index = true) (wide : 4 ≤ limit) :
    index ∈ keptIndices value points limit := by
  rw [mem_keptIndices]
  by_cases short : points.length ≤ limit
  · exact .inl short
  · exact .inr (kept (by omega))

theorem low_kept {indices : List (Fin points.length)} (member : indices ∈ buckets points limit)
    (wide : 4 ≤ limit) : ∃ low ∈ keptIndices value points limit, low ∈ indices ∧
      ∀ index ∈ indices, value points[low] ≤ value points[index] := by
  obtain ⟨-, first, inside⟩ := exists_mem_bucket member
  obtain ⟨low, isLowest⟩ := exists_lowest value inside
  refine ⟨low, mem_keptIndices_of (fun _ => kept_of_extreme member (.inl isLowest)) wide,
    List.argmin_mem isLowest, ?_⟩
  exact fun index among => (lowest_le isLowest among).elim le_of_lt fun same => le_of_eq same.1

theorem high_kept {indices : List (Fin points.length)} (member : indices ∈ buckets points limit)
    (wide : 4 ≤ limit) : ∃ high ∈ keptIndices value points limit, high ∈ indices ∧
      ∀ index ∈ indices, value points[index] ≤ value points[high] := by
  obtain ⟨-, first, inside⟩ := exists_mem_bucket member
  obtain ⟨high, isHighest⟩ := exists_highest value inside
  refine ⟨high, mem_keptIndices_of (fun _ => kept_of_extreme member (.inr isHighest)) wide,
    List.argmax_mem isHighest, ?_⟩
  exact fun index among => (le_highest isHighest among).elim le_of_lt fun same => le_of_eq same.1

/-- What a downsampled series keeps of the whole one, by the indices that are kept. -/
structure KeepsShape (value : P → V) (points : List P) (limit : Nat)
    (kept : List (Fin points.length)) : Prop where
  increasing : kept.Pairwise (· < ·)
  few : kept.length ≤ limit
  whole : points.length ≤ limit → kept = List.finRange points.length
  ends : ∀ index : Fin points.length,
    (index : Nat) = 0 ∨ (index : Nat) = points.length - 1 → index ∈ kept
  highest : ∀ index, FirstHighest value points index → index ∈ kept
  lowest : ∀ index, FirstLowest value points index → index ∈ kept
  inner : ∀ index : Fin points.length, 0 < (index : Nat) → (index : Nat) < points.length - 1 →
    ∃ indices ∈ buckets points limit, index ∈ indices
  low : ∀ indices ∈ buckets points limit, ∃ low ∈ kept, low ∈ indices ∧
    ∀ index ∈ indices, value points[low] ≤ value points[index]
  high : ∀ indices ∈ buckets points limit, ∃ high ∈ kept, high ∈ indices ∧
    ∀ index ∈ indices, value points[index] ≤ value points[high]

/-- Downsampling to at least four points keeps the shape of a series. -/
theorem keptIndices_keepsShape (points : List P) (wide : 4 ≤ limit) :
    KeepsShape value points limit (keptIndices value points limit) := by
  constructor
  · exact (List.sortedLT_finRange _).pairwise.sublist keptIndices_sublist
  · exact length_keptIndices_le wide
  · intro short
    rw [keptIndices, if_pos short]
  · exact fun index isEnd => mem_keptIndices_of (fun _ => kept_of_end isEnd) wide
  · exact fun index first => mem_keptIndices_of (fun long => isKept_of_firstHighest long first) wide
  · exact fun index first => mem_keptIndices_of (fun long => isKept_of_firstLowest long first) wide
  · exact fun index first last => exists_bucket limit first last
  · exact fun indices member => low_kept member wide
  · exact fun indices member => high_kept member wide

/-- A spike inside a long series is never lost. -/
theorem spike_kept : (3 : Fin 7) ∈ keptIndices id [0, 0, 2, 9, 0, 1, 0] 4 :=
  (keptIndices_keepsShape [0, 0, 2, 9, 0, 1, 0] (Nat.le_refl 4)).highest 3 (by decide)

/-- Whether an index lies in the bucket with this number. -/
def InBucket (length limit number index : Nat) : Prop :=
  1 + bucketSize length limit * number ≤ index ∧
    index < 1 + bucketSize length limit * (number + 1) ∧ index < length - 1

theorem exists_numbered_bucket {number : Nat} {index : Fin points.length}
    (inside : InBucket points.length limit number index) :
    ∃ indices ∈ buckets points limit, ∀ other : Fin points.length,
      other ∈ indices ↔ InBucket points.length limit number other := by
  obtain ⟨first, within, inner⟩ := inside
  have pos := bucketSize_pos (show 2 < points.length by omega) limit
  generalize isSize : bucketSize points.length limit = size at first within pos
  refine ⟨bucket size (1 + size * number), ?_, fun other => ?_⟩
  · rw [buckets, isSize]
    refine List.mem_map_of_mem (List.mem_range'.mpr ⟨number, ?_, rfl⟩)
    rw [Nat.lt_div_iff_mul_lt pos, Nat.mul_comm]
    omega
  · rw [mem_bucket, InBucket, isSize, Nat.mul_succ, Nat.add_assoc]

/-- A downsampled series is a part of the series in its order, of at most as many points as are
asked for, with both ends, the first of its highest and of its lowest points and the extremes of
every bucket. -/
theorem downsample_keeps_extremes (points : List P) (wide : 4 ≤ limit) :
    (points.length ≤ limit → downsample value points limit = points) ∧
    (downsample value points limit).length ≤ limit ∧
    ∃ kept : List (Fin points.length), kept.Pairwise (· < ·) ∧
      downsample value points limit = kept.map points.get ∧
      (∀ index : Fin points.length, (index : Nat) = 0 ∨ (index : Nat) = points.length - 1 ∨
        FirstHighest value points index ∨ FirstLowest value points index → index ∈ kept) ∧
      ∀ number (index : Fin points.length), InBucket points.length limit number index →
        (∃ low ∈ kept, InBucket points.length limit number low ∧
          ∀ other : Fin points.length, InBucket points.length limit number other →
            value points[low] ≤ value points[other]) ∧
        ∃ high ∈ kept, InBucket points.length limit number high ∧
          ∀ other : Fin points.length, InBucket points.length limit number other →
            value points[other] ≤ value points[high] := by
  refine ⟨fun short => ?_, ?_, keptIndices value points limit, ?_, rfl, ?_, ?_⟩
  · rw [downsample, keptIndices, if_pos short, List.map_get_finRange]
  · rw [downsample, List.length_map]
    exact length_keptIndices_le wide
  · exact (List.sortedLT_finRange _).pairwise.sublist keptIndices_sublist
  · intro index isOne
    refine mem_keptIndices_of (fun long => ?_) wide
    rcases isOne with first | last | highest | lowest
    · exact kept_of_end (.inl first)
    · exact kept_of_end (.inr last)
    · exact isKept_of_firstHighest long highest
    · exact isKept_of_firstLowest long lowest
  · intro number index inside
    obtain ⟨indices, member, exactly⟩ := exists_numbered_bucket inside
    obtain ⟨low, kept, among, least⟩ := @low_kept _ _ _ value _ _ _ member wide
    obtain ⟨high, kept', among', greatest⟩ := @high_kept _ _ _ value _ _ _ member wide
    exact ⟨⟨low, kept, (exactly low).mp among,
      fun other isIn => least other ((exactly other).mpr isIn)⟩,
      high, kept', (exactly high).mp among',
      fun other isIn => greatest other ((exactly other).mpr isIn)⟩

theorem downsample_keeps_extremes_spike : ∃ kept : List (Fin 7),
    downsample id [0, 0, 2, 9, 0, 1, 0] 4 = kept.map [0, 0, 2, 9, 0, 1, 0].get ∧
      0 ∈ kept ∧ 3 ∈ kept ∧ 6 ∈ kept := by
  obtain ⟨-, -, kept, -, served, most, -⟩ :=
    @downsample_keeps_extremes _ _ _ id _ [0, 0, 2, 9, 0, 1, 0] (Nat.le_refl 4)
  exact ⟨kept, served, most 0 (.inl rfl), most 3 (.inr (.inr (.inl (by decide)))),
    most 6 (.inr (.inl rfl))⟩

end Xaytune.Metrics
