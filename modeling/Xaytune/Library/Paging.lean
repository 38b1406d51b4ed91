import Mathlib.Data.List.Sort

/-!
# Reading by key, page by page

A page holds the rows below a key, the greatest first; the key of its last row asks for the next
one. Rows come and go between two pages. The pages together still fall strictly, and miss no row
that was there for each of them.
-/

namespace Xaytune.Library

variable {α K : Type}

section next

variable {key : α → K} {limit : Nat} {rows : List α}

/-- The key of the last row, if the page is full. -/
def nextKey (key : α → K) (limit : Nat) (rows : List α) : Option K :=
  if rows.length = limit then rows.getLast?.map key else none

theorem nextKey_eq_some {bound : K} (next : nextKey key limit rows = some bound) :
    rows.length = limit ∧ ∃ earlier last, rows = earlier ++ [last] ∧ key last = bound := by
  rw [nextKey] at next
  split_ifs at next with full
  obtain ⟨last, isLast, rfl⟩ := Option.map_eq_some_iff.mp next
  exact ⟨full, rows.dropLast, last, (List.dropLast_append_getLast? last isLast).symm, rfl⟩

/-- A page behind which nothing is asked for is short. -/
theorem nextKey_eq_none (pos : 0 < limit) (few : rows.length ≤ limit)
    (next : nextKey key limit rows = none) : rows.length < limit := by
  rw [nextKey] at next
  split_ifs at next with full
  · rw [Option.map_eq_none_iff, List.getLast?_eq_none_iff] at next
    rw [next] at full ⊢
    exact pos
  · omega

end next

variable [LinearOrder K] (key : α → K) (limit : Nat)

/-- Whether a key is asked for. -/
def Below (before : Option K) (k : K) : Prop := ∀ bound, before = some bound → k < bound

instance Below.decidable (before : Option K) (k : K) : Decidable (Below before k) :=
  match before with
  | none => .isTrue nofun
  | some bound =>
      if below : k < bound then .isTrue fun _ same => Option.some.inj same ▸ below
      else .isFalse fun all => below (all bound rfl)

/-- All rows below a key, the greatest first. -/
def descending (rows : List α) (before : Option K) : List α :=
  (rows.filter fun row => Below before (key row)).insertionSort fun first second =>
    key second ≤ key first

def page (rows : List α) (before : Option K) : List α := (descending key rows before).take limit

/-- The pages read off the states of the rows, one after the other, until one is not full. -/
def readPages : List (List α) → Option K → List (List α)
  | [], _ => []
  | rows :: later, before =>
      page key limit rows before ::
        match nextKey key limit (page key limit rows before) with
        | none => []
        | some bound => readPages later (some bound)

section page

variable {key : α → K} {limit : Nat} {rows : List α} {before : Option K}

instance keyTotal (key : α → K) : Std.Total fun first second : α => key second ≤ key first :=
  ⟨fun first second => le_total (key second) (key first)⟩

instance keyTrans (key : α → K) : IsTrans α fun first second => key second ≤ key first :=
  ⟨fun _ _ _ before behind => behind.trans before⟩

theorem mem_descending {row : α} :
    row ∈ descending key rows before ↔ row ∈ rows ∧ Below before (key row) := by
  rw [descending, List.mem_insertionSort, List.mem_filter, decide_eq_true_iff]

theorem descending_falls (unique : (rows.map key).Nodup) :
    (descending key rows before).Pairwise fun first second => key second < key first := by
  have sorted : (descending key rows before).Pairwise fun first second =>
      key second ≤ key first := List.pairwise_insertionSort _ _
  have apart : ((descending key rows before).map key).Nodup := by
    rw [descending, ((List.perm_insertionSort _ _).map key).nodup_iff]
    exact unique.sublist (List.filter_sublist.map key)
  exact (sorted.and (List.pairwise_map.mp apart)).imp fun both => lt_of_le_of_ne both.1 both.2.symm

theorem page_falls (unique : (rows.map key).Nodup) :
    (page key limit rows before).Pairwise fun first second => key second < key first :=
  (descending_falls unique).sublist (List.take_sublist _ _)

theorem mem_of_mem_page {row : α} (member : row ∈ page key limit rows before) :
    row ∈ rows ∧ Below before (key row) :=
  mem_descending.mp (List.mem_of_mem_take member)

/-- What is asked for is on the page, or the page is full and all above it. -/
theorem mem_page_or {row : α} (unique : (rows.map key).Nodup) (member : row ∈ rows)
    (below : Below before (key row)) :
    row ∈ page key limit rows before ∨ (page key limit rows before).length = limit ∧
      ∀ other ∈ page key limit rows before, key row < key other := by
  have falls := @descending_falls _ _ _ key rows before unique
  have listed := mem_descending.mpr ⟨member, below⟩
  rw [← List.take_append_drop limit (descending key rows before)] at listed falls
  rcases List.mem_append.mp listed with here | later
  · exact .inl here
  · refine .inr ⟨?_, fun other isHere => (List.pairwise_append.mp falls).2.2 other isHere row later⟩
    rw [page, List.length_take]
    have some_of := List.length_pos_of_mem later
    rw [List.length_drop] at some_of
    omega

end page

/-- The last page that was read is short, so no further one is asked for. -/
def Ended (pages : List (List α)) : Prop := ∃ last, pages.getLast? = some last ∧ last.length < limit

/-- What reading by key promises. -/
structure ReadsAll (key : α → K) (limit : Nat) (states : List (List α)) (before : Option K)
    (pages : List (List α)) : Prop where
  /-- Each page holds rows as they stood when it was read, at most `limit` of them. -/
  stored : List.Forall₂ (fun page rows => page ⊆ rows ∧ page.length ≤ limit) pages
    (states.take pages.length)
  below : ∀ row ∈ pages.flatten, Below before (key row)
  falls : pages.flatten.Pairwise fun first second => key second < key first
  complete : Ended limit pages → ∀ k, Below before k →
    (∀ rows ∈ states.take pages.length, k ∈ rows.map key) → k ∈ pages.flatten.map key

section reads

variable {key : α → K} {limit : Nat}

theorem readPages_readsAll (pos : 0 < limit) (states : List (List α))
    (unique : ∀ rows ∈ states, (rows.map key).Nodup) (before : Option K) :
    ReadsAll key limit states before (readPages key limit states before) := by
  induction states generalizing before with
  | nil =>
      refine ⟨.nil, by simp [readPages], by simp [readPages], ?_⟩
      rintro ⟨last, isLast, -⟩
      cases isLast
  | cons rows states ih =>
      obtain ⟨here, rest⟩ := List.forall_mem_cons.mp unique
      have falls := @page_falls _ _ _ key limit rows before here
      have few : (page key limit rows before).length ≤ limit := List.length_take_le _ _
      have subset : page key limit rows before ⊆ rows := fun row member =>
        (mem_of_mem_page member).1
      rw [readPages]
      cases next : nextKey key limit (page key limit rows before) with
      | none =>
          have short := nextKey_eq_none pos few next
          refine ⟨.cons ⟨subset, few⟩ .nil, ?_, by simpa using falls, ?_⟩
          · intro row member
            exact (mem_of_mem_page (by simpa using member)).2
          · intro _ k below stays
            obtain ⟨row, member, rfl⟩ := List.mem_map.mp (stays rows (by simp))
            rcases mem_page_or here member below with onPage | ⟨full, -⟩
            · simpa using List.mem_map_of_mem (f := key) onPage
            · exact absurd full (Nat.ne_of_lt short)
      | some bound =>
          change ReadsAll key limit (rows :: states) before
            (page key limit rows before :: readPages key limit states (some bound))
          obtain ⟨full, earlier, last, isPage, isBound⟩ := nextKey_eq_some next
          have later := ih rest (some bound)
          have isLast : last ∈ page key limit rows before := by simp [isPage]
          have under : ∀ row ∈ (readPages key limit states (some bound)).flatten, key row < bound :=
            fun row member => later.below row member bound rfl
          refine ⟨.cons ⟨subset, few⟩ later.stored, ?_, ?_, ?_⟩
          · intro row member
            rw [List.flatten_cons, List.mem_append] at member
            rcases member with onPage | behind
            · exact (mem_of_mem_page onPage).2
            · intro top same
              have above := (mem_of_mem_page isLast).2 top same
              exact (under row behind).trans (isBound ▸ above)
          · rw [List.flatten_cons, List.pairwise_append]
            refine ⟨falls, later.falls, ?_⟩
            intro first isFirst second isSecond
            rw [isPage, List.mem_append, List.mem_singleton] at isFirst
            rcases isFirst with before | rfl
            · rw [isPage, List.pairwise_append] at falls
              have above := falls.2.2 first before last (List.mem_singleton_self last)
              exact (under second isSecond).trans (isBound ▸ above)
            · exact isBound ▸ under second isSecond
          · rintro ⟨final, isFinal, short⟩ k below stays
            have ended : Ended limit (readPages key limit states (some bound)) := by
              cases others : readPages key limit states (some bound) with
              | nil =>
                  rw [others, List.getLast?_singleton, Option.some.injEq] at isFinal
                  rw [← isFinal, full] at short
                  exact absurd short (Nat.lt_irrefl _)
              | cons second others =>
                  rw [others, List.getLast?_cons_cons] at isFinal
                  exact ⟨final, isFinal, short⟩
            rw [List.length_cons, List.take_succ_cons, List.forall_mem_cons] at stays
            rw [List.flatten_cons, List.map_append, List.mem_append]
            obtain ⟨row, member, rfl⟩ := List.mem_map.mp stays.1
            rcases mem_page_or here member below with onPage | ⟨-, above⟩
            · exact .inl (List.mem_map_of_mem onPage)
            · refine .inr (later.complete ended (key row) ?_ stays.2)
              intro top same
              exact Option.some.inj same ▸ isBound ▸ above last isLast

end reads

end Xaytune.Library
