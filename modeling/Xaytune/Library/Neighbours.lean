import Mathlib.Data.Fin.Basic
import Mathlib.Data.List.Chain
import Mathlib.Data.List.Lex
import Mathlib.Data.List.Sort

/-!
# Checking neighbours of a sorted list

A relation that points upwards is looked for between the neighbours of a sorted list only. It is
missed exactly where something unrelated lies between. For texts in lexicographic order and the
relation of going on behind a separator, what lies between goes on with a smaller letter.
-/

namespace Xaytune.Library

/-! ## Between two related items -/

theorem chain_and {α : Type} {first second both : α → α → Prop} {items : List α}
    (holds : items.IsChain first) (holds' : items.IsChain second)
    (together : ∀ low high, first low high → second low high → both low high) :
    items.IsChain both := by
  induction holds with
  | nil => exact .nil
  | singleton item => exact .singleton item
  | cons_cons related _ ih =>
      rw [List.isChain_cons_cons] at holds'
      exact .cons_cons (together _ _ related holds'.1) (ih holds'.2)

section Between

variable {α : Type} [LinearOrder α] {related : α → α → Prop}

/-- Neighbours are unrelated exactly if something unrelated lies between any related two. -/
theorem isChain_unrelated_iff (upwards : ∀ {low high}, related low high → low < high)
    {items : List α} (sorted : items.Pairwise (· < ·)) :
    items.IsChain (fun low high => ¬ related low high) ↔
      ∀ low ∈ items, ∀ high ∈ items, related low high →
        ∃ middle ∈ items, low < middle ∧ middle < high ∧ ¬ related low middle := by
  induction items with
  | nil => exact iff_of_true .nil (by simp)
  | cons first rest ih =>
      obtain ⟨least, sortedRest⟩ := List.pairwise_cons.mp sorted
      -- what is related to the first lies behind it, and nothing behind it is related to it
      have upper : ∀ {high}, high ∈ first :: rest → related first high → high ∈ rest := by
        intro high member isRelated
        rcases List.mem_cons.mp member with rfl | later
        · exact absurd (upwards isRelated) (lt_irrefl _)
        · exact later
      have lower : ∀ {low high}, low ∈ rest → high ∈ first :: rest → related low high →
          high ∈ rest := by
        intro low high behind member isRelated
        rcases List.mem_cons.mp member with rfl | later
        · exact absurd (upwards isRelated) (lt_asymm (least low behind))
        · exact later
      cases rest with
      | nil =>
          refine iff_of_true (.singleton first) ?_
          intro low isLow high isHigh isRelated
          rw [List.mem_singleton.mp isLow] at isRelated
          exact absurd (upper isHigh isRelated) (by simp)
      | cons second rest =>
          rw [List.isChain_cons_cons, ih sortedRest]
          constructor
          · rintro ⟨apart, within⟩ low isLow high isHigh isRelated
            rcases List.mem_cons.mp isLow with rfl | behind
            · refine ⟨second, by simp, least second (by simp), ?_, apart⟩
              rcases List.mem_cons.mp (upper isHigh isRelated) with rfl | later
              · exact absurd isRelated apart
              · exact (List.pairwise_cons.mp sortedRest).1 high later
            · obtain ⟨middle, member, between⟩ :=
                within low behind high (lower behind isHigh isRelated) isRelated
              exact ⟨middle, List.mem_cons_of_mem _ member, between⟩
          · intro separated
            constructor
            · intro isRelated
              obtain ⟨middle, member, above, below, _⟩ :=
                separated first (by simp) second (by simp) isRelated
              rcases List.mem_cons.mp member with rfl | behind
              · exact lt_irrefl _ above
              · rcases List.mem_cons.mp behind with rfl | later
                · exact lt_irrefl _ below
                · exact lt_asymm below ((List.pairwise_cons.mp sortedRest).1 middle later)
            · intro low behind high isHigh isRelated
              obtain ⟨middle, member, above, between⟩ := separated low
                (List.mem_cons_of_mem _ behind) high (List.mem_cons_of_mem _ isHigh) isRelated
              rcases List.mem_cons.mp member with rfl | later
              · exact absurd above (lt_asymm (least low behind))
              · exact ⟨middle, later, above, between⟩

/-- No two neighbours are equal or related exactly if all items are distinct and something
unrelated lies between any related two. -/
theorem isChain_distinct_iff (upwards : ∀ {low high}, related low high → low < high)
    {items : List α} (sorted : items.Pairwise (· ≤ ·)) :
    items.IsChain (fun low high => ¬ (high = low ∨ related low high)) ↔
      items.Nodup ∧ ∀ low ∈ items, ∀ high ∈ items, related low high →
        ∃ middle ∈ items, low < middle ∧ middle < high ∧ ¬ related low middle := by
  have strictly : items.Nodup → items.Pairwise (· < ·) := by
    intro distinct
    exact sorted.imp₂ (fun _ _ atMost differs => lt_of_le_of_ne atMost differs) distinct
  constructor
  · intro unrelated
    have ascending : items.Pairwise (· < ·) := by
      rw [← List.isChain_iff_pairwise]
      have neighbours := List.isChain_iff_pairwise.mpr sorted
      exact chain_and neighbours unrelated fun low high atMost apart =>
        lt_of_le_of_ne atMost fun same => apart (.inl same.symm)
    refine ⟨ascending.imp fun less => less.ne, (isChain_unrelated_iff upwards ascending).mp ?_⟩
    exact unrelated.imp fun low high apart isRelated => apart (.inr isRelated)
  · rintro ⟨distinct, between⟩
    have ascending := strictly distinct
    have unrelated := (isChain_unrelated_iff upwards ascending).mpr between
    refine chain_and ascending.isChain unrelated fun low high less apart either => ?_
    rcases either with rfl | isRelated
    · exact lt_irrefl _ less
    · exact apart isRelated

end Between

/-! ## Texts that go on behind a separator -/

section Texts

variable {α : Type} [LinearOrder α] {separator : α} {word longer middle tail : List α}

theorem lt_append_cons (word : List α) (letter : α) (tail : List α) :
    word < word ++ letter :: tail := by
  have nothing : word ++ [] < word ++ letter :: tail := List.append_left_lt (List.nil_lt_cons _ _)
  rwa [List.append_nil] at nothing

/-- What lies between a text and one that goes on behind it goes on behind it as well. -/
theorem goes_on_of_between (above : word < middle) (below : middle < word ++ tail) :
    ∃ more, middle = word ++ more ∧ [] < more ∧ more < tail := by
  induction word generalizing middle with
  | nil => exact ⟨middle, rfl, above, below⟩
  | cons letter word ih =>
      cases middle with
      | nil => exact absurd above (List.not_lt_nil _)
      | cons other middle =>
          rw [List.cons_lt_cons_iff] at above
          rw [List.cons_append, List.cons_lt_cons_iff] at below
          rcases above with before | ⟨rfl, above⟩
          · rcases below with after | ⟨rfl, _⟩
            · exact absurd after (lt_asymm before)
            · exact absurd before (lt_irrefl _)
          · rcases below with after | ⟨_, below⟩
            · exact absurd after (lt_irrefl _)
            · obtain ⟨more, rfl, some_more, less⟩ := ih above below
              exact ⟨more, rfl, some_more, less⟩

/-- What lies between a text and its continuation behind a separator, and is none itself, goes on
with a smaller letter. -/
theorem between_iff (continued : (word ++ [separator]).IsPrefix longer) :
    (word < middle ∧ middle < longer ∧ ¬ (word ++ [separator]).IsPrefix middle) ↔
      ∃ letter tail, letter < separator ∧ middle = word ++ letter :: tail := by
  obtain ⟨rest, rfl⟩ := continued
  have parted : word ++ [separator] ++ rest = word ++ separator :: rest := by simp
  rw [parted]
  constructor
  · rintro ⟨above, below, none_itself⟩
    obtain ⟨more, rfl, some_more, less⟩ := goes_on_of_between above below
    cases more with
    | nil => exact absurd some_more (List.not_lt_nil _)
    | cons letter tail =>
        rw [List.cons_lt_cons_iff] at less
        rcases less with smaller | ⟨rfl, _⟩
        · exact ⟨letter, tail, smaller, rfl⟩
        · exact absurd ⟨tail, by simp⟩ none_itself
  · rintro ⟨letter, tail, smaller, rfl⟩
    refine ⟨lt_append_cons _ _ _,
      List.append_left_lt (List.cons_lt_cons_iff.mpr (.inl smaller)), ?_⟩
    intro itself
    rw [List.prefix_append_right_inj] at itself
    obtain ⟨_, same⟩ := itself
    rw [List.singleton_append] at same
    exact absurd (List.cons.inj same).1.symm smaller.ne

end Texts

end Xaytune.Library
