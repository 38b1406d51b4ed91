import Xaytune.Library.Delimited

/-!
# Texts cut into segments

A text is its segments joined by the separator. One text goes on behind another and a separator
exactly if its segments go on behind the other's.
-/

namespace Xaytune.Library

variable {γ : Type} {separator : γ}

theorem joinTail_eq (words : List (List γ)) (some_words : words ≠ []) :
    joinTail separator words = separator :: join separator words := by
  cases words with
  | nil => exact absurd rfl some_words
  | cons word words => rfl

theorem joinTail_append (words more : List (List γ)) :
    joinTail separator (words ++ more) = joinTail separator words ++ joinTail separator more := by
  induction words with
  | nil => rfl
  | cons word words ih => simp only [List.cons_append, joinTail, ih, List.append_assoc]

theorem join_append {words more : List (List γ)} (some_words : words ≠ []) (some_more : more ≠ []) :
    join separator (words ++ more) = join separator words ++ separator :: join separator more := by
  cases words with
  | nil => exact absurd rfl some_words
  | cons word words =>
      rw [List.cons_append, join, join, joinTail_append, joinTail_eq more some_more,
        List.append_assoc]

variable [DecidableEq γ]

/-- The segments of a text: at least one, the last one behind the last separator. -/
def split (separator : γ) (text : List γ) : List (List γ) :=
  (cut separator text).1 ++ [(cut separator text).2]

theorem split_ne_nil (text : List γ) : split separator text ≠ [] := by
  rw [split]
  simp

theorem cut_behind_plain (text : List γ) :
    ∀ letter ∈ (cut separator text).2, letter ≠ separator := by
  induction text with
  | nil => simp [cut]
  | cons letter rest ih =>
      rw [cut]
      split
      · exact ih
      · next differs =>
          split
          · next behind same =>
              rw [same] at ih
              intro other member
              rcases List.mem_cons.mp member with rfl | later
              · exact differs
              · exact ih other later
          · next word words behind same =>
              rw [same] at ih
              exact ih

/-- The segments of two texts around a separator. -/
theorem split_append (first second : List γ) :
    split separator (first ++ separator :: second) =
      split separator first ++ split separator second := by
  have plain : ∀ letter ∈ (cut separator first).2, letter ≠ separator := cut_behind_plain first
  have behind := cut_plain plain second
  simp only [split, cut_append separator first (separator :: second), behind, List.append_assoc,
    List.cons_append, List.nil_append]

/-- A text is its segments joined. -/
theorem join_split (text : List γ) : join separator (split separator text) = text := by
  induction text with
  | nil => rfl
  | cons letter rest ih =>
      rw [split, cut]
      split
      · next isSeparator =>
          have tail : joinTail separator (Library.split separator rest) = separator :: rest := by
            rw [joinTail_eq _ (split_ne_nil rest), ih]
          rw [isSeparator]
          exact tail
      · split
        · next behind same =>
            rw [Library.split, same] at ih
            exact congrArg (letter :: ·) ih
        · next word words behind same =>
            rw [Library.split, same] at ih
            exact congrArg (letter :: ·) ih

/-- The segments of one text begin the other's exactly if it is the same text or goes on behind a
separator. -/
theorem split_isPrefix_iff (text longer : List γ) :
    (split separator text).IsPrefix (split separator longer) ↔
      text = longer ∨ (text ++ [separator]).IsPrefix longer := by
  constructor
  · rintro ⟨more, same⟩
    have joined := congrArg (join separator) same
    rw [join_split] at joined
    cases more with
    | nil =>
        rw [List.append_nil, join_split] at joined
        exact .inl joined
    | cons segment more =>
        rw [join_append (split_ne_nil text) (by simp), join_split] at joined
        exact .inr ⟨join separator (segment :: more), by rw [← joined]; simp⟩
  · rintro (rfl | ⟨rest, rfl⟩)
    · exact List.prefix_rfl
    · rw [List.append_assoc, List.singleton_append, split_append]
      exact List.prefix_append _ _

end Xaytune.Library
