import Mathlib.Data.List.Basic
import Mathlib.Data.List.Forall2

/-!
# Words read up to a delimiter

A word that holds no delimiter is found again in front of anything that begins with
one; a word behind its own length is found again in front of anything. A list of words
joined by a separator and closed by another is found again when each word is, and
none begins with the closing letter. A text that grows is cut at its separators piece by piece.
-/

namespace Xaytune.Library

variable {γ α β : Type}

/-- The word is empty or begins with a delimiter. -/
def Delimited (stop : γ → Prop) (word : List γ) : Prop := ∀ letter ∈ word.head?, stop letter

theorem Delimited.nil {stop : γ → Prop} : Delimited stop [] := by
  intro letter first
  cases first

theorem Delimited.cons {stop : γ → Prop} {letter : γ} (stops : stop letter) (rest : List γ) :
    Delimited stop (letter :: rest) := by
  intro first isFirst
  cases isFirst
  exact stops

/-- Words without delimiters are told apart from what follows them. -/
theorem append_inj_of_delimited {stop : γ → Prop} {left right rest rest' : List γ}
    (plain : ∀ letter ∈ left, ¬ stop letter) (plain' : ∀ letter ∈ right, ¬ stop letter)
    (closed : Delimited stop rest) (closed' : Delimited stop rest')
    (same : left ++ rest = right ++ rest') : left = right ∧ rest = rest' := by
  induction left generalizing right with
  | nil =>
      cases right with
      | nil => exact ⟨rfl, same⟩
      | cons letter right =>
          have first : letter ∈ rest.head? := by
            rw [show rest = letter :: (right ++ rest') from same]
            rfl
          exact absurd (closed letter first) (plain' letter List.mem_cons_self)
  | cons letter left ih =>
      cases right with
      | nil =>
          have first : letter ∈ rest'.head? := by
            rw [show rest' = letter :: (left ++ rest) from same.symm]
            rfl
          exact absurd (closed' letter first) (plain letter List.mem_cons_self)
      | cons letter' right =>
          obtain ⟨rfl, tails⟩ := List.cons.inj same
          obtain ⟨rfl, sameRest⟩ := ih
            (fun other member => plain other (List.mem_cons_of_mem _ member))
            (fun other member => plain' other (List.mem_cons_of_mem _ member)) tails
          exact ⟨rfl, sameRest⟩

/-- The words behind the first of a joined list. -/
def joinTail (separator : γ) : List (List γ) → List γ
  | [] => []
  | word :: words => separator :: (word ++ joinTail separator words)

/-- The words of a list with a separator between them. -/
def join (separator : γ) : List (List γ) → List γ
  | [] => []
  | word :: words => word ++ joinTail separator words

section Join

variable {stop : γ → Prop} {separator close : γ} {left : α → List γ} {right : β → List γ}
  {related : α → β → Prop} {xs : List α} {ys : List β} {rest rest' : List γ}

theorem Delimited.joinTail (stops : stop separator) (closes : stop close) (words : List (List γ))
    (rest : List γ) : Delimited stop (joinTail separator words ++ close :: rest) := by
  cases words with
  | nil => exact .cons closes rest
  | cons word words => exact .cons stops _

/-- Elements read one by one are found again behind separators. -/
theorem joinTail_inj (stops : stop separator) (closes : stop close) (apart : separator ≠ close)
    (each : ∀ x ∈ xs, ∀ y ∈ ys, ∀ rest rest', Delimited stop rest → Delimited stop rest' →
      left x ++ rest = right y ++ rest' → related x y ∧ rest = rest')
    (same : joinTail separator (xs.map left) ++ close :: rest =
      joinTail separator (ys.map right) ++ close :: rest') :
    List.Forall₂ related xs ys ∧ rest = rest' := by
  induction xs generalizing ys with
  | nil =>
      cases ys with
      | nil => exact ⟨.nil, (List.cons.inj same).2⟩
      | cons y ys => exact absurd (List.cons.inj same).1 apart.symm
  | cons x xs ih =>
      cases ys with
      | nil => exact absurd (List.cons.inj same).1 apart
      | cons y ys =>
          simp only [List.map_cons, Library.joinTail, List.cons_append, List.append_assoc] at same
          have inner := (List.cons.inj same).2
          obtain ⟨first, tails⟩ := each x List.mem_cons_self y List.mem_cons_self _ _
            (.joinTail stops closes _ _) (.joinTail stops closes _ _) inner
          obtain ⟨others, sameRest⟩ := ih (fun x' member y' member' =>
            each x' (List.mem_cons_of_mem _ member) y' (List.mem_cons_of_mem _ member')) tails
          exact ⟨.cons first others, sameRest⟩

/-- A joined and closed list is found again when its elements are and none begins with the close. -/
theorem join_inj (stops : stop separator) (closes : stop close) (apart : separator ≠ close)
    (begins : ∀ x ∈ xs, ∃ letter word, left x = letter :: word ∧ letter ≠ close)
    (begins' : ∀ y ∈ ys, ∃ letter word, right y = letter :: word ∧ letter ≠ close)
    (each : ∀ x ∈ xs, ∀ y ∈ ys, ∀ rest rest', Delimited stop rest → Delimited stop rest' →
      left x ++ rest = right y ++ rest' → related x y ∧ rest = rest')
    (same : join separator (xs.map left) ++ close :: rest =
      join separator (ys.map right) ++ close :: rest') :
    List.Forall₂ related xs ys ∧ rest = rest' := by
  cases xs with
  | nil =>
      cases ys with
      | nil => exact ⟨.nil, (List.cons.inj same).2⟩
      | cons y ys =>
          obtain ⟨letter, word, spelled, other⟩ := begins' y List.mem_cons_self
          simp only [List.map_cons, join, spelled, List.cons_append] at same
          exact absurd (List.cons.inj same).1.symm other
  | cons x xs =>
      cases ys with
      | nil =>
          obtain ⟨letter, word, spelled, other⟩ := begins x List.mem_cons_self
          simp only [List.map_cons, join, spelled, List.cons_append] at same
          exact absurd (List.cons.inj same).1 other
      | cons y ys =>
          simp only [List.map_cons, join, List.append_assoc] at same
          obtain ⟨first, tails⟩ := each x List.mem_cons_self y List.mem_cons_self _ _
            (.joinTail stops closes _ _) (.joinTail stops closes _ _) same
          obtain ⟨others, sameRest⟩ := joinTail_inj stops closes apart (fun x' member y' member' =>
            each x' (List.mem_cons_of_mem _ member) y' (List.mem_cons_of_mem _ member')) tails
          exact ⟨.cons first others, sameRest⟩

end Join

section Cut

variable [DecidableEq γ]

/-- The words a separator closes, and what stands behind the last separator. -/
def cut (separator : γ) : List γ → List (List γ) × List γ
  | [] => ([], [])
  | letter :: rest =>
      if letter = separator then ([] :: (cut separator rest).1, (cut separator rest).2)
      else
        match cut separator rest with
        | ([], behind) => ([], letter :: behind)
        | (word :: words, behind) => ((letter :: word) :: words, behind)

/-- What stands behind the last separator is cut again with what follows it. -/
theorem cut_append (separator : γ) (first second : List γ) :
    cut separator (first ++ second) =
      ((cut separator first).1 ++ (cut separator ((cut separator first).2 ++ second)).1,
        (cut separator ((cut separator first).2 ++ second)).2) := by
  induction first with
  | nil => rfl
  | cons letter rest ih =>
      by_cases closes : letter = separator
      · simp [cut, closes, ih]
      · rw [List.cons_append, cut, if_neg closes, ih, cut, if_neg closes]
        cases words : (cut separator rest).1 with
        | nil =>
            rw [show cut separator rest = ([], (cut separator rest).2) from Prod.ext words rfl]
            simp only [List.nil_append, List.cons_append]
            rw [cut, if_neg closes]
        | cons word words' =>
            rw [show cut separator rest = (word :: words', (cut separator rest).2) from
              Prod.ext words rfl]
            simp

/-- A word without separators is cut off as it is. -/
theorem cut_plain {separator : γ} {word : List γ} (plain : ∀ letter ∈ word, letter ≠ separator)
    (rest : List γ) : cut separator (word ++ separator :: rest) =
      (word :: (cut separator rest).1, (cut separator rest).2) := by
  induction word with
  | nil => simp [cut]
  | cons letter word ih =>
      have others := ih fun letter member => plain letter (List.mem_cons_of_mem _ member)
      rw [List.cons_append, cut, if_neg (plain letter List.mem_cons_self), others]

theorem cut_behind (separator : γ) (text : List γ) :
    cut separator (cut separator text).2 = ([], (cut separator text).2) := by
  have again := cut_append separator text []
  simp only [List.append_nil] at again
  have words := congrArg Prod.fst again
  have behind := congrArg Prod.snd again
  exact Prod.ext (List.self_eq_append_right.mp words) behind.symm

end Cut

end Xaytune.Library
