import Mathlib.Data.List.Basic

/-!
# Words

A text's words are its longest runs of letters that are no spaces.  Joining some words with a
space gives a text of just these words, so a text can be cut to a number of words.
-/

namespace Xaytune.Library

variable {α : Type} (isSpace : α → Bool)

def words : List α → List (List α)
  | [] => []
  | letter :: rest =>
      if isSpace letter then words rest
      else match rest with
        | [] => [[letter]]
        | next :: _ =>
            if isSpace next then [letter] :: words rest
            else match words rest with
              | [] => [[letter]]
              | word :: others => (letter :: word) :: others

/-- A nonempty run of letters that are no spaces. -/
def Word (word : List α) : Prop := word ≠ [] ∧ ∀ letter ∈ word, isSpace letter = false

variable {isSpace}

theorem words_space {letter : α} {rest : List α} (space : isSpace letter = true) :
    words isSpace (letter :: rest) = words isSpace rest := by
  cases rest with
  | nil => simp [words, space]
  | cons next rest => rw [words, if_pos space]

theorem words_append_space {word rest : List α} {space : α} (isWord : Word isSpace word)
    (isSep : isSpace space = true) :
    words isSpace (word ++ space :: rest) = word :: words isSpace rest := by
  obtain ⟨nonempty, letters⟩ := isWord
  induction word with
  | nil => exact absurd rfl nonempty
  | cons letter word ih =>
      have here : isSpace letter = false := letters letter List.mem_cons_self
      cases word with
      | nil =>
          simp only [List.cons_append, List.nil_append]
          rw [words, if_neg (by simp [here])]
          simp only [isSep, if_true]
          rw [words_space isSep]
      | cons next word =>
          have after : isSpace next = false := letters next (by simp)
          have rest_words := ih (List.cons_ne_nil _ _) fun other member =>
            letters other (List.mem_cons_of_mem _ member)
          simp only [List.cons_append] at rest_words ⊢
          rw [words, if_neg (by simp [here])]
          simp only [after, Bool.false_eq_true, if_false, rest_words]

theorem words_of_word {word : List α} (isWord : Word isSpace word) :
    words isSpace word = [word] := by
  obtain ⟨nonempty, letters⟩ := isWord
  induction word with
  | nil => exact absurd rfl nonempty
  | cons letter word ih =>
      have here : isSpace letter = false := letters letter List.mem_cons_self
      cases word with
      | nil => rw [words, if_neg (by simp [here])]
      | cons next word =>
          have after : isSpace next = false := letters next (by simp)
          have rest_words := ih (List.cons_ne_nil _ _) fun other member =>
            letters other (List.mem_cons_of_mem _ member)
          rw [words, if_neg (by simp [here])]
          simp only [after, Bool.false_eq_true, if_false, rest_words]

theorem word_of_mem_words {text word : List α} (member : word ∈ words isSpace text) :
    Word isSpace word := by
  induction text generalizing word with
  | nil => cases member
  | cons letter rest ih =>
      by_cases space : isSpace letter = true
      · rw [words_space space] at member
        exact ih member
      · have here : isSpace letter = false := Bool.not_eq_true _ ▸ space
        have single : Word isSpace [letter] := by
          constructor
          · exact List.cons_ne_nil _ _
          · intro other only
            rw [List.mem_singleton.mp only]
            exact here
        cases rest with
        | nil =>
            rw [words, if_neg space] at member
            rw [List.mem_singleton.mp member]
            exact single
        | cons next rest =>
            rw [words, if_neg space] at member
            by_cases after : isSpace next = true
            · simp only [after, if_true] at member
              rcases List.mem_cons.mp member with rfl | later
              · exact single
              · exact ih later
            · simp only [after, Bool.false_eq_true, if_false] at member
              cases found : words isSpace (next :: rest) with
              | nil =>
                  simp only [found] at member
                  rw [List.mem_singleton.mp member]
                  exact single
              | cons first others =>
                  simp only [found] at member
                  rw [found] at ih
                  rcases List.mem_cons.mp member with rfl | later
                  · obtain ⟨_, letters⟩ := ih List.mem_cons_self
                    constructor
                    · exact List.cons_ne_nil _ _
                    · intro other within
                      rcases List.mem_cons.mp within with rfl | inside
                      · exact here
                      · exact letters other inside
                  · exact ih (List.mem_cons_of_mem _ later)

/-- Words joined by a space are a text of just these words. -/
theorem words_intercalate {space : α} (isSep : isSpace space = true) {found : List (List α)}
    (all : ∀ word ∈ found, Word isSpace word) :
    words isSpace ([space].intercalate found) = found := by
  induction found with
  | nil => rfl
  | cons word found ih =>
      have isWord : Word isSpace word := all word List.mem_cons_self
      cases found with
      | nil => simpa [List.intercalate] using words_of_word isWord
      | cons next found =>
          have joined : [space].intercalate (word :: next :: found) =
              word ++ space :: [space].intercalate (next :: found) := by
            simp [List.intercalate]
          rw [joined, words_append_space isWord isSep,
            ih fun other member => all other (List.mem_cons_of_mem _ member)]

end Xaytune.Library
