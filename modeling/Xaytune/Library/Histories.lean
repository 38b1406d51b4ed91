import Mathlib.Data.List.Induction
import Xaytune.Library.System

/-!
# What the history of a run tells

A run is known by the labels it took. `Since happened undone` holds of a history in which
something happened that nothing after it has undone; it is read off one label at a time.
-/

namespace Xaytune.Library

variable {σ ι : Type}

/-- Something happened, and nothing has undone it since. -/
def Since (happened undone : ι → Prop) (history : List ι) : Prop :=
  ∃ earlier label later, history = earlier ++ label :: later ∧ happened label ∧
    ∀ other ∈ later, ¬ undone other

namespace Since

variable {happened undone : ι → Prop} {history : List ι} {label : ι}

@[simp] theorem not_nil : ¬ Since happened undone ([] : List ι) := by
  rintro ⟨earlier, label, later, same, -⟩
  simp at same

@[simp] theorem concat_iff :
    Since happened undone (history ++ [label]) ↔
      happened label ∨ (Since happened undone history ∧ ¬ undone label) := by
  constructor
  · rintro ⟨earlier, first, later, same, happens, kept⟩
    rcases List.eq_nil_or_concat later with rfl | ⟨before, last, rfl⟩
    · obtain ⟨-, rfl⟩ := List.append_inj' same rfl |>.imp_right (List.cons.inj · |>.1)
      exact .inl happens
    · rw [List.concat_eq_append, ← List.cons_append, ← List.append_assoc] at same
      obtain ⟨rfl, lastSame⟩ := List.append_inj' same rfl
      obtain rfl := (List.cons.inj lastSame).1
      rw [List.concat_eq_append, List.forall_mem_append] at kept
      exact .inr ⟨⟨earlier, first, before, rfl, happens, kept.1⟩, kept.2 _ (by simp)⟩
  · rintro (happens | ⟨⟨earlier, first, later, rfl, happens, kept⟩, permitted⟩)
    · exact ⟨history, label, [], rfl, happens, by simp⟩
    · refine ⟨earlier, first, later ++ [label], by simp, happens, ?_⟩
      rw [List.forall_mem_append]
      exact ⟨kept, by simpa using permitted⟩

theorem mono {happens undoes : ι → Prop} (since : Since happened undone history)
    (weaker : ∀ label, happened label → happens label)
    (stronger : ∀ label, undoes label → undone label) : Since happens undoes history := by
  obtain ⟨earlier, label, later, rfl, happened, kept⟩ := since
  exact ⟨earlier, label, later, rfl, weaker label happened,
    fun other member undoing => kept other member (stronger other undoing)⟩

/-- Of two things that undo each other only the later stands. -/
theorem not_both {happens undoes : ι → Prop} (first : Since happened undone history)
    (second : Since happens undoes history) (undo : ∀ label, happened label → undoes label)
    (undo' : ∀ label, happens label → undone label)
    (apart : ∀ label, happened label → ¬ happens label) : False := by
  induction history using List.reverseRecOn with
  | nil => exact not_nil first
  | append_singleton before label ih =>
      rcases concat_iff.mp first with happening | ⟨first, kept⟩
      · rcases concat_iff.mp second with again | ⟨-, kept⟩
        · exact apart label happening again
        · exact kept (undo label happening)
      · rcases concat_iff.mp second with happening | ⟨second, -⟩
        · exact kept (undo' label happening)
        · exact ih first second

end Since

variable {step : ι → σ → σ} {allowed : σ → ι → Prop} {start : σ} {history : List ι}

theorem follow_append (first second : List ι) (s : σ) :
    follow step (first ++ second) s = follow step second (follow step first s) := by
  induction first generalizing s with
  | nil => rfl
  | cons label rest ih => exact ih (step label s)

theorem permits_append {first second : List ι} {s : σ} :
    Permits step allowed (first ++ second) s ↔
      Permits step allowed first s ∧ Permits step allowed second (follow step first s) := by
  induction first generalizing s with
  | nil => simp [Permits, follow]
  | cons label rest ih => simp [Permits, follow, ih, and_assoc]

/-- What a run puts out, one label after the other. -/
def outputs {ο : Type} (step : ι → σ → σ) (output : ι → σ → List ο) : List ι → σ → List ο
  | [], _ => []
  | label :: rest, s => output label s ++ outputs step output rest (step label s)

theorem outputs_append {ο : Type} {output : ι → σ → List ο} (first second : List ι) (s : σ) :
    outputs step output (first ++ second) s =
      outputs step output first s ++ outputs step output second (follow step first s) := by
  induction first generalizing s with
  | nil => rfl
  | cons label rest ih =>
      rw [List.cons_append, outputs, outputs, ih, List.append_assoc]
      rfl

theorem outputs_singleton {ο : Type} {output : ι → σ → List ο} (label : ι) (s : σ) :
    outputs step output [label] s = output label s :=
  List.append_nil _

/-- What each label keeps of the outputs so far and the state holds at the end of every run. -/
theorem follow_outputs {ο : Type} {output : ι → σ → List ο} {I : List ο → σ → Prop}
    (history : List ι) (init : I [] start)
    (kept : ∀ before s label, I before s → I (before ++ output label s) (step label s)) :
    I (outputs step output history start) (follow step history start) := by
  induction history using List.reverseRecOn with
  | nil => exact init
  | append_singleton before label ih =>
      rw [outputs_append, outputs_singleton, follow_append]
      exact kept _ _ _ ih

/-- What every permitted label keeps, given the history before it, holds along every run. -/
theorem Permits.along {I : List ι → σ → Prop} (permitted : Permits step allowed history start)
    (init : I [] start)
    (kept : ∀ history s label, I history s → allowed s label →
      I (history ++ [label]) (step label s)) : I history (follow step history start) := by
  induction history using List.reverseRecOn with
  | nil => exact init
  | append_singleton before label ih =>
      obtain ⟨permitted, last⟩ := permits_append.mp permitted
      rw [follow_append]
      exact kept _ _ _ (ih permitted) last.1

end Xaytune.Library
