import Mathlib.Logic.Relation

/-!
# Runs of a labelled system

A system takes one label at a time; a run is any sequence of labels each allowed in
the state it is taken from. Invariants are proved once for each label and lifted to
whole runs here.
-/

namespace Xaytune.Library

variable {σ ι : Type}

/-- The states reached from `start` by labels that are `allowed` where they are taken. -/
inductive Reaches (step : ι → σ → σ) (allowed : σ → ι → Prop) (start : σ) : σ → Prop
  | start : Reaches step allowed start start
  | next {s : σ} {label : ι} (reached : Reaches step allowed start s)
      (permitted : allowed s label) :
      Reaches step allowed start (step label s)

namespace Reaches

variable {step : ι → σ → σ} {allowed : σ → ι → Prop} {start s : σ}

/-- What holds at the start and is kept by every allowed label holds along every run. -/
theorem invariant {I : σ → Prop} (reached : Reaches step allowed start s) (init : I start)
    (kept : ∀ s label, I s → allowed s label → I (step label s)) : I s := by
  induction reached with
  | start => exact init
  | next _ permitted ih => exact kept _ _ ih permitted

/-- A run under a stricter permission is a run. -/
theorem mono {weaker : σ → ι → Prop} (reached : Reaches step allowed start s)
    (weaken : ∀ s label, allowed s label → weaker s label) : Reaches step weaker start s := by
  induction reached with
  | start => exact .start
  | next _ permitted ih => exact ih.next (weaken _ _ permitted)

/-- A run continues from where another one ended. -/
theorem trans {final : σ} (first : Reaches step allowed start s)
    (second : Reaches step allowed s final) : Reaches step allowed start final := by
  induction second with
  | start => exact first
  | next _ permitted ih => exact ih.next permitted

end Reaches

/-- The state a list of labels leads to. -/
def follow (step : ι → σ → σ) : List ι → σ → σ
  | [], s => s
  | label :: rest, s => follow step rest (step label s)

/-- Each label of the list is allowed where it is taken. -/
def Permits (step : ι → σ → σ) (allowed : σ → ι → Prop) : List ι → σ → Prop
  | [], _ => True
  | label :: rest, s => allowed s label ∧ Permits step allowed rest (step label s)

instance Permits.decidable (step : ι → σ → σ) (allowed : σ → ι → Prop)
    [∀ s label, Decidable (allowed s label)] :
    (labels : List ι) → (s : σ) → Decidable (Permits step allowed labels s)
  | [], _ => .isTrue trivial
  | label :: rest, s =>
      have := Permits.decidable step allowed rest (step label s)
      inferInstanceAs (Decidable (allowed s label ∧ Permits step allowed rest (step label s)))

theorem Reaches.follow {step : ι → σ → σ} {allowed : σ → ι → Prop} {start s : σ}
    (reached : Reaches step allowed start s) (labels : List ι)
    (permitted : Permits step allowed labels s) :
    Reaches step allowed start (Library.follow step labels s) := by
  induction labels generalizing s with
  | nil => exact reached
  | cons label rest ih => exact ih (reached.next permitted.1) permitted.2

end Xaytune.Library
