import Xaytune.Library.Fallible

/-!
# Computations that report

A check runs through what it is given and collects what is wrong with it. It is exact for a
property if it never fails, and reports nothing exactly where the property holds; exact checks of
the parts make an exact check of the whole.
-/

namespace Xaytune.Library

variable {α β ε ρ : Type}

/-- The check never fails, and reports nothing exactly where the property holds. -/
def Reports (run : Except ε (List ρ)) (clean : Prop) : Prop :=
  ∃ found, run = .ok found ∧ (found = [] ↔ clean)

/-- The test never fails, and is true exactly where the property holds. -/
def Decides (run : Except ε Bool) (holds : Prop) : Prop :=
  ∃ result, run = .ok result ∧ (result = true ↔ holds)

theorem Reports.congr {run : Except ε (List ρ)} {clean clean' : Prop} (reports : Reports run clean)
    (same : clean ↔ clean') : Reports run clean' := by
  obtain ⟨found, ran, iff⟩ := reports
  exact ⟨found, ran, iff.trans same⟩

theorem reports_ok {found : List ρ} {clean : Prop} (same : found = [] ↔ clean) :
    Reports (.ok found : Except ε (List ρ)) clean :=
  ⟨found, rfl, same⟩

/-- A report that is made only where something fails. -/
theorem reports_unless {report : ρ} {broken : Prop} [Decidable broken] :
    Reports (.ok (if broken then [report] else []) : Except ε (List ρ)) (¬ broken) := by
  apply reports_ok
  by_cases isBroken : broken <;> simp [isBroken]

/-- A check run first: what follows knows of its report only whether it is empty. -/
theorem Reports.before {run : Except ε (List ρ)} {next : List ρ → Except ε (List ρ)}
    {clean clean' : Prop} (reports : Reports run clean)
    (after : ∀ found, (found = [] ↔ clean) → Reports (next found) clean') :
    Reports (run >>= next) clean' := by
  obtain ⟨found, rfl, iff⟩ := reports
  exact after found iff

theorem reports_flatten {run : α → Except ε (List ρ)} {clean : α → Prop} {items : List α}
    (each : ∀ item ∈ items, Reports (run item) (clean item)) :
    Reports (items.mapM run >>= fun found => pure found.flatten) (∀ item ∈ items, clean item) := by
  induction items with
  | nil => exact ⟨[], rfl, by simp⟩
  | cons item items ih =>
      obtain ⟨first, rest⟩ := List.forall_mem_cons.mp each
      obtain ⟨found, ran, iff⟩ := first
      obtain ⟨_, others, iff'⟩ := ih rest
      obtain ⟨founds, mapped, same⟩ := bind_eq_ok_iff.mp others
      refine ⟨found ++ founds.flatten, ?_, ?_⟩
      · rw [List.mapM_cons, ran, mapped]
        rfl
      · rw [List.append_eq_nil_iff, iff, List.forall_mem_cons, ← iff', Except.ok.inj same]

theorem decides_anyM {test : α → Except ε Bool} {holds : α → Prop} {items : List α}
    (each : ∀ item ∈ items, Decides (test item) (holds item)) :
    Decides (items.anyM test) (∃ item ∈ items, holds item) := by
  induction items with
  | nil => exact ⟨false, rfl, by simp⟩
  | cons item items ih =>
      obtain ⟨first, rest⟩ := List.forall_mem_cons.mp each
      obtain ⟨result, ran, iff⟩ := first
      obtain ⟨others, mapped, iff'⟩ := ih rest
      cases result with
      | true => exact ⟨true, by simp [List.anyM, ran, bind, Except.bind, pure, Except.pure], by
          simp [iff.mp rfl]⟩
      | false =>
          have not_first : ¬ holds item := fun here => Bool.noConfusion (iff.mpr here)
          refine ⟨others, by simp [List.anyM, ran, mapped, bind, Except.bind], ?_⟩
          rw [iff', List.exists_mem_cons_iff, or_iff_right not_first]

theorem decides_allM {test : α → Except ε Bool} {holds : α → Prop} {items : List α}
    (each : ∀ item ∈ items, Decides (test item) (holds item)) :
    Decides (items.allM test) (∀ item ∈ items, holds item) := by
  induction items with
  | nil => exact ⟨true, rfl, by simp⟩
  | cons item items ih =>
      obtain ⟨first, rest⟩ := List.forall_mem_cons.mp each
      obtain ⟨result, ran, iff⟩ := first
      obtain ⟨others, mapped, iff'⟩ := ih rest
      cases result with
      | false =>
          have not_first : ¬ holds item := fun here => Bool.noConfusion (iff.mpr here)
          exact ⟨false, by simp [List.allM, ran, bind, Except.bind, pure, Except.pure], by
            simp [not_first]⟩
      | true =>
          refine ⟨others, by simp [List.allM, ran, mapped, bind, Except.bind], ?_⟩
          rw [iff', List.forall_mem_cons, and_iff_right (iff.mp rfl)]

end Xaytune.Library
