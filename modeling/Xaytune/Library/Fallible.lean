import Mathlib.Data.List.Forall2
import Mathlib.Data.List.Perm.Basic
import Mathlib.Data.List.Sort

/-!
# Computations that may fail

A list of computations succeeds exactly when each of them does; what holds between the members of
two lists, member by member, is carried through filters, maps and changes of order.
-/

namespace Xaytune.Library

variable {α β ε : Type}

/-! ## Runs -/

theorem bind_eq_ok_iff {ran : Except ε α} {next : α → Except ε β} {made : β} :
    (ran >>= next) = .ok made ↔ ∃ value, ran = .ok value ∧ next value = .ok made := by
  cases ran with
  | error refused => simp [bind, Except.bind]
  | ok value => simp [bind, Except.bind]

theorem mapM_eq_ok_iff {run : α → Except ε β} {items : List α} {made : List β} :
    items.mapM run = .ok made ↔
      List.Forall₂ (fun item value => run item = .ok value) items made := by
  induction items generalizing made with
  | nil =>
      rw [List.mapM_nil, List.forall₂_nil_left_iff]
      exact ⟨fun same => (Except.ok.inj same).symm, fun same => congrArg Except.ok same.symm⟩
  | cons item items ih =>
      rw [List.mapM_cons, List.forall₂_cons_left_iff, bind_eq_ok_iff]
      apply exists_congr
      intro value
      constructor
      · rintro ⟨ran, others⟩
        obtain ⟨rest, each, same⟩ := bind_eq_ok_iff.mp others
        exact ⟨rest, ran, ih.mp each, (Except.ok.inj same).symm⟩
      · rintro ⟨rest, ran, each, rfl⟩
        exact ⟨ran, bind_eq_ok_iff.mpr ⟨rest, ih.mpr each, rfl⟩⟩

/-- Each computation succeeds with a value of its own. -/
theorem exists_mapM {run : α → Except ε β} {related : α → β → Prop} {items : List α}
    (each : ∀ item ∈ items, ∃ value, run item = .ok value ∧ related item value) :
    ∃ made, items.mapM run = .ok made ∧ List.Forall₂ related items made := by
  induction items with
  | nil => exact ⟨[], rfl, .nil⟩
  | cons item items ih =>
      obtain ⟨first, rest⟩ := List.forall_mem_cons.mp each
      obtain ⟨value, ran, here⟩ := first
      obtain ⟨made, others, there⟩ := ih rest
      refine ⟨value :: made, ?_, .cons here there⟩
      rw [List.mapM_cons, ran, others]
      rfl

/-- A run that some computation fails fails as one of them does. -/
theorem exists_mapM_error {run : α → Except ε β} {kind : ε → Prop} {items : List α}
    (kinds : ∀ item ∈ items, ∀ refused, run item = .error refused → kind refused)
    (failing : ∃ item ∈ items, ∃ refused, run item = .error refused) :
    ∃ refused, items.mapM run = .error refused ∧ kind refused := by
  induction items with
  | nil =>
      obtain ⟨item, isOne, _⟩ := failing
      cases isOne
  | cons item items ih =>
      obtain ⟨first, rest⟩ := List.forall_mem_cons.mp kinds
      rw [List.mapM_cons]
      cases ran : run item with
      | error refused => exact ⟨refused, rfl, first refused ran⟩
      | ok value =>
          obtain ⟨other, isOne, refused, fails⟩ := failing
          have later : other ∈ items := by
            rcases List.mem_cons.mp isOne with rfl | later
            · rw [ran] at fails
              cases fails
            · exact later
          obtain ⟨refused, others, isKind⟩ := ih rest ⟨other, later, refused, fails⟩
          refine ⟨refused, ?_, isKind⟩
          rw [others]
          rfl

/-! ## Lists related member by member -/

theorem exists_of_forall₂ {related : α → β → Prop} {items : List α} {others : List β}
    (all : List.Forall₂ related items others) {item : α} (member : item ∈ items) :
    ∃ other ∈ others, related item other := by
  induction all with
  | nil => cases member
  | cons first _ ih =>
      rcases List.mem_cons.mp member with rfl | later
      · exact ⟨_, List.mem_cons_self, first⟩
      · obtain ⟨other, isOne, holds⟩ := ih later
        exact ⟨other, List.mem_cons_of_mem _ isOne, holds⟩

theorem forall₂_of_mem_iff {related related' : α → β → Prop} {items : List α}
    {others : List β} (same : ∀ item ∈ items, ∀ other, related item other ↔ related' item other) :
    List.Forall₂ related items others ↔ List.Forall₂ related' items others := by
  induction items generalizing others with
  | nil => simp
  | cons item items ih =>
      obtain ⟨first, rest⟩ := List.forall_mem_cons.mp same
      simp only [List.forall₂_cons_left_iff, first, ih rest]

theorem flatMap_perm {listed : α → List β} {items others : List α}
    (each : List.Forall₂ (fun item other => (listed item).Perm (listed other)) items others) :
    (items.flatMap listed).Perm (others.flatMap listed) := by
  induction each with
  | nil => exact .nil
  | cons first _ ih => exact first.append ih

theorem map_eq_of_forall₂ {γ : Type} {related : α → β → Prop} {read : α → γ} {read' : β → γ}
    {items : List α} {others : List β} (each : List.Forall₂ related items others)
    (same : ∀ item ∈ items, ∀ other ∈ others, related item other → read item = read' other) :
    items.map read = others.map read' := by
  induction each with
  | nil => rfl
  | cons first _ ih =>
      rw [List.map_cons, List.map_cons, same _ List.mem_cons_self _ List.mem_cons_self first,
        ih fun item member other member' =>
          same item (List.mem_cons_of_mem _ member) other (List.mem_cons_of_mem _ member')]

theorem findSome?_eq_of_forall₂ {γ : Type} {related : α → β → Prop} {read : α → Option γ}
    {read' : β → Option γ} {items : List α} {others : List β}
    (each : List.Forall₂ related items others)
    (same : ∀ item other, related item other → read item = read' other) :
    items.findSome? read = others.findSome? read' := by
  induction each with
  | nil => rfl
  | cons first _ ih => rw [List.findSome?_cons, List.findSome?_cons, same _ _ first, ih]

section Sorting

variable {related : α → β → Prop} {before : α → α → Prop} [DecidableRel before]
  {before' : β → β → Prop} [DecidableRel before'] {items : List α} {others : List β}

theorem forall₂_orderedInsert
    (agree : ∀ item other item' other', related item other → related item' other' →
      (before item item' ↔ before' other other'))
    {item : α} {other : β} (here : related item other)
    (each : List.Forall₂ related items others) :
    List.Forall₂ related (items.orderedInsert before item)
      (others.orderedInsert before' other) := by
  induction each with
  | nil => exact .cons here .nil
  | @cons item' other' _ _ first rest ih =>
      by_cases earlier : before item item'
      · rw [List.orderedInsert_cons_of_le before _ earlier,
          List.orderedInsert_cons_of_le before' _ ((agree _ _ _ _ here first).mp earlier)]
        exact .cons here (.cons first rest)
      · have later : ¬ before' other other' := fun earlier' =>
          earlier ((agree _ _ _ _ here first).mpr earlier')
        rw [List.orderedInsert_of_not_le before _ earlier,
          List.orderedInsert_of_not_le before' _ later]
        exact .cons first ih

/-- Sorting keeps partners side by side where both sides are ordered alike. -/
theorem forall₂_insertionSort
    (agree : ∀ item other item' other', related item other → related item' other' →
      (before item item' ↔ before' other other'))
    (each : List.Forall₂ related items others) :
    List.Forall₂ related (items.insertionSort before) (others.insertionSort before') := by
  induction each with
  | nil => exact .nil
  | cons first _ ih => exact forall₂_orderedInsert agree first ih

end Sorting

/-- Lists with the same images, up to order, have partners with the same image. -/
theorem exists_partners {image : α → β} {items others : List α}
    (same : (items.map image).Perm (others.map image)) :
    ∃ arranged, arranged.Perm others ∧
      List.Forall₂ (fun item other => image item = image other) items arranged := by
  have onto : List.Forall₂ (fun value other => value = image other) (others.map image) others := by
    rw [List.forall₂_map_left_iff]
    exact List.forall₂_same.mpr fun _ _ => rfl
  obtain ⟨arranged, each, order⟩ := List.perm_comp_forall₂ same onto
  exact ⟨arranged, order, List.forall₂_map_left_iff.mp each⟩

end Xaytune.Library
