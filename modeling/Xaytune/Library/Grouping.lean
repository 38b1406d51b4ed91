import Mathlib.Data.List.Chain

/-!
# Grouping in order

Items of a size are put into groups of bounded size in the order they come: an item joins the
group at hand if it fits and starts a new one if it does not. No two neighbouring groups would
have fitted into one.
-/

namespace Xaytune.Library

variable {α : Type} (size : α → Nat) (room : Nat)

/-- The size of a group. -/
def total : List α → Nat
  | [] => 0
  | item :: items => size item + total items

/-- The groups of some items, the first of them begun. -/
def nextFit : List α → (begun : List α) → List (List α)
  | [], begun => if begun.isEmpty then [] else [begun]
  | item :: items, begun =>
      if room < total size begun + size item then
        (if begun.isEmpty then [] else [begun]) ++ nextFit items [item]
      else nextFit items (begun ++ [item])

variable {size room}

theorem total_append (first second : List α) :
    total size (first ++ second) = total size first + total size second := by
  induction first with
  | nil => exact (Nat.zero_add _).symm
  | cons item items ih => rw [List.cons_append, total, total, ih, Nat.add_assoc]

theorem total_singleton (item : α) : total size [item] = size item := rfl

/-- What grouping establishes. -/
structure Grouped (size : α → Nat) (room : Nat) (items : List α) (groups : List (List α)) :
    Prop where
  flatten : groups.flatten = items
  nonempty : ∀ group ∈ groups, group ≠ []
  fits : ∀ group ∈ groups, total size group ≤ room
  tight : groups.IsChain fun first second => room < total size first + total size second

/-- The groups continue the one begun. -/
theorem nextFit_begins (items : List α) {begun : List α} (some_of : begun ≠ []) :
    ∃ more others, nextFit size room items begun = (begun ++ more) :: others := by
  induction items generalizing begun with
  | nil =>
      refine ⟨[], [], ?_⟩
      rw [nextFit, if_neg (by simpa using some_of), List.append_nil]
  | cons item items ih =>
      rw [nextFit]
      split
      · refine ⟨[], nextFit size room items [item], ?_⟩
        rw [if_neg (by simpa using some_of), List.append_nil]
        rfl
      · obtain ⟨more, others, isGroups⟩ := ih (show begun ++ [item] ≠ [] by simp)
        exact ⟨item :: more, others, by rw [isGroups, List.append_assoc, List.singleton_append]⟩

theorem nextFit_grouped (items : List α) {begun : List α}
    (each : ∀ item ∈ items, size item ≤ room) (small : total size begun ≤ room) :
    Grouped size room (begun ++ items) (nextFit size room items begun) := by
  induction items generalizing begun with
  | nil =>
      rw [nextFit, List.append_nil]
      cases begun with
      | nil => exact ⟨rfl, by simp, by simp, .nil⟩
      | cons item more => exact ⟨by simp, by simp, by simpa using small, .singleton _⟩
  | cons item items ih =>
      have rest : ∀ other ∈ items, size other ≤ room :=
        fun other member => each other (List.mem_cons_of_mem _ member)
      rw [nextFit]
      split
      · next full =>
          have grouped : Grouped size room ([item] ++ items) (nextFit size room items [item]) :=
            ih rest (each item List.mem_cons_self)
          cases begun with
          | nil => exact grouped
          | cons first more =>
              obtain ⟨flatten, nonempty, fits, tight⟩ := grouped
              refine ⟨?_, ?_, ?_, ?_⟩
              · rw [if_neg (by simp), List.singleton_append, List.flatten_cons, flatten]
                rfl
              · simpa using nonempty
              · rw [if_neg (by simp), List.singleton_append]
                intro group member
                rcases List.mem_cons.mp member with rfl | later
                · exact small
                · exact fits group later
              · -- the next group begins with the item that did not fit
                obtain ⟨behind, others, isGroups⟩ :
                    ∃ behind others,
                      nextFit size room items [item] = ([item] ++ behind) :: others :=
                  nextFit_begins items (List.cons_ne_nil item [])
                rw [if_neg (by simp), List.singleton_append]
                rw [isGroups] at tight ⊢
                refine .cons_cons ?_ tight
                rw [total_append, total_singleton]
                omega
      · next fitting =>
          have smaller : total size (begun ++ [item]) ≤ room := by
            rw [total_append, total_singleton]
            omega
          have grouped := ih rest smaller
          rwa [List.append_assoc, List.singleton_append] at grouped

end Xaytune.Library
