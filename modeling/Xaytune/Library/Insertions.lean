import Mathlib.Data.List.Nodup
import Mathlib.Data.List.Perm.Basic

/-!
# Mappings read from their insertions

A mapping filled key by key holds, under each key, what was inserted last. Groups of insertions
under keys of their own are read the same in any order of the groups.
-/

namespace Xaytune.Library

variable {κ ν : Type} [DecidableEq κ]

/-- What was inserted last under a key. -/
def lastOf (key : κ) (entries : List (κ × ν)) : Option ν := entries.reverse.lookup key

variable {key : κ} {value : ν} {entries others : List (κ × ν)}

theorem lastOf_append : lastOf key (entries ++ others) =
    (lastOf key others).or (lastOf key entries) := by
  unfold lastOf
  rw [List.reverse_append, List.lookup_append]

theorem lookup_eq_none_iff : entries.lookup key = none ↔ key ∉ entries.map Prod.fst := by
  induction entries with
  | nil => simp
  | cons entry entries ih =>
      obtain ⟨here, value⟩ := entry
      by_cases same : key = here
      · simp [same]
      · have distinct : (key == here) = false := by simpa using same
        rw [List.lookup_cons, distinct, List.map_cons, List.mem_cons, not_or]
        exact ih.trans ⟨fun rest => ⟨same, rest⟩, And.right⟩

theorem lastOf_eq_none_iff : lastOf key entries = none ↔ key ∉ entries.map Prod.fst := by
  unfold lastOf
  rw [lookup_eq_none_iff, List.map_reverse, List.mem_reverse]

theorem exists_lastOf (inserted : key ∈ entries.map Prod.fst) :
    ∃ value, lastOf key entries = some value := by
  cases found : lastOf key entries with
  | none => exact absurd inserted (lastOf_eq_none_iff.mp found)
  | some value => exact ⟨value, rfl⟩

theorem mem_of_lookup (found : entries.lookup key = some value) : (key, value) ∈ entries := by
  induction entries with
  | nil => cases found
  | cons entry entries ih =>
      obtain ⟨here, old⟩ := entry
      by_cases same : key = here
      · subst same
        rw [List.lookup_cons, beq_self_eq_true] at found
        cases found
        exact List.mem_cons_self
      · have distinct : (key == here) = false := by simpa using same
        rw [List.lookup_cons, distinct] at found
        exact List.mem_cons_of_mem _ (ih found)

theorem mem_of_lastOf (found : lastOf key entries = some value) : (key, value) ∈ entries :=
  List.mem_reverse.mp (mem_of_lookup found)

/-- Mappings under the same keys, in one order, are the same where they are read the same. -/
theorem entries_ext {entries' : List (κ × ν)}
    (keys : entries.map Prod.fst = entries'.map Prod.fst) (once : (entries.map Prod.fst).Nodup)
    (each : ∀ key ∈ entries.map Prod.fst, entries.lookup key = entries'.lookup key) :
    entries = entries' := by
  induction entries generalizing entries' with
  | nil => exact (List.map_eq_nil_iff.mp keys.symm).symm
  | cons entry entries ih =>
      obtain ⟨here, value⟩ := entry
      cases entries' with
      | nil => cases keys
      | cons entry' entries' =>
          obtain ⟨here', value'⟩ := entry'
          obtain ⟨same, rest⟩ := List.cons.inj keys
          dsimp only at same
          subst same
          obtain ⟨first, once⟩ := List.nodup_cons.mp once
          have values := each here List.mem_cons_self
          simp only [List.lookup_cons, beq_self_eq_true, Option.some.injEq] at values
          subst values
          congr 1
          apply ih rest once
          intro key isOne
          have distinct : (key == here) = false := by
            rw [beq_eq_false_iff_ne]
            rintro rfl
            exact first isOne
          have later := each key (List.mem_cons_of_mem _ isOne)
          rwa [List.lookup_cons, List.lookup_cons, distinct] at later

section Groups

variable {α τ : Type} {groups groups' : List α} {insertions : α → List (κ × ν)} {tag : α → τ}
  {tagOf : κ → τ}

/-- A key is looked for in the group of its own tag alone. -/
theorem lastOf_other (tagged : ∀ group, ∀ entry ∈ insertions group, tagOf entry.1 = tag group)
    {group : α} (elsewhere : tagOf key ≠ tag group) : lastOf key (insertions group) = none := by
  rw [lastOf_eq_none_iff]
  intro inserted
  obtain ⟨entry, isOne, rfl⟩ := List.mem_map.mp inserted
  exact elsewhere (tagged group entry isOne)

theorem lastOf_flatMap_perm
    (tagged : ∀ group, ∀ entry ∈ insertions group, tagOf entry.1 = tag group)
    (same : groups.Perm groups') (once : (groups.map tag).Nodup) :
    lastOf key (groups.flatMap insertions) = lastOf key (groups'.flatMap insertions) := by
  induction same with
  | nil => rfl
  | cons group _ ih =>
      rw [List.flatMap_cons, List.flatMap_cons, lastOf_append, lastOf_append,
        ih (List.nodup_cons.mp once).2]
  | swap first second rest =>
      rw [List.map_cons, List.map_cons, List.nodup_cons, List.mem_cons, not_or] at once
      simp only [List.flatMap_cons, lastOf_append]
      by_cases isFirst : tagOf key = tag first
      · have elsewhere : tagOf key ≠ tag second := fun isSecond =>
          once.1.1 (isSecond.symm.trans isFirst)
        rw [lastOf_other tagged elsewhere, Option.or_none, Option.or_none]
      · rw [lastOf_other tagged isFirst, Option.or_none, Option.or_none]
  | trans same _ ih ih' =>
      exact (ih once).trans (ih' ((same.map tag).nodup_iff.mp once))

end Groups

end Xaytune.Library
