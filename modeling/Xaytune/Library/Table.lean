import Mathlib.Data.List.Perm.Basic
import Mathlib.Data.List.Nodup

/-!
# Keyed tables

A table is a list of rows in insertion order whose keys are pairwise distinct,
so two rows under one key cannot be built. Insertion refuses a key that is
taken; replacement writes over the row that holds the key and leaves the order
of all the rows as it was.
-/

namespace Xaytune.Library

/-- Rows of type `α`, in insertion order, no two of them under one `key`. -/
structure Table {α κ : Type} (key : α → κ) where
  rows : List α
  nodup : (rows.map key).Nodup

namespace Table

variable {α κ : Type} {key : α → κ}

@[ext] theorem ext {first second : Table key} (rowsEq : first.rows = second.rows) :
    first = second := by
  cases first
  cases second
  cases rowsEq
  rfl

/-- The table before any insertion. -/
def empty (key : α → κ) : Table key := ⟨[], List.nodup_nil⟩

instance : Membership α (Table key) := ⟨fun table row => row ∈ table.rows⟩

theorem mem_iff {table : Table key} {row : α} : row ∈ table ↔ row ∈ table.rows := Iff.rfl

@[simp] theorem not_mem_empty (row : α) : row ∉ empty key := List.not_mem_nil

/-- Two stored rows under one key are one row. -/
theorem eq_of_key_eq {table : Table key} {first second : α} (hfirst : first ∈ table)
    (hsecond : second ∈ table) (hkey : key first = key second) : first = second :=
  List.inj_on_of_nodup_map table.nodup hfirst hsecond hkey

theorem rows_nodup (table : Table key) : table.rows.Nodup := table.nodup.of_map key

variable [DecidableEq κ]

/-- The row stored under a key, if there is one. -/
def find? (table : Table key) (k : κ) : Option α := table.rows.find? (fun row => key row = k)

theorem find?_eq_some_iff {table : Table key} {k : κ} {row : α} :
    table.find? k = some row ↔ row ∈ table ∧ key row = k := by
  constructor
  · intro found
    exact ⟨List.mem_of_find?_eq_some found, by simpa using List.find?_some found⟩
  · rintro ⟨member, hkey⟩
    cases found : table.find? k with
    | none =>
        have absent := List.find?_eq_none.mp found row member
        simp [hkey] at absent
    | some other =>
        have otherMember : other ∈ table := List.mem_of_find?_eq_some found
        have otherKey : key other = k := by simpa using List.find?_some found
        rw [eq_of_key_eq otherMember member (otherKey.trans hkey.symm)]

theorem mem_of_find? {table : Table key} {k : κ} {row : α} (found : table.find? k = some row) :
    row ∈ table :=
  (find?_eq_some_iff.mp found).1

theorem key_of_find? {table : Table key} {k : κ} {row : α} (found : table.find? k = some row) :
    key row = k :=
  (find?_eq_some_iff.mp found).2

theorem find?_of_mem {table : Table key} {row : α} (member : row ∈ table) :
    table.find? (key row) = some row :=
  find?_eq_some_iff.mpr ⟨member, rfl⟩

theorem find?_eq_none_iff {table : Table key} {k : κ} :
    table.find? k = none ↔ ∀ row ∈ table, key row ≠ k := by
  simp [find?, List.find?_eq_none, mem_iff]

/-! ## Insertion -/

/-- Append a row; a key that is already taken is refused. -/
def insert? (table : Table key) (row : α) : Option (Table key) :=
  if fresh : key row ∈ table.rows.map key then none
  else some ⟨table.rows ++ [row], by
    rw [List.map_append, List.nodup_append]
    refine ⟨table.nodup, List.nodup_singleton _, ?_⟩
    intro k hk other hother
    rw [List.map_singleton, List.mem_singleton] at hother
    rintro rfl
    exact fresh (hother ▸ hk)⟩

theorem insert?_rows {table table' : Table key} {row : α}
    (inserted : table.insert? row = some table') :
    table'.rows = table.rows ++ [row] := by
  unfold insert? at inserted
  split at inserted
  · cases inserted
  · cases inserted
    rfl

theorem insert?_fresh {table table' : Table key} {row : α}
    (inserted : table.insert? row = some table') :
    ∀ other ∈ table, key other ≠ key row := by
  unfold insert? at inserted
  split at inserted
  · cases inserted
  · rename_i fresh
    intro other member same
    exact fresh (List.mem_map.mpr ⟨other, member, same⟩)

theorem mem_insert? {table table' : Table key} {row other : α}
    (inserted : table.insert? row = some table') :
    other ∈ table' ↔ other ∈ table ∨ other = row := by
  rw [mem_iff, insert?_rows inserted, List.mem_append, List.mem_singleton, mem_iff]

theorem find?_insert?_self {table table' : Table key} {row : α}
    (inserted : table.insert? row = some table') : table'.find? (key row) = some row :=
  find?_of_mem ((mem_insert? inserted).mpr (.inr rfl))

theorem find?_insert?_of_ne {table table' : Table key} {row : α} {k : κ}
    (inserted : table.insert? row = some table') (other : k ≠ key row) :
    table'.find? k = table.find? k := by
  rw [find?, insert?_rows inserted, List.find?_append, List.find?_singleton,
    if_neg (by simpa using other.symm), Option.or_none, find?]

theorem find?_insert?_of_found {table table' : Table key} {row found : α} {k : κ}
    (inserted : table.insert? row = some table') (stored : table.find? k = some found) :
    table'.find? k = some found := by
  obtain ⟨member, hkey⟩ := find?_eq_some_iff.mp stored
  exact find?_eq_some_iff.mpr ⟨(mem_insert? inserted).mpr (.inl member), hkey⟩

/-! ## Replacement -/

/-- Write `row` over the stored row with its key; nothing happens if there is none. -/
def replace (table : Table key) (row : α) : Table key :=
  ⟨table.rows.map (fun stored => if key stored = key row then row else stored), by
    have keysEq :
      (table.rows.map fun stored => if key stored = key row then row else stored).map key =
        table.rows.map key := by
      rw [List.map_map]
      apply List.map_congr_left
      intro stored _
      simp only [Function.comp_apply]
      split <;> simp_all
    rw [keysEq]
    exact table.nodup⟩

theorem mem_replace {table : Table key} {row other : α} :
    other ∈ table.replace row ↔
      (other ∈ table ∧ key other ≠ key row) ∨
        (other = row ∧ ∃ stored ∈ table, key stored = key row) := by
  simp only [mem_iff, replace, List.mem_map]
  constructor
  · rintro ⟨stored, member, rfl⟩
    by_cases same : key stored = key row
    · exact .inr ⟨by rw [if_pos same], stored, member, same⟩
    · rw [if_neg same]
      exact .inl ⟨member, same⟩
  · rintro (⟨member, differs⟩ | ⟨rfl, stored, member, same⟩)
    · exact ⟨other, member, by rw [if_neg differs]⟩
    · exact ⟨stored, member, by rw [if_pos same]⟩

theorem find?_replace_self {table : Table key} {row stored : α}
    (found : table.find? (key row) = some stored) :
    (table.replace row).find? (key row) = some row := by
  obtain ⟨member, hkey⟩ := find?_eq_some_iff.mp found
  exact find?_eq_some_iff.mpr ⟨mem_replace.mpr (.inr ⟨rfl, stored, member, hkey⟩), rfl⟩

theorem find?_replace_of_ne {table : Table key} {row : α} {k : κ} (differs : k ≠ key row) :
    (table.replace row).find? k = table.find? k := by
  cases found : table.find? k with
  | none =>
      rw [find?_eq_none_iff] at found ⊢
      intro other member
      rcases mem_replace.mp member with ⟨member, _⟩ | ⟨rfl, _⟩
      · exact found other member
      · exact differs.symm
  | some other =>
      obtain ⟨member, rfl⟩ := find?_eq_some_iff.mp found
      exact find?_eq_some_iff.mpr ⟨mem_replace.mpr (.inl ⟨member, differs⟩), rfl⟩

/-- What is found where one row has been written and the others stand. -/
theorem find?_written {table table' : Table key} {row other : α} {k : κ}
    (self : table'.find? (key row) = some row)
    (others : k ≠ key row → table'.find? k = table.find? k) :
    table'.find? k = some other ↔
      (k = key row ∧ other = row) ∨ (k ≠ key row ∧ table.find? k = some other) := by
  by_cases same : k = key row
  · subst same
    rw [self]
    constructor
    · rintro ⟨⟩
      exact .inl ⟨rfl, rfl⟩
    · rintro (⟨_, rfl⟩ | ⟨differs, _⟩)
      · rfl
      · exact absurd rfl differs
  · rw [others same]
    constructor
    · exact fun stored => .inr ⟨same, stored⟩
    · rintro (⟨here, _⟩ | ⟨_, stored⟩)
      · exact absurd here same
      · exact stored

theorem find?_replace {table : Table key} {row stored other : α} {k : κ}
    (found : table.find? (key row) = some stored) :
    (table.replace row).find? k = some other ↔
      (k = key row ∧ other = row) ∨ (k ≠ key row ∧ table.find? k = some other) :=
  find?_written (find?_replace_self found) find?_replace_of_ne

theorem find?_insert? {table table' : Table key} {row other : α} {k : κ}
    (inserted : table.insert? row = some table') :
    table'.find? k = some other ↔
      (k = key row ∧ other = row) ∨ (k ≠ key row ∧ table.find? k = some other) :=
  find?_written (find?_insert?_self inserted) (find?_insert?_of_ne inserted)

theorem find?_fresh {table table' : Table key} {row : α}
    (inserted : table.insert? row = some table') :
    table.find? (key row) = none :=
  find?_eq_none_iff.mpr (insert?_fresh inserted)

/-- `INSERT … ON CONFLICT DO UPDATE`: append the row, or write it over the one with its key. -/
def put (table : Table key) (row : α) : Table key := (table.insert? row).getD (table.replace row)

theorem find?_put_self {table : Table key} {row : α} :
    (table.put row).find? (key row) = some row := by
  unfold put
  cases inserted : table.insert? row with
  | some table' => exact find?_insert?_self inserted
  | none =>
      unfold insert? at inserted
      split at inserted
      · rename_i taken
        obtain ⟨stored, member, same⟩ := List.mem_map.mp taken
        exact find?_replace_self (find?_eq_some_iff.mpr ⟨member, same⟩)
      · cases inserted

theorem find?_put_of_ne {table : Table key} {row : α} {k : κ} (differs : k ≠ key row) :
    (table.put row).find? k = table.find? k := by
  unfold put
  cases inserted : table.insert? row with
  | some table' => exact find?_insert?_of_ne inserted differs
  | none => exact find?_replace_of_ne differs

/-! ## Counting -/

/-- The keys of the rows that satisfy a predicate. -/
def keysWhere (table : Table key) (p : α → Bool) : List κ := (table.rows.filter p).map key

omit [DecidableEq κ] in
theorem nodup_keysWhere (table : Table key) (p : α → Bool) : (table.keysWhere p).Nodup :=
  table.nodup.sublist (List.filter_sublist.map key)

theorem mem_keysWhere {table : Table key} {p : α → Bool} {k : κ} :
    k ∈ table.keysWhere p ↔ ∃ row, table.find? k = some row ∧ p row = true := by
  unfold keysWhere
  rw [List.mem_map]
  constructor
  · rintro ⟨row, member, rfl⟩
    obtain ⟨stored, holds⟩ := List.mem_filter.mp member
    exact ⟨row, find?_of_mem stored, holds⟩
  · rintro ⟨row, found, holds⟩
    exact ⟨row, List.mem_filter.mpr ⟨mem_of_find? found, holds⟩, key_of_find? found⟩

/-- A predicate of the key alone is read off the key. -/
theorem mem_keysWhere_and (table : Table key) (p : κ → Bool) (q : α → Bool) {k : κ} :
    k ∈ table.keysWhere (fun row => p (key row) && q row) ↔
      p k = true ∧ ∃ row, table.find? k = some row ∧ q row = true := by
  rw [mem_keysWhere]
  constructor
  · rintro ⟨row, found, holds⟩
    rw [key_of_find? found, Bool.and_eq_true] at holds
    exact ⟨holds.1, row, found, holds.2⟩
  · rintro ⟨ofKey, row, found, holds⟩
    refine ⟨row, found, ?_⟩
    rw [key_of_find? found, Bool.and_eq_true]
    exact ⟨ofKey, holds⟩

omit [DecidableEq κ] in
/-- The rows split into those that satisfy a second predicate and those that do not. -/
theorem length_keysWhere_split (table : Table key) (p q : α → Bool) :
    (table.keysWhere p).length =
      (table.keysWhere fun row => p row && q row).length +
        (table.keysWhere fun row => p row && !q row).length := by
  simp only [keysWhere, List.length_map]
  generalize table.rows = rows
  induction rows with
  | nil => rfl
  | cons row rest ih =>
      cases holds : p row <;> cases splits : q row <;> simp [holds, splits, ih] <;> omega

/-- Lists without repetition and with the same elements are equally long. -/
theorem length_eq_of_mem_iff {first second : List α} (nodup : first.Nodup) (nodup' : second.Nodup)
    (same : ∀ a, a ∈ first ↔ a ∈ second) : first.length = second.length :=
  ((List.perm_ext_iff_of_nodup nodup nodup').mpr same).length_eq

/-- A list without repetition is no longer than a list that has all its elements. -/
theorem length_le_of_subset {first second : List α} (nodup : first.Nodup)
    (subset : ∀ a ∈ first, a ∈ second) : first.length ≤ second.length :=
  (List.subperm_of_subset nodup subset).length_le

/-! ## Persistence -/

/-- Every row of the first table is, in the second, still there or replaced by one `later`. -/
def Persists (later : α → α → Prop) (table table' : Table key) : Prop :=
  ∀ k row, table.find? k = some row → ∃ row', table'.find? k = some row' ∧ later row row'

namespace Persists

variable {later : α → α → Prop} {table table' table'' : Table key}

theorem refl (same : ∀ row, later row row) : Persists later table table :=
  fun _ row found => ⟨row, found, same row⟩

theorem trans (compose : ∀ first second third, later first second → later second third →
      later first third)
    (first : Persists later table table') (second : Persists later table' table'') :
    Persists later table table'' := by
  intro k row found
  obtain ⟨row', found', later'⟩ := first k row found
  obtain ⟨row'', found'', later''⟩ := second k row' found'
  exact ⟨row'', found'', compose row row' row'' later' later''⟩

theorem insert {row : α} (same : ∀ row, later row row)
    (inserted : table.insert? row = some table') :
    Persists later table table' :=
  fun _ stored found => ⟨stored, find?_insert?_of_found inserted found, same stored⟩

theorem replace {old new : α} (same : ∀ row, later row row)
    (found : table.find? (key new) = some old)
    (moved : later old new) : Persists later table (table.replace new) := by
  intro k row stored
  by_cases here : k = key new
  · subst here
    rw [found, Option.some.injEq] at stored
    subst stored
    exact ⟨new, find?_replace_self found, moved⟩
  · exact ⟨row, (find?_replace_of_ne here).trans stored, same row⟩

/-- Rows that never change. -/
theorem fixed (first : Persists (· = ·) table table') (second : Persists (· = ·) table' table'') :
    Persists (· = ·) table table'' :=
  first.trans (fun _ _ _ => Eq.trans) second

theorem insertFixed {row : α} (inserted : table.insert? row = some table') :
    Persists (· = ·) table table' :=
  .insert (fun _ => rfl) inserted

/-- A row found after an insertion was there before, or it is the one inserted. -/
theorem origin_insert {row other : α} {k : κ} {isNew : α → Prop} (same : ∀ row, later row row)
    (inserted : table.insert? row = some table') (new : isNew row)
    (found : table'.find? k = some other) :
    (∃ old, table.find? k = some old ∧ later old other) ∨
      (table.find? k = none ∧ isNew other) := by
  rcases (find?_insert? inserted).mp found with ⟨rfl, rfl⟩ | ⟨_, stored⟩
  · exact .inr ⟨find?_fresh inserted, new⟩
  · exact .inl ⟨other, stored, same other⟩

/-- A row found after a replacement was there before, or an earlier form of it was. -/
theorem origin_replace {old new other : α} {k : κ} (same : ∀ row, later row row)
    (stored : table.find? (key new) = some old) (moved : later old new)
    (found : (table.replace new).find? k = some other) :
    ∃ old, table.find? k = some old ∧ later old other := by
  rcases (find?_replace stored).mp found with ⟨rfl, rfl⟩ | ⟨_, there⟩
  · exact ⟨old, stored, moved⟩
  · exact ⟨other, there, same other⟩

end Persists

/-! ## Sweeps -/

/-- Some rows of a table are rewritten one by one, once each: `rest` are still to come, and of the
rows in scope every other one is `done`. -/
structure Sweeps (later : α → α → Prop) (scope done : α → Prop) (table table' : Table key)
    (rest : List α) : Prop where
  origin : ∀ k row, table'.find? k = some row → ∃ old, table.find? k = some old ∧ later old row
  pending : ∀ row ∈ rest, table'.find? (key row) = some row
  distinct : (rest.map key).Nodup
  swept : ∀ k row, table'.find? k = some row → scope row → row ∈ rest ∨ done row

namespace Sweeps

variable {later : α → α → Prop} {scope done : α → Prop} {table table' table'' : Table key}
  {row : α} {rest : List α}

theorem start (same : ∀ row, later row row) [DecidablePred scope] :
    Sweeps later scope done table table (table.rows.filter fun row => scope row) where
  origin _ row found := ⟨row, found, same row⟩
  pending _ member := find?_of_mem (List.mem_of_mem_filter member)
  distinct := table.nodup.sublist (List.filter_sublist.map key)
  swept _ _ found inScope :=
    .inl (List.mem_filter.mpr ⟨mem_of_find? found, decide_eq_true inScope⟩)

/-- The next row is rewritten and no other. -/
theorem next (sweeps : Sweeps later scope done table table' (row :: rest))
    (compose : ∀ first second third, later first second → later second third →
      later first third)
    (others : ∀ k, k ≠ key row → table''.find? k = table'.find? k)
    (finished : ∀ new, table''.find? (key row) = some new → later row new ∧ done new) :
    Sweeps later scope done table table'' rest where
  origin := by
    intro k new found
    by_cases here : k = key row
    · subst here
      obtain ⟨old, stored, earlier⟩ :=
        sweeps.origin _ row (sweeps.pending row List.mem_cons_self)
      exact ⟨old, stored, compose _ _ _ earlier (finished new found).1⟩
    · exact sweeps.origin k new (others k here ▸ found)
  pending := by
    intro other member
    have differs : key other ≠ key row := by
      intro same
      exact (List.nodup_cons.mp sweeps.distinct).1 (same ▸ List.mem_map_of_mem member)
    rw [others _ differs]
    exact sweeps.pending other (List.mem_cons_of_mem _ member)
  distinct := (List.nodup_cons.mp sweeps.distinct).2
  swept := by
    intro k new found inScope
    by_cases here : k = key row
    · subst here
      exact .inr (finished new found).2
    · have found' : table'.find? k = some new := others k here ▸ found
      rcases sweeps.swept k new found' inScope with pending | isDone
      · rcases List.mem_cons.mp pending with rfl | pending
        · exact absurd (key_of_find? found').symm here
        · exact .inl pending
      · exact .inr isDone

end Sweeps

end Table

end Xaytune.Library
