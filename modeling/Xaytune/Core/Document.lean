import Mathlib.Data.List.Pairwise
import Mathlib.Data.List.Perm.Basic
import Xaytune.Core.Fingerprint

/-!
# Fields of a nested document

A field is reached by the keys that lead to it, and set only where the document already has it.
Fields that do not lie inside one another are set in any order.
-/

namespace Xaytune.Core

variable {F : Type}

def text (letters : String) : Text := spell letters.toList

theorem text_injective : Function.Injective text := by
  intro letters others same
  exact String.toList_inj.mp (spell_injective same)

/-! ## One mapping -/

/-- `get` of a mapping; anything else has no fields. -/
def Value.field? (key : Text) : Value F → Option (Value F)
  | .map entries => entries.lookup key
  | _ => none

/-- The keys of a mapping, in their order. -/
def Value.keys? : Value F → Option (List Text)
  | .map entries => some (entries.map Prod.fst)
  | _ => none

def putEntry (key : Text) (value : Value F) : List (Text × Value F) → List (Text × Value F)
  | [] => []
  | (here, old) :: rest =>
      if key = here then (here, value) :: rest else (here, old) :: putEntry key value rest

/-- `container[key] = value`, for a key the container has. -/
def Value.putField (document : Value F) (key : Text) (value : Value F) : Value F :=
  match document with
  | .map entries => .map (putEntry key value entries)
  | other => other

section Entries

variable {key other : Text} {value value' : Value F} {entries : List (Text × Value F)}

theorem putEntry_cons (here : Text) (old : Value F) : putEntry key value ((here, old) :: entries) =
    if key = here then (here, value) :: entries else (here, old) :: putEntry key value entries :=
      rfl

theorem lookup_putEntry (present : (entries.lookup key).isSome) :
    (putEntry key value entries).lookup key = some value := by
  induction entries with
  | nil => cases present
  | cons entry rest ih =>
      obtain ⟨here, old⟩ := entry
      rw [putEntry_cons]
      split
      · next same => simp [same]
      · next differs =>
          have distinct : (key == here) = false := by simpa using differs
          rw [List.lookup_cons, distinct] at present ⊢
          exact ih present

theorem lookup_putEntry_ne (differs : other ≠ key) :
    (putEntry key value entries).lookup other = entries.lookup other := by
  induction entries with
  | nil => rfl
  | cons entry rest ih =>
      obtain ⟨here, old⟩ := entry
      rw [putEntry_cons]
      split
      · next same =>
          have distinct : (other == here) = false := by simpa [← same] using differs
          rw [List.lookup_cons, List.lookup_cons, distinct]
      · rw [List.lookup_cons, List.lookup_cons, ih]

theorem keys_putEntry : (putEntry key value entries).map Prod.fst = entries.map Prod.fst := by
  induction entries with
  | nil => rfl
  | cons entry rest ih =>
      obtain ⟨here, old⟩ := entry
      rw [putEntry_cons]
      split
      · rfl
      · rw [List.map_cons, List.map_cons, ih]

theorem putEntry_putEntry :
    putEntry key value' (putEntry key value entries) = putEntry key value' entries := by
  induction entries with
  | nil => rfl
  | cons entry rest ih =>
      obtain ⟨here, old⟩ := entry
      by_cases same : key = here
      · simp only [putEntry_cons, if_pos same]
      · simp only [putEntry_cons, if_neg same, ih]

theorem putEntry_comm (differs : key ≠ other) :
    putEntry other value' (putEntry key value entries) =
      putEntry key value (putEntry other value' entries) := by
  induction entries with
  | nil => rfl
  | cons entry rest ih =>
      obtain ⟨here, old⟩ := entry
      by_cases same : key = here
      · have distinct : ¬ other = here := fun same' => differs (same.trans same'.symm)
        simp only [putEntry_cons, if_pos same, if_neg distinct]
      · by_cases same' : other = here
        · simp only [putEntry_cons, if_neg same, if_pos same']
        · simp only [putEntry_cons, if_neg same, if_neg same', ih]

end Entries

section Fields

variable {key other : Text} {value value' document : Value F}

theorem field?_putField (present : (document.field? key).isSome) :
    (document.putField key value).field? key = some value := by
  cases document with
  | map entries => exact lookup_putEntry present
  | _ => cases present

theorem field?_putField_ne (differs : other ≠ key) :
    (document.putField key value).field? other = document.field? other := by
  cases document with
  | map entries => exact lookup_putEntry_ne differs
  | _ => rfl

theorem keys?_putField : (document.putField key value).keys? = document.keys? := by
  cases document with
  | map entries => exact congrArg some keys_putEntry
  | _ => rfl

theorem putField_putField :
    (document.putField key value).putField key value' = document.putField key value' := by
  cases document with
  | map entries => exact congrArg Value.map putEntry_putEntry
  | _ => rfl

theorem putField_comm (differs : key ≠ other) :
    (document.putField key value).putField other value' =
      (document.putField other value').putField key value := by
  cases document with
  | map entries => exact congrArg Value.map (putEntry_comm differs)
  | _ => rfl

end Fields

/-! ## Paths -/

/-- What a path leads to. -/
def Value.at? : List Text → Value F → Option (Value F)
  | [], document => some document
  | key :: rest, document => (document.field? key).bind (at? rest)

/-- The document with the field at a path set, if it has that field. -/
def Value.setAt? : List Text → (value document : Value F) → Option (Value F)
  | [], value, _ => some value
  | key :: rest, value, document =>
      (document.field? key).bind fun inner =>
        (setAt? rest value inner).map fun changed => document.putField key changed

/-- Neither path leads through the other. -/
def Apart (path path' : List Text) : Prop := ¬ path.IsPrefix path' ∧ ¬ path'.IsPrefix path

theorem Apart.symm {path path' : List Text} (apart : Apart path path') : Apart path' path :=
  ⟨apart.2, apart.1⟩

theorem Apart.tail {key : Text} {path path' : List Text}
    (apart : Apart (key :: path) (key :: path')) : Apart path path' :=
  ⟨fun inside => apart.1 (List.cons_prefix_cons.mpr ⟨rfl, inside⟩),
    fun inside => apart.2 (List.cons_prefix_cons.mpr ⟨rfl, inside⟩)⟩

section Paths

variable {key : Text} {path path' : List Text} {value value' document changed : Value F}

/-- What setting below a key comes to. -/
theorem setAt?_cons_iff : Value.setAt? (key :: path) value document = some changed ↔
    ∃ inner, document.field? key = some inner ∧ ∃ inner',
      Value.setAt? path value inner = some inner' ∧
      document.putField key inner' = changed := by
  refine Option.bind_eq_some_iff.trans ?_
  simp only [Option.map_eq_some_iff]

theorem at?_cons : document.at? (key :: path) = (document.field? key).bind (Value.at? path) := rfl

theorem at?_setAt? (set : Value.setAt? path value document = some changed) :
    changed.at? path = some value := by
  induction path generalizing document changed with
  | nil => exact set.symm
  | cons key rest ih =>
      obtain ⟨inner, isInner, inner', isSet, rfl⟩ := setAt?_cons_iff.mp set
      rw [at?_cons, field?_putField (Option.isSome_of_eq_some isInner)]
      exact ih isSet

/-- Frame: what does not lie on the path stays. -/
theorem at?_setAt?_apart (set : Value.setAt? path value document = some changed)
    (apart : Apart path path') : changed.at? path' = document.at? path' := by
  induction path generalizing document changed path' with
  | nil => exact absurd List.nil_prefix apart.1
  | cons key rest ih =>
      obtain ⟨inner, isInner, inner', isSet, rfl⟩ := setAt?_cons_iff.mp set
      cases path' with
      | nil => exact absurd List.nil_prefix apart.2
      | cons key' rest' =>
          rw [at?_cons, at?_cons]
          by_cases same : key' = key
          · subst same
            have inside : Apart rest rest' := apart.tail
            rw [field?_putField (Option.isSome_of_eq_some isInner), isInner]
            exact ih isSet inside
          · rw [field?_putField_ne same]

/-- On the way to the field the mappings keep their keys. -/
theorem keys?_setAt? (set : Value.setAt? path value document = some changed)
    (leads : path'.IsPrefix path) (short : path' ≠ path) :
    (changed.at? path').bind Value.keys? = (document.at? path').bind Value.keys? := by
  induction path generalizing document changed path' with
  | nil => exact absurd (List.prefix_nil.mp leads) short
  | cons key rest ih =>
      obtain ⟨inner, isInner, inner', isSet, rfl⟩ := setAt?_cons_iff.mp set
      cases path' with
      | nil => exact keys?_putField
      | cons key' rest' =>
          obtain ⟨rfl, inside⟩ := List.cons_prefix_cons.mp leads
          rw [at?_cons, at?_cons, field?_putField (Option.isSome_of_eq_some isInner), isInner]
          exact ih isSet inside fun same => short (congrArg _ same)

/-- Fields apart are set in either order. -/
theorem setAt?_swap {final : Value F} (apart : Apart path path')
    (first : Value.setAt? path value document = some changed)
    (second : Value.setAt? path' value' changed = some final) :
    ∃ changed', Value.setAt? path' value' document = some changed' ∧
      Value.setAt? path value changed' = some final := by
  induction path generalizing document changed final path' with
  | nil => exact absurd List.nil_prefix apart.1
  | cons key rest ih =>
      obtain ⟨inner, isInner, inner', isSet, rfl⟩ := setAt?_cons_iff.mp first
      cases path' with
      | nil => exact absurd List.nil_prefix apart.2
      | cons key' rest' =>
          obtain ⟨below, isBelow, below', isSetBelow, rfl⟩ := setAt?_cons_iff.mp second
          by_cases same : key' = key
          · subst same
            have inside : Apart rest rest' := apart.tail
            have present : (document.field? key').isSome := by rw [isInner]; rfl
            rw [field?_putField present] at isBelow
            cases isBelow
            obtain ⟨between, isBetween, isFinal⟩ := ih inside isSet isSetBelow
            refine ⟨document.putField key' between,
              setAt?_cons_iff.mpr ⟨inner, isInner, between, isBetween, rfl⟩,
              setAt?_cons_iff.mpr ⟨between, field?_putField present, below', isFinal, ?_⟩⟩
            rw [putField_putField, putField_putField]
          · -- the two keys are set beside one another
            rw [field?_putField_ne same] at isBelow
            refine ⟨document.putField key' below',
              setAt?_cons_iff.mpr ⟨below, isBelow, below', isSetBelow, rfl⟩,
              setAt?_cons_iff.mpr ⟨inner, ?_, inner', isSet, putField_comm same⟩⟩
            rw [field?_putField_ne (Ne.symm same), isInner]

end Paths

/-! ## Several fields -/

/-- The document with several fields set one after the other. -/
def setEach : List (List Text × Value F) → Value F → Option (Value F)
  | [], document => some document
  | (path, value) :: rest, document => (Value.setAt? path value document).bind (setEach rest)

/-- No path leads through another. -/
def AllApart (writes : List (List Text × Value F)) : Prop :=
  writes.Pairwise fun first second => Apart first.1 second.1

instance writesApart_symm :
    Std.Symm fun first second : List Text × Value F => Apart first.1 second.1 :=
  ⟨fun _ _ => Apart.symm⟩

/-- One document is the other with just the given fields set: at each path the given value, on the
way to it the same keys, and everywhere else what was there. -/
structure SetsExactly (writes : List (List Text × Value F)) (document changed : Value F) :
    Prop where
  written : ∀ write ∈ writes, changed.at? write.1 = some write.2
  keys : ∀ path, (∃ write ∈ writes, path.IsPrefix write.1 ∧ path ≠ write.1) →
    (changed.at? path).bind Value.keys? = (document.at? path).bind Value.keys?
  elsewhere : ∀ path, (∀ write ∈ writes, Apart write.1 path) → changed.at? path = document.at? path

section Several

variable {writes writes' : List (List Text × Value F)} {document changed : Value F}

theorem setEach_cons_iff {path : List Text} {value : Value F} :
    setEach ((path, value) :: writes) document = some changed ↔
      ∃ middle, Value.setAt? path value document = some middle ∧
        setEach writes middle = some changed := by
  exact Option.bind_eq_some_iff

/-- The order of the fields does not matter. -/
theorem setEach_perm (same : writes.Perm writes') (apart : AllApart writes)
    (set : setEach writes document = some changed) : setEach writes' document = some changed := by
  induction same generalizing document with
  | nil => exact set
  | cons write _ ih =>
      obtain ⟨middle, first, rest⟩ := setEach_cons_iff.mp set
      exact setEach_cons_iff.mpr ⟨middle, first, ih (List.pairwise_cons.mp apart).2 rest⟩
  | swap first second rest =>
      obtain ⟨middle, isMiddle, behind⟩ := setEach_cons_iff.mp set
      obtain ⟨last, isLast, behind⟩ := setEach_cons_iff.mp behind
      have firstApart : Apart second.1 first.1 :=
        (List.pairwise_cons.mp apart).1 first List.mem_cons_self
      obtain ⟨middle', isMiddle', isLast'⟩ := setAt?_swap firstApart isMiddle isLast
      exact setEach_cons_iff.mpr ⟨middle', isMiddle', setEach_cons_iff.mpr ⟨last, isLast', behind⟩⟩
  | trans first _ ih ih' =>
      have apart' : AllApart _ := (first.pairwise_iff Apart.symm).mp apart
      exact ih' apart' (ih apart set)

/-- On the way to one of the fields lies none of them. -/
theorem not_isPrefix_way {write other : List Text × Value F} {way : List Text}
    (apart : AllApart writes) (member : write ∈ writes) (member' : other ∈ writes)
    (leads : way.IsPrefix write.1) (short : way ≠ write.1) : ¬ other.1.IsPrefix way := by
  intro through
  by_cases same : other = write
  · subst same
    exact short (leads.eq_of_length_le through.length_le)
  · have differ : Apart other.1 write.1 :=
      List.Pairwise.forall apart member' member same
    exact differ.1 (through.trans leads)

/-- Fields that lie apart are set exactly. -/
theorem setEach_exactly (apart : AllApart writes) (set : setEach writes document = some changed) :
    SetsExactly writes document changed := by
  induction writes generalizing document with
  | nil =>
      cases set
      exact ⟨by simp, by simp, fun _ _ => rfl⟩
  | cons write rest ih =>
      obtain ⟨path, value⟩ := write
      obtain ⟨others, apartRest⟩ := List.pairwise_cons.mp apart
      obtain ⟨middle, first, behind⟩ := setEach_cons_iff.mp set
      obtain ⟨written, keys, elsewhere⟩ := ih apartRest behind
      constructor
      · intro write member
        rcases List.mem_cons.mp member with rfl | later
        · rw [elsewhere path fun other isOther => (others other isOther).symm]
          exact at?_setAt? first
        · exact written write later
      · rintro way ⟨write, member, leads, short⟩
        have none_through : ∀ other ∈ (path, value) :: rest, ¬ other.1.IsPrefix way :=
          fun other isOther => not_isPrefix_way apart member isOther leads short
        have firstKeys :
          (middle.at? way).bind Value.keys? = (document.at? way).bind Value.keys? := by
          have before := none_through (path, value) List.mem_cons_self
          by_cases inside : way.IsPrefix path
          · exact keys?_setAt? first inside fun same => before (same ▸ List.prefix_rfl)
          · rw [at?_setAt?_apart first ⟨before, inside⟩]
        by_cases later : ∃ other ∈ rest, way.IsPrefix other.1
        · obtain ⟨other, isOther, inside⟩ := later
          have before := none_through other (List.mem_cons_of_mem _ isOther)
          rw [keys way ⟨other, isOther, inside, fun same => before (same ▸ List.prefix_rfl)⟩]
          exact firstKeys
        · rw [elsewhere way fun other isOther => ⟨none_through other
            (List.mem_cons_of_mem _ isOther), fun inside => later ⟨other, isOther, inside⟩⟩]
          exact firstKeys
      · intro other outside
        rw [elsewhere other fun write member => outside write (List.mem_cons_of_mem _ member)]
        exact at?_setAt?_apart first (outside (path, value) List.mem_cons_self)

end Several

end Xaytune.Core
