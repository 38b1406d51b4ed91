import Mathlib.Data.Countable.Basic
import Mathlib.Data.List.Nodup
import Mathlib.Logic.Equiv.List
import Mathlib.Logic.Function.Basic

/-!
# Injective spellings of countable types

Every value of a countable type is spelled by some letters, no two alike: some values by the
texts given for them, each other value by a row of one mark that no given text is.
-/

namespace Xaytune.Library

instance countable_char : Countable Char :=
  Function.Injective.countable (f := Char.toNat) fun _ _ => Char.toNat_inj.mp

instance countable_string : Countable String :=
  Function.Injective.countable (f := String.toList) fun _ _ => String.toList_inj.mp

instance countable_uint8 : Countable UInt8 :=
  Function.Injective.countable (f := UInt8.toNat) fun _ _ => UInt8.toNat_inj.mp

theorem toList_of_eq_ofList {text : String} {letters : List Char}
    (same : text = String.ofList letters) : text.toList = letters := by
  rw [same, String.toList_ofList]

theorem begins_of_eq_ofList {text : String} {first : List Char}
    (written : ∃ rest, text = String.ofList (first ++ rest)) : first <+: text.toList :=
  written.imp fun _ same => (toList_of_eq_ofList same).symm

/-- Texts that begin otherwise differ. -/
theorem ne_of_begins {β : Type} {text other first second : List β} (begins : first <+: text)
    (others : second <+: other) (asLong : first.length = second.length) (differ : first ≠ second) :
    text ≠ other := by
  rintro rfl
  exact differ ((List.prefix_of_prefix_length_le begins others asLong.le).eq_of_length asLong)

theorem unmarked_of_begins {β : Type} {text first : List β} {mark : β} (letter : β)
    (begins : first <+: text) (member : letter ∈ first) (differs : letter ≠ mark) :
    ∃ letter ∈ text, letter ≠ mark :=
  ⟨letter, begins.subset member, differs⟩

/-- Texts given for some values, and the mark that spells every other value. -/
structure Spelling (α β : Type) where
  mark : β
  known : List (α × List β)
  distinct : (known.map Prod.snd).Nodup
  unmarked : ∀ entry ∈ known, ∃ letter ∈ entry.2, letter ≠ mark

/-- What a test finds of some texts. -/
theorem unmarked_of_all {α β : Type} [DecidableEq β] {mark : β} {known : List (α × List β)}
    (all : (known.all fun entry => entry.2.any fun letter => decide (letter ≠ mark)) = true) :
    ∀ entry ∈ known, ∃ letter ∈ entry.2, letter ≠ mark := by
  intro entry member
  obtain ⟨letter, isLetter, differs⟩ := List.any_eq_true.mp (List.all_eq_true.mp all entry member)
  exact ⟨letter, isLetter, of_decide_eq_true differs⟩

namespace Spelling

variable {α β : Type}

/-- One text given, and marks for every other value. -/
def one (mark : β) (value : α) (text : List β) (unmarked : ∃ letter ∈ text, letter ≠ mark) :
    Spelling α β where
  mark
  known := [(value, text)]
  distinct := List.nodup_singleton _
  unmarked := by simpa only [List.mem_singleton, forall_eq] using unmarked

/-- Two texts given, and marks for every other value. -/
def pair (mark : β) (value value' : α) {text text' : List β} (differ : text ≠ text')
    (unmarked : ∃ letter ∈ text, letter ≠ mark) (unmarked' : ∃ letter ∈ text', letter ≠ mark) :
    Spelling α β where
  mark
  known := [(value, text), (value', text')]
  distinct := by simpa using differ
  unmarked := by
    simp only [List.mem_cons, List.not_mem_nil, or_false, forall_eq_or_imp, forall_eq]
    exact ⟨unmarked, unmarked'⟩

noncomputable def code [Countable α] : α → Nat := (Countable.exists_injective_nat α).choose

theorem code_injective [Countable α] : Function.Injective (code : α → Nat) :=
  (Countable.exists_injective_nat α).choose_spec

variable [DecidableEq α] (spelling : Spelling α β) {value : α}

/-- The text given for a value, if there is one. -/
def given (value : α) : Option (List β) :=
  (spelling.known.find? fun entry => entry.1 = value).map Prod.snd

theorem given_mem {text : List β} (isGiven : spelling.given value = some text) :
    (value, text) ∈ spelling.known := by
  obtain ⟨entry, found, rfl⟩ := Option.map_eq_some_iff.mp isGiven
  have isValue : entry.1 = value := by simpa using List.find?_some found
  subst isValue
  exact List.mem_of_find?_eq_some found

theorem given_of_mem {text : List β} (values : (spelling.known.map Prod.fst).Nodup)
    (member : (value, text) ∈ spelling.known) : spelling.given value = some text := by
  rcases isGiven : spelling.given value with _ | other
  · have absent := List.find?_eq_none.mp (Option.map_eq_none_iff.mp isGiven) _ member
    exact absurd rfl (of_decide_eq_false (Bool.eq_false_of_not_eq_true absent))
  · have same := List.inj_on_of_nodup_map values (spelling.given_mem isGiven) member rfl
    exact congrArg some (congrArg Prod.snd same)

/-- A text that is given is no row of marks. -/
theorem given_ne_row {text : List β} (isGiven : spelling.given value = some text) (count : Nat) :
    text ≠ List.replicate count spelling.mark := by
  rintro rfl
  obtain ⟨letter, member, different⟩ := spelling.unmarked _ (spelling.given_mem isGiven)
  exact different (List.eq_of_mem_replicate member)

variable [Countable α]

noncomputable def spell (value : α) : List β :=
  (spelling.given value).getD (List.replicate (code value) spelling.mark)

theorem spell_of_given {text : List β} (isGiven : spelling.given value = some text) :
    spelling.spell value = text := by
  rw [spell, isGiven, Option.getD_some]

theorem spell_of_not_given (notGiven : spelling.given value = none) :
    spelling.spell value = List.replicate (code value) spelling.mark := by
  rw [spell, notGiven, Option.getD_none]

theorem spell_injective : Function.Injective spelling.spell := by
  intro value other same
  rcases first : spelling.given value with _ | text
  · rcases second : spelling.given other with _ | other_text
    · rw [spelling.spell_of_not_given first, spelling.spell_of_not_given second] at same
      exact code_injective (by simpa using congrArg List.length same)
    · rw [spelling.spell_of_not_given first, spelling.spell_of_given second] at same
      exact absurd same.symm (spelling.given_ne_row second _)
  · rcases second : spelling.given other with _ | other_text
    · rw [spelling.spell_of_given first, spelling.spell_of_not_given second] at same
      exact absurd same (spelling.given_ne_row first _)
    · rw [spelling.spell_of_given first, spelling.spell_of_given second] at same
      have entries := List.inj_on_of_nodup_map spelling.distinct (spelling.given_mem first)
        (spelling.given_mem second) same
      exact congrArg Prod.fst entries

/-- A letter that is neither the mark nor in a given text is in no spelling. -/
theorem not_mem_spell {letter : β} (noMark : letter ≠ spelling.mark)
    (notGiven : ∀ entry ∈ spelling.known, letter ∉ entry.2) : letter ∉ spelling.spell value := by
  rcases isGiven : spelling.given value with _ | text
  · rw [spelling.spell_of_not_given isGiven]
    exact fun member => noMark (List.eq_of_mem_replicate member)
  · rw [spelling.spell_of_given isGiven]
    exact notGiven _ (spelling.given_mem isGiven)

/-- The value a text spells, if it spells one. -/
noncomputable def read (text : List β) : Option α := Function.partialInv spelling.spell text

theorem read_spell (value : α) : spelling.read (spelling.spell value) = some value :=
  Function.partialInv_left spelling.spell_injective value

end Spelling

end Xaytune.Library
