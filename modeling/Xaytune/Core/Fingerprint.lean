import Mathlib.Data.List.Lex
import Mathlib.Data.List.Sort
import Xaytune.Library.Delimited
import Xaytune.Library.Fallible

/-!
# Canonical typed encoding

Every durable identity is a digest of this encoding, so it must tell any two typed
values apart. Each value carries a tag, a text carries its length, and a mapping is
emitted in the order of its keys. What follows a value is nothing, or one of the
delimiters, which no number holds.
-/

namespace Xaytune.Core

open Xaytune.Library

/-! ## Texts -/

/-- A character of a text: any code point, surrogates included. -/
abbrev CodePoint := Fin 0x110000

abbrev Text := List CodePoint

instance lawfulText : LawfulBEq Text := inferInstance

def point (letter : Char) : CodePoint :=
  ⟨letter.toNat, by
    have := letter.valid
    unfold UInt32.isValidChar Nat.isValidChar at this
    unfold Char.toNat
    omega⟩

def spell (letters : List Char) : Text := letters.map point

/-- A decimal integer, as formatting prints it. -/
def decimal : Int → List Char
  | .ofNat n => Nat.toDigits 10 n
  | .negSucc n => '-' :: Nat.toDigits 10 (n + 1)

/-! ## Values -/

/-- A value with a canonical form; a mapping lists its entries in the order of insertion. -/
inductive Value (F : Type) where
  | null
  | bool (value : Bool)
  | int (value : Int)
  | float (value : F)
  | str (value : Text)
  | seq (items : List (Value F))
  | map (entries : List (Text × Value F))

variable {F : Type}

mutual

/-- No mapping anywhere in the value has a key twice. -/
def Value.DistinctKeys : Value F → Prop
  | .seq items => distinctAll items
  | .map entries => (entries.map Prod.fst).Nodup ∧ distinctEntries entries
  | _ => True

def distinctAll : List (Value F) → Prop
  | [] => True
  | item :: items => item.DistinctKeys ∧ distinctAll items

def distinctEntries : List (Text × Value F) → Prop
  | [] => True
  | (_, item) :: entries => item.DistinctKeys ∧ distinctEntries entries

end

mutual

/-- The same typed value: a mapping is the same whatever the order of insertion. -/
def Value.Same : Value F → Value F → Prop
  | .null, .null => True
  | .bool value, .bool value' => value = value'
  | .int value, .int value' => value = value'
  | .float value, .float value' => value = value'
  | .str value, .str value' => value = value'
  | .seq items, .seq items' => sameAll items items'
  | .map entries, .map entries' =>
      (∀ key, key ∈ entries.map Prod.fst ↔ key ∈ entries'.map Prod.fst) ∧
        sameEntries entries entries'
  | _, _ => False

def sameAll : List (Value F) → List (Value F) → Prop
  | [], [] => True
  | item :: items, item' :: items' => item.Same item' ∧ sameAll items items'
  | _, _ => False

/-- Every entry of the first list is, under its key, in the second. -/
def sameEntries : List (Text × Value F) → List (Text × Value F) → Prop
  | [], _ => True
  | (key, item) :: entries, entries' =>
      (∃ item', (key, item') ∈ entries' ∧ item.Same item') ∧ sameEntries entries entries'

end

/-! ## The encoding -/

/-- A text is behind its length, so that what it holds cannot be mistaken for what follows. -/
def encodeText (value : Text) : Text :=
  spell ['s', ':'] ++ (spell (decimal value.length) ++ point ':' :: value)

mutual

/-- `_encode`, with the printed form of a finite float as a parameter. -/
def encode (repr : F → Text) : Value F → Text
  | .null => spell ['n']
  | .bool value => spell ['b', ':', if value then '1' else '0']
  | .int value => spell ['i', ':'] ++ spell (decimal value)
  | .float value => spell ['f', ':'] ++ repr value
  | .str value => encodeText value
  | .seq items =>
      spell ['l', ':', '['] ++ (join (point ',') (encodeAll repr items) ++ [point ']'])
  | .map entries =>
      let encoded := encodeEntries repr entries
      let keys := (entries.map Prod.fst).insertionSort (· ≤ ·)
      spell ['m', ':', '{'] ++ (join (point ',') (keys.map fun key =>
        encodeText key ++ point '=' :: (encoded.lookup key).getD []) ++ [point '}'])

def encodeAll (repr : F → Text) : List (Value F) → List Text
  | [] => []
  | item :: items => encode repr item :: encodeAll repr items

/-- The encoded value under each key. -/
def encodeEntries (repr : F → Text) : List (Text × Value F) → List (Text × Text)
  | [] => []
  | (key, item) :: entries => (key, encode repr item) :: encodeEntries repr entries

end

example : encode (fun _ : Empty => []) (.seq [.bool true, .int 1, .map [([point 'k'], .null)]]) =
    spell ['l', ':', '[', 'b', ':', '1', ',', 'i', ':', '1', ',',
      'm', ':', '{', 's', ':', '1', ':', 'k', '=', 'n', '}', ']'] := by
  decide

/-! ## Letters -/

theorem point_injective : Function.Injective point := by
  intro letter letter' same
  have sameNat : letter.toNat = letter'.toNat := by
    unfold point at same
    exact Fin.mk.inj same
  exact Char.ext (UInt32.toNat_inj.mp sameNat)

theorem spell_injective : Function.Injective spell := point_injective.list_map

/-- The letters that may follow a value inside a sequence or a mapping. -/
def Stops (letter : CodePoint) : Prop :=
  letter = point ',' ∨ letter = point ']' ∨ letter = point '}'

theorem comma_stops : Stops (point ',') := .inl rfl

theorem bracket_stops : Stops (point ']') := .inr (.inl rfl)

theorem brace_stops : Stops (point '}') := .inr (.inr rfl)

theorem toDigits_injective {m n : Nat} (same : Nat.toDigits 10 m = Nat.toDigits 10 n) : m = n := by
  rw [← Nat.ofDigitChars_ten_toDigits (n := m), same, Nat.ofDigitChars_ten_toDigits]

theorem decimal_injective : Function.Injective decimal := by
  have unsigned : ∀ m n, Nat.toDigits 10 m ≠ '-' :: Nat.toDigits 10 n := by
    intro m n same
    have sign : '-' ∈ Nat.toDigits 10 m := same ▸ List.mem_cons_self
    exact absurd (Nat.isDigit_of_mem_toDigits (by decide) (by decide) sign) (by decide)
  intro left right same
  cases left with
  | ofNat m =>
      cases right with
      | ofNat n => exact congrArg Int.ofNat (toDigits_injective same)
      | negSucc n => exact absurd same (unsigned m (n + 1))
  | negSucc m =>
      cases right with
      | ofNat n => exact absurd same.symm (unsigned n (m + 1))
      | negSucc n =>
          have sameDigits := toDigits_injective (List.cons.inj same).2
          exact congrArg Int.negSucc (Nat.succ.inj sameDigits)

theorem mem_decimal {letter : Char} {n : Int} (member : letter ∈ decimal n) :
    letter = '-' ∨ letter.isDigit = true := by
  cases n with
  | ofNat n => exact .inr (Nat.isDigit_of_mem_toDigits (by decide) (by decide) member)
  | negSucc n =>
      rcases List.mem_cons.mp member with sign | digit
      · exact .inl sign
      · exact .inr (Nat.isDigit_of_mem_toDigits (by decide) (by decide) digit)

/-- A letter that is neither a sign nor a digit is in no decimal. -/
theorem not_mem_spell_decimal {letter : Char} (other : letter ≠ '-')
    (noDigit : letter.isDigit = false) (n : Int) : point letter ∉ spell (decimal n) := by
  intro member
  obtain ⟨letter', member', same⟩ := List.mem_map.mp member
  rw [point_injective same] at member'
  rcases mem_decimal member' with sign | digit
  · exact other sign
  · rw [noDigit] at digit
    cases digit

theorem decimal_plain (n : Int) : ∀ letter ∈ spell (decimal n), ¬ Stops letter := by
  rintro letter member (rfl | rfl | rfl)
  · exact not_mem_spell_decimal (by decide) (by decide) n member
  · exact not_mem_spell_decimal (by decide) (by decide) n member
  · exact not_mem_spell_decimal (by decide) (by decide) n member

/-- A text is found again in front of anything. -/
theorem encodeText_append_inj {value value' rest rest' : Text}
    (same : encodeText value ++ rest = encodeText value' ++ rest') :
    value = value' ∧ rest = rest' := by
  unfold encodeText at same
  simp only [List.append_assoc, List.append_cancel_left_eq, List.cons_append] at same
  -- the length ends at the first colon, and says where the text ends
  have noColon : ∀ n : Int, ∀ letter ∈ spell (decimal n), ¬ letter = point ':' := by
    rintro n letter member rfl
    exact not_mem_spell_decimal (by decide) (by decide) n member
  have closed : ∀ rest, Delimited (fun letter => letter = point ':') (point ':' :: rest) :=
    fun rest => .cons (by rfl) rest
  obtain ⟨sameLength, tails⟩ :=
    append_inj_of_delimited (noColon _) (noColon _) (closed _) (closed _) same
  have lengths : value.length = value'.length :=
    Int.ofNat.inj (decimal_injective (spell_injective sameLength))
  exact List.append_inj (List.cons.inj tails).2 lengths

/-! ## Values and their parts -/

/-- Induction over a value, with every element of a sequence and every value of a mapping. -/
theorem Value.induct {P : Value F → Prop} (null : P .null) (bool : ∀ value, P (.bool value))
    (int : ∀ value, P (.int value)) (float : ∀ value, P (.float value))
    (str : ∀ value, P (.str value)) (seq : ∀ items, (∀ item ∈ items, P item) → P (.seq items))
    (map : ∀ entries, (∀ entry ∈ entries, P entry.2) → P (.map entries)) : ∀ value, P value
  | .null => null
  | .bool value => bool value
  | .int value => int value
  | .float value => float value
  | .str value => str value
  | .seq items => seq items fun item member =>
      have smaller : sizeOf item < sizeOf items := List.sizeOf_lt_of_mem member
      Value.induct null bool int float str seq map item
  | .map entries => map entries fun entry member =>
      have smaller : sizeOf entry < sizeOf entries := List.sizeOf_lt_of_mem member
      have part : sizeOf entry.2 < sizeOf entry := by
        cases entry
        simp only [Prod.mk.sizeOf_spec]
        omega
      Value.induct null bool int float str seq map entry.2
termination_by value => sizeOf value
decreasing_by
  · simp only [Value.seq.sizeOf_spec]
    omega
  · simp only [Value.map.sizeOf_spec]
    omega

theorem encodeAll_eq (repr : F → Text) (items : List (Value F)) :
    encodeAll repr items = items.map (encode repr) := by
  induction items with
  | nil => rfl
  | cons item items ih => rw [encodeAll, ih, List.map_cons]

theorem distinctAll_iff {items : List (Value F)} :
    distinctAll items ↔ ∀ item ∈ items, item.DistinctKeys := by
  induction items with
  | nil => simp [distinctAll]
  | cons item items ih => simp [distinctAll, ih]

theorem distinctEntries_iff {entries : List (Text × Value F)} :
    distinctEntries entries ↔ ∀ entry ∈ entries, entry.2.DistinctKeys := by
  induction entries with
  | nil => simp [distinctEntries]
  | cons entry entries ih => simp [distinctEntries, ih]

theorem sameAll_iff {items items' : List (Value F)} :
    sameAll items items' ↔ List.Forall₂ Value.Same items items' := by
  induction items generalizing items' with
  | nil => cases items' <;> simp [sameAll]
  | cons item items ih => cases items' <;> simp [sameAll, ih]

theorem sameEntries_iff {entries entries' : List (Text × Value F)} :
    sameEntries entries entries' ↔
      ∀ key item, (key, item) ∈ entries → ∃ item', (key, item') ∈ entries' ∧ item.Same item' := by
  induction entries with
  | nil => simp [sameEntries]
  | cons entry entries ih =>
      obtain ⟨key, item⟩ := entry
      rw [sameEntries, ih]
      constructor
      · rintro ⟨first, others⟩ key' item' member
        rcases List.mem_cons.mp member with isFirst | other
        · obtain ⟨rfl, rfl⟩ := Prod.mk.inj isFirst
          exact first
        · exact others key' item' other
      · intro all
        exact ⟨all key item List.mem_cons_self,
          fun key' item' member => all key' item' (List.mem_cons_of_mem _ member)⟩

theorem distinctKeys_seq {items : List (Value F)} :
    (Value.seq items).DistinctKeys ↔ ∀ item ∈ items, item.DistinctKeys :=
  distinctAll_iff

theorem distinctKeys_map {entries : List (Text × Value F)} :
    (Value.map entries).DistinctKeys ↔
      (entries.map Prod.fst).Nodup ∧ ∀ entry ∈ entries, entry.2.DistinctKeys :=
  and_congr_right' distinctEntries_iff

theorem same_seq {items items' : List (Value F)} :
    (Value.seq items).Same (.seq items') ↔ List.Forall₂ Value.Same items items' :=
  sameAll_iff

theorem same_map {entries entries' : List (Text × Value F)} :
    (Value.map entries).Same (.map entries') ↔
      (∀ key, key ∈ entries.map Prod.fst ↔ key ∈ entries'.map Prod.fst) ∧
        ∀ key item, (key, item) ∈ entries →
          ∃ item', (key, item') ∈ entries' ∧ item.Same item' :=
  and_congr_right' sameEntries_iff

theorem lookup_encodeEntries (repr : F → Text) (entries : List (Text × Value F)) (key : Text) :
    (encodeEntries repr entries).lookup key = (entries.lookup key).map (encode repr) := by
  induction entries with
  | nil => rfl
  | cons entry entries ih =>
      obtain ⟨first, item⟩ := entry
      rw [encodeEntries, List.lookup_cons, List.lookup_cons, ih]
      cases key == first <;> rfl

/-- Where no key is there twice, what is listed is what is looked up. -/
theorem lookup_eq_some_iff_mem {entries : List (Text × Value F)}
    (nodup : (entries.map Prod.fst).Nodup)
    {key : Text} {item : Value F} : entries.lookup key = some item ↔ (key, item) ∈ entries := by
  induction entries with
  | nil => simp
  | cons entry entries ih =>
      obtain ⟨first, other⟩ := entry
      obtain ⟨fresh, nodup'⟩ := List.nodup_cons.mp nodup
      by_cases same : key = first
      · subst same
        rw [List.lookup_cons_self, Option.some.injEq, List.mem_cons]
        refine ⟨fun isOther => .inl (isOther ▸ rfl), ?_⟩
        rintro (listed | later)
        · exact (Prod.mk.inj listed).2.symm
        · exact absurd (List.mem_map_of_mem later) fresh
      · have notFirst : (key == first) = false := by simpa using same
        rw [List.lookup_cons, notFirst, List.mem_cons]
        refine (ih nodup').trans ⟨.inr, ?_⟩
        rintro (listed | later)
        · exact absurd (Prod.mk.inj listed).1 same
        · exact later

/-- The letter a value's encoding begins with. -/
def Value.tag : Value F → Char
  | .null => 'n'
  | .bool _ => 'b'
  | .int _ => 'i'
  | .float _ => 'f'
  | .str _ => 's'
  | .seq _ => 'l'
  | .map _ => 'm'

theorem encode_begins (repr : F → Text) (value : Value F) :
    ∃ word, encode repr value = point value.tag :: word := by
  cases value with
  | null | bool | int | float | str | seq | map => exact ⟨_, rfl⟩

theorem tag_ne_close (value : Value F) : value.tag ≠ ']' ∧ value.tag ≠ '}' := by
  cases value <;> simp [Value.tag]

/-- The keys of a mapping in the order they are emitted in. -/
def sortedKeys (entries : List (Text × Value F)) : List Text :=
  (entries.map Prod.fst).insertionSort (· ≤ ·)

theorem mem_sortedKeys {entries : List (Text × Value F)} {key : Text} :
    key ∈ sortedKeys entries ↔ key ∈ entries.map Prod.fst :=
  List.mem_insertionSort _

/-- One emitted entry of a mapping. -/
def encodeEntry (repr : F → Text) (entries : List (Text × Value F)) (key : Text) : Text :=
  encodeText key ++ point '=' :: ((entries.lookup key).map (encode repr)).getD []

theorem encode_map (repr : F → Text) (entries : List (Text × Value F)) :
    encode repr (.map entries) = spell ['m', ':', '{'] ++
      (join (point ',') ((sortedKeys entries).map (encodeEntry repr entries)) ++ [point '}']) := by
  change spell ['m', ':', '{'] ++ _ = _
  simp only [lookup_encodeEntries]
  rfl

theorem encode_seq (repr : F → Text) (items : List (Value F)) :
    encode repr (.seq items) = spell ['l', ':', '['] ++
      (join (point ',') (items.map (encode repr)) ++ [point ']']) := by
  rw [← encodeAll_eq]
  rfl

/-! ## The encoding tells typed values apart -/

section Injective

variable {repr : F → Text} (injective : Function.Injective repr)
  (plain : ∀ value, ∀ letter ∈ repr value, ¬ Stops letter)

/-- A value is found again, up to the order of insertion, in front of nothing or a delimiter. -/
def FoundAgain (repr : F → Text) (value : Value F) : Prop :=
  value.DistinctKeys → ∀ value', value'.DistinctKeys → ∀ rest rest', Delimited Stops rest →
    Delimited Stops rest' → encode repr value ++ rest = encode repr value' ++ rest' →
      value.Same value' ∧ rest = rest'

theorem tag_eq_of_encode {value value' : Value F} {rest rest' : Text}
    (same : encode repr value ++ rest = encode repr value' ++ rest') : value.tag = value'.tag := by
  obtain ⟨word, spelled⟩ := encode_begins repr value
  obtain ⟨word', spelled'⟩ := encode_begins repr value'
  rw [spelled, spelled'] at same
  exact point_injective (List.cons.inj same).1

theorem foundAgain_seq {items : List (Value F)} (parts : ∀ item ∈ items, FoundAgain repr item) :
    FoundAgain repr (.seq items) := by
  intro distinct value' distinct' rest rest' closed closed' same
  have tags := tag_eq_of_encode same
  cases value' with
  | seq items' =>
      rw [distinctKeys_seq] at distinct distinct'
      rw [encode_seq, encode_seq] at same
      simp only [List.append_assoc, List.append_cancel_left_eq, List.singleton_append] at same
      have begins : ∀ item : Value F, ∃ letter word, encode repr item = letter :: word ∧
          letter ≠ point ']' := by
        intro item
        obtain ⟨word, spelled⟩ := encode_begins repr item
        exact ⟨_, word, spelled, fun isClose => (tag_ne_close item).1 (point_injective isClose)⟩
      have both : List.Forall₂ Value.Same items items' ∧ rest = rest' :=
        join_inj comma_stops bracket_stops (by decide) (fun item _ => begins item)
          (fun item _ => begins item) (fun item member item' member' => parts item member
            (distinct item member) item' (distinct' item' member')) same
      rw [same_seq]
      exact both
  | _ => exact absurd tags (by simp [Value.tag])

theorem foundAgain_map {entries : List (Text × Value F)}
    (parts : ∀ entry ∈ entries, FoundAgain repr entry.2) : FoundAgain repr (.map entries) := by
  intro distinct value' distinct' rest rest' closed closed' same
  have tags := tag_eq_of_encode same
  cases value' with
  | map entries' =>
      rw [distinctKeys_map] at distinct distinct'
      rw [encode_map, encode_map] at same
      simp only [List.append_assoc, List.append_cancel_left_eq, List.singleton_append] at same
      have begins : ∀ (entries : List (Text × Value F)) key, ∃ letter word,
          encodeEntry repr entries key = letter :: word ∧ letter ≠ point '}' :=
        fun entries key => ⟨_, _, rfl, by decide⟩
      have looked : ∀ {entries : List (Text × Value F)} {key}, (entries.map Prod.fst).Nodup →
          key ∈ sortedKeys entries → ∃ item, entries.lookup key = some item := by
        intro entries key nodup member
        obtain ⟨⟨_, item⟩, listed, rfl⟩ := List.mem_map.mp (mem_sortedKeys.mp member)
        exact ⟨item, (lookup_eq_some_iff_mem nodup).mpr listed⟩
      -- a key is found again before its value is
      have each : ∀ key ∈ sortedKeys entries, ∀ key' ∈ sortedKeys entries', ∀ rest rest',
          Delimited Stops rest → Delimited Stops rest' →
          encodeEntry repr entries key ++ rest = encodeEntry repr entries' key' ++ rest' →
          (key = key' ∧ ∃ item item', (key, item) ∈ entries ∧ (key, item') ∈ entries' ∧
            item.Same item') ∧ rest = rest' := by
        intro key member key' member' rest rest' closed closed' same
        obtain ⟨item, found⟩ := looked distinct.1 member
        obtain ⟨item', found'⟩ := looked distinct'.1 member'
        simp only [encodeEntry, found, found', Option.map_some, Option.getD_some,
          List.append_assoc, List.cons_append] at same
        obtain ⟨rfl, tails⟩ := encodeText_append_inj same
        have listed := (lookup_eq_some_iff_mem distinct.1).mp found
        have listed' := (lookup_eq_some_iff_mem distinct'.1).mp found'
        obtain ⟨sameItem, sameRest⟩ := parts _ listed (distinct.2 _ listed) item'
          (distinct'.2 _ listed') rest rest' closed closed' (List.cons.inj tails).2
        exact ⟨⟨rfl, item, item', listed, listed', sameItem⟩, sameRest⟩
      obtain ⟨all, sameRest⟩ := join_inj comma_stops brace_stops (by decide)
        (fun key _ => begins entries key) (fun key _ => begins entries' key) each same
      have sameKeys : sortedKeys entries = sortedKeys entries' :=
        List.forall₂_eq_eq_eq ▸ all.imp fun _ _ related => related.1
      rw [← sameKeys, List.forall₂_same] at all
      refine ⟨?_, sameRest⟩
      rw [same_map]
      refine ⟨fun key => by rw [← mem_sortedKeys, sameKeys, mem_sortedKeys], ?_⟩
      intro key item listed
      obtain ⟨_, item₁, item', listed₁, listed', sameItem⟩ :=
        all key (mem_sortedKeys.mpr (List.mem_map_of_mem listed))
      have isItem : some item = some item₁ :=
        ((lookup_eq_some_iff_mem distinct.1).mpr listed).symm.trans
        ((lookup_eq_some_iff_mem distinct.1).mpr listed₁)
      exact ⟨item', listed', Option.some.inj isItem ▸ sameItem⟩
  | _ => exact absurd tags (by simp [Value.tag])

include injective plain in
theorem foundAgain (value : Value F) : FoundAgain repr value := by
  induction value using Value.induct with
  | null =>
      intro _ value' _ rest rest' _ _ same
      have tags := tag_eq_of_encode same
      cases value' with
      | null => exact ⟨True.intro, List.append_cancel_left same⟩
      | _ => exact absurd tags (by simp [Value.tag])
  | bool value =>
      intro _ value' _ rest rest' _ _ same
      have tags := tag_eq_of_encode same
      cases value' with
      | bool other =>
          obtain ⟨words, sameRest⟩ := List.append_inj same (by cases value <;> cases other <;> rfl)
          have digit := List.cons.inj (List.cons.inj (List.cons.inj (spell_injective words)).2).2
          refine ⟨?_, sameRest⟩
          cases value <;> cases other <;> first | rfl | exact absurd digit.1 (by decide)
      | _ => exact absurd tags (by simp [Value.tag])
  | int value =>
      intro _ value' _ rest rest' closed closed' same
      have tags := tag_eq_of_encode same
      cases value' with
      | int other =>
          change spell ['i', ':'] ++ _ ++ _ = spell ['i', ':'] ++ _ ++ _ at same
          simp only [List.append_assoc, List.append_cancel_left_eq] at same
          obtain ⟨words, sameRest⟩ := append_inj_of_delimited (decimal_plain value)
            (decimal_plain other) closed closed' same
          exact ⟨decimal_injective (spell_injective words), sameRest⟩
      | _ => exact absurd tags (by simp [Value.tag])
  | float value =>
      intro _ value' _ rest rest' closed closed' same
      have tags := tag_eq_of_encode same
      cases value' with
      | float other =>
          change spell ['f', ':'] ++ _ ++ _ = spell ['f', ':'] ++ _ ++ _ at same
          simp only [List.append_assoc, List.append_cancel_left_eq] at same
          obtain ⟨words, sameRest⟩ := append_inj_of_delimited (plain value) (plain other) closed
            closed' same
          exact ⟨injective words, sameRest⟩
      | _ => exact absurd tags (by simp [Value.tag])
  | str value =>
      intro _ value' _ rest rest' _ _ same
      have tags := tag_eq_of_encode same
      cases value' with
      | str other =>
          exact encodeText_append_inj same
      | _ => exact absurd tags (by simp [Value.tag])
  | seq items parts => exact foundAgain_seq parts
  | map entries parts => exact foundAgain_map parts

end Injective

/-! ## The same value is encoded the same -/

theorem sortedKeys_eq {entries entries' : List (Text × Value F)}
    (distinct : (entries.map Prod.fst).Nodup) (distinct' : (entries'.map Prod.fst).Nodup)
    (keys : ∀ key, key ∈ entries.map Prod.fst ↔ key ∈ entries'.map Prod.fst) :
    sortedKeys entries = sortedKeys entries' := by
  have permuted : (entries.map Prod.fst).Perm (entries'.map Prod.fst) :=
    (List.perm_ext_iff_of_nodup distinct distinct').mpr keys
  have sorted : (sortedKeys entries).Perm (sortedKeys entries') :=
    (List.perm_insertionSort _ _).trans (permuted.trans (List.perm_insertionSort _ _).symm)
  exact sorted.eq_of_sortedLE List.sortedLE_insertionSort List.sortedLE_insertionSort

theorem encode_eq_of_same (repr : F → Text) (value : Value F) : value.DistinctKeys →
    ∀ value', value'.DistinctKeys → value.Same value' → encode repr value = encode repr value' := by
  induction value using Value.induct with
  | null | bool | int | float | str =>
      intro _ value' _ same
      cases value' <;> simp_all [Value.Same]
  | seq items parts =>
      intro distinct value' distinct' same
      cases value' with
      | seq items' =>
          rw [distinctKeys_seq] at distinct distinct'
          rw [same_seq] at same
          have words : items.map (encode repr) = items'.map (encode repr) :=
            map_eq_of_forall₂ same fun item member item' member' =>
              parts item member (distinct item member) item' (distinct' item' member')
          rw [encode_seq, encode_seq, words]
      | _ => exact (same : False).elim
  | map entries parts =>
      intro distinct value' distinct' same
      cases value' with
      | map entries' =>
          rw [distinctKeys_map] at distinct distinct'
          rw [same_map] at same
          have words : (sortedKeys entries').map (encodeEntry repr entries) =
              (sortedKeys entries').map (encodeEntry repr entries') := by
            refine List.map_congr_left fun key member => ?_
            obtain ⟨⟨_, item⟩, listed, rfl⟩ :=
              List.mem_map.mp ((same.1 key).mpr (mem_sortedKeys.mp member))
            obtain ⟨item', listed', sameItem⟩ := same.2 _ item listed
            have sameWord :=
              parts _ listed (distinct.2 _ listed) item' (distinct'.2 _ listed') sameItem
            rw [encodeEntry, encodeEntry, (lookup_eq_some_iff_mem distinct.1).mpr listed,
              (lookup_eq_some_iff_mem distinct'.1).mpr listed', Option.map_some, Option.map_some,
              sameWord]
          rw [encode_map, encode_map, sortedKeys_eq distinct.1 distinct'.1 same.1, words]
      | _ => exact (same : False).elim

/-! ## Typed values -/

/-- A value whose mappings are mappings. -/
structure TypedValue (F : Type) where
  value : Value F
  distinct : value.DistinctKeys

/-- The canonical typed encoding of a value. -/
def canonicalEncode (repr : F → Text) (typed : TypedValue F) : Text := encode repr typed.value

theorem encode_inj_iff {repr : F → Text} (injective : Function.Injective repr)
    (plain : ∀ value, ∀ letter ∈ repr value,
      letter ≠ point ',' ∧ letter ≠ point ']' ∧ letter ≠ point '}')
    {left right : Value F} (distinct : left.DistinctKeys) (distinct' : right.DistinctKeys) :
    encode repr left = encode repr right ↔ left.Same right := by
  constructor
  · intro same
    have plain' : ∀ value, ∀ letter ∈ repr value, ¬ Stops letter := by
      rintro value letter member (comma | bracket | brace)
      · exact (plain value letter member).1 comma
      · exact (plain value letter member).2.1 bracket
      · exact (plain value letter member).2.2 brace
    have found := foundAgain injective plain' left distinct right distinct' [] [] .nil .nil
    rw [List.append_nil, List.append_nil] at found
    exact (found same).1
  · exact encode_eq_of_same repr left distinct right distinct'

/-- Two values are encoded alike exactly when they are the same typed value. -/
theorem canonicalEncode_eq_iff (repr : F → Text) (injective : Function.Injective repr)
    (plain : ∀ value, ∀ letter ∈ repr value,
      letter ≠ point ',' ∧ letter ≠ point ']' ∧ letter ≠ point '}') (left right : TypedValue F) :
    canonicalEncode repr left = canonicalEncode repr right ↔ left.value.Same right.value :=
  encode_inj_iff injective plain left.distinct right.distinct

/-- How the whole floats below a thousand are printed. -/
def reprWhole (value : Fin 1000) : Text := spell (decimal value.val ++ ['.', '0'])

theorem reprWhole_injective : Function.Injective reprWhole := by
  intro left right same
  have digits := decimal_injective (List.append_cancel_right (spell_injective same))
  exact Fin.ext (Int.ofNat.inj digits)

theorem reprWhole_plain (value : Fin 1000) (letter : CodePoint)
    (member : letter ∈ reprWhole value) :
    letter ≠ point ',' ∧ letter ≠ point ']' ∧ letter ≠ point '}' := by
  unfold reprWhole spell at member
  rw [List.map_append, List.mem_append] at member
  have unstopped : ¬ Stops letter := by
    rcases member with digit | fraction
    · exact decimal_plain _ letter digit
    · rcases List.mem_cons.mp fraction with rfl | zero
      · unfold Stops
        decide
      · rw [List.map_singleton, List.mem_singleton] at zero
        subst zero
        unfold Stops
        decide
  unfold Stops at unstopped
  tauto

theorem canonicalEncode_eq_iff_inserted :
    canonicalEncode reprWhole ⟨.map [([point 'k'], .float 1), ([point 'l'], .int 1)], by
        simp [Value.DistinctKeys, distinctEntries, point]⟩ =
      canonicalEncode reprWhole ⟨.map [([point 'l'], .int 1), ([point 'k'], .float 1)], by
        simp [Value.DistinctKeys, distinctEntries, point]⟩ ∧
    canonicalEncode reprWhole ⟨.float 1, by simp [Value.DistinctKeys]⟩ ≠
      canonicalEncode reprWhole ⟨.int 1, by simp [Value.DistinctKeys]⟩ := by
  constructor
  · rw [canonicalEncode_eq_iff reprWhole reprWhole_injective reprWhole_plain]
    rw [Value.Same, sameEntries_iff]
    refine ⟨fun key => by simp [or_comm], ?_⟩
    intro key item member
    refine ⟨item, by simpa [or_comm] using member, ?_⟩
    rcases List.mem_cons.mp member with isFirst | second
    · rw [(Prod.mk.inj isFirst).2, Value.Same]
    · rw [(Prod.mk.inj (List.mem_singleton.mp second)).2, Value.Same]
  · intro same
    have sameValue :=
      (canonicalEncode_eq_iff reprWhole reprWhole_injective reprWhole_plain _ _).mp same
    rw [Value.Same] at sameValue
    · exact sameValue
    all_goals
      intros
      simp_all

end Xaytune.Core
