import Mathlib.Data.List.Forall2
import Mathlib.Tactic.FinCases
import Mathlib.Tactic.IntervalCases
import Std.Data.String.ToNat
import Xaytune.Library.Delimited

/-!
# JSON texts

A JSON value and the compact text that is written for it, with every letter behind ASCII escaped
or as it is. No text holds a newline, a text with escapes takes at least the bytes of the one
without, and a value without surrogates is found again in its text. An object lists its fields in
the order they are written in.
-/

namespace Xaytune.Library

/-- A string is a list of code points, surrogates among them. -/
inductive Json where
  | null
  | bool (value : Bool)
  | int (value : Int)
  | str (value : List (Fin 0x110000))
  | array (items : List Json)
  | object (fields : List (String × Json))

namespace Json

/-! ## Texts -/

/-- The letter behind the backslash of a letter with a short escape. -/
def shortEscape : Char → Option Char
  | '"' => some '"'
  | '\\' => some '\\'
  | '\n' => some 'n'
  | '\r' => some 'r'
  | '\t' => some 't'
  | '\x0c' => some 'f'
  | '\x08' => some 'b'
  | _ => none

/-- One escaped unit of sixteen bits. -/
def hexEscape (unit : Nat) : List Char :=
  ['\\', 'u', Nat.digitChar (unit / 4096 % 16), Nat.digitChar (unit / 256 % 16),
    Nat.digitChar (unit / 16 % 16), Nat.digitChar (unit % 16)]

/-- A code point as one escaped unit, or as a pair of surrogates. -/
def unicodeEscape (point : Nat) : List Char :=
  if point < 0x10000 then hexEscape point
  else hexEscape (0xd800 + (point - 0x10000) / 0x400) ++
    hexEscape (0xdc00 + (point - 0x10000) % 0x400)

def escape (ensureAscii : Bool) (letter : Char) : List Char :=
  match shortEscape letter with
  | some short => ['\\', short]
  | none =>
      if letter.toNat < 32 ∨ ensureAscii = true ∧ 126 < letter.toNat then
        unicodeEscape letter.toNat
      else [letter]

/-- The letter at a code point: there is none at a surrogate. -/
def letterAt (point : Fin 0x110000) : Option Char :=
  if valid : point.val.isValidChar then some (Char.ofNatAux point.val valid) else none

/-- A surrogate is escaped. Unescaped it has no bytes, and no text with it is written. -/
def escapePoint (ensureAscii : Bool) (point : Fin 0x110000) : List Char :=
  match letterAt point with
  | some letter => escape ensureAscii letter
  | none => hexEscape point.val

def quote (ensureAscii : Bool) (text : List (Fin 0x110000)) : List Char :=
  '"' :: (text.flatMap (escapePoint ensureAscii) ++ ['"'])

theorem toNat_isPoint (letter : Char) : letter.toNat < 0x110000 := by
  have valid := letter.valid
  unfold UInt32.isValidChar Nat.isValidChar at valid
  unfold Char.toNat
  omega

def pointOf (letter : Char) : Fin 0x110000 := ⟨letter.toNat, toNat_isPoint letter⟩

/-- The code points of a text without surrogates. -/
def points (text : String) : List (Fin 0x110000) := text.toList.map pointOf

mutual

/-- The text of a value, without a blank. -/
def dumps (ensureAscii : Bool) : Json → List Char
  | .null => ['n', 'u', 'l', 'l']
  | .bool value => if value then ['t', 'r', 'u', 'e'] else ['f', 'a', 'l', 's', 'e']
  | .int value => value.repr.toList
  | .str text => quote ensureAscii text
  | .array items => '[' :: (join ',' (dumpItems ensureAscii items) ++ [']'])
  | .object fields => '\x7b' :: (join ',' (dumpFields ensureAscii fields) ++ ['\x7d'])

def dumpItems (ensureAscii : Bool) : List Json → List (List Char)
  | [] => []
  | item :: items => dumps ensureAscii item :: dumpItems ensureAscii items

def dumpFields (ensureAscii : Bool) : List (String × Json) → List (List Char)
  | [] => []
  | (key, value) :: fields =>
      (quote ensureAscii (points key) ++ ':' :: dumps ensureAscii value) ::
        dumpFields ensureAscii fields

end

/-- Induction over a value, with every item of an array and every value of an object. -/
theorem induct {P : Json → Prop} (null : P .null) (bool : ∀ value, P (.bool value))
    (int : ∀ value, P (.int value)) (str : ∀ value, P (.str value))
    (array : ∀ items, (∀ item ∈ items, P item) → P (.array items))
    (object : ∀ fields, (∀ field ∈ fields, P field.2) → P (.object fields)) : ∀ value, P value
  | .null => null
  | .bool value => bool value
  | .int value => int value
  | .str value => str value
  | .array items => array items fun item member =>
      have smaller : sizeOf item < sizeOf items := List.sizeOf_lt_of_mem member
      induct null bool int str array object item
  | .object fields => object fields fun field member =>
      have smaller : sizeOf field < sizeOf fields := List.sizeOf_lt_of_mem member
      have part : sizeOf field.2 < sizeOf field := by
        cases field
        simp only [Prod.mk.sizeOf_spec]
        omega
      induct null bool int str array object field.2
termination_by value => sizeOf value
decreasing_by
  · simp only [Json.array.sizeOf_spec]
    omega
  · simp only [Json.object.sizeOf_spec]
    omega

/-- The text of one field of an object. -/
def dumpField (ensureAscii : Bool) (field : String × Json) : List Char :=
  quote ensureAscii (points field.1) ++ ':' :: dumps ensureAscii field.2

section

variable {ensureAscii ensureAscii' : Bool}

theorem dumpItems_eq (items : List Json) :
    dumpItems ensureAscii items = items.map (dumps ensureAscii) := by
  induction items with
  | nil => rfl
  | cons item items ih => rw [dumpItems, ih, List.map_cons]

theorem dumpFields_eq (fields : List (String × Json)) :
    dumpFields ensureAscii fields = fields.map (dumpField ensureAscii) := by
  induction fields with
  | nil => rfl
  | cons field fields ih => rw [dumpFields, ih, List.map_cons, dumpField]

theorem dumps_array (items : List Json) : dumps ensureAscii (.array items) =
    '[' :: (join ',' (items.map (dumps ensureAscii)) ++ [']']) := by
  rw [dumps, dumpItems_eq]

theorem dumps_object (fields : List (String × Json)) : dumps ensureAscii (.object fields) =
    '\x7b' :: (join ',' (fields.map (dumpField ensureAscii)) ++ ['\x7d']) := by
  rw [dumps, dumpFields_eq]

/-! ## Letters -/

theorem mem_join {γ : Type} {separator letter : γ} {words : List (List γ)}
    (member : letter ∈ join separator words) :
    letter = separator ∨ ∃ word ∈ words, letter ∈ word := by
  have tail : ∀ words : List (List γ), letter ∈ joinTail separator words →
      letter = separator ∨ ∃ word ∈ words, letter ∈ word := by
    intro words
    induction words with
    | nil => exact fun inside => absurd inside List.not_mem_nil
    | cons word words ih =>
        intro inside
        rcases List.mem_cons.mp inside with isSeparator | later
        · exact .inl isSeparator
        · rcases List.mem_append.mp later with first | others
          · exact .inr ⟨word, List.mem_cons_self, first⟩
          · refine (ih others).imp_right fun ⟨other, isOther, inOther⟩ => ?_
            exact ⟨other, List.mem_cons_of_mem _ isOther, inOther⟩
  cases words with
  | nil => exact absurd member List.not_mem_nil
  | cons word words =>
      rcases List.mem_append.mp member with first | others
      · exact .inr ⟨word, List.mem_cons_self, first⟩
      · refine (tail words others).imp_right fun ⟨other, isOther, inOther⟩ => ?_
        exact ⟨other, List.mem_cons_of_mem _ isOther, inOther⟩

/-- A letter that is no control letter. -/
def Shown (letter : Char) : Prop := 32 ≤ letter.toNat

instance (letter : Char) : Decidable (Shown letter) := inferInstanceAs (Decidable (_ ≤ _))

theorem digitChar_shown {digit : Nat} (small : digit < 16) : Shown (Nat.digitChar digit) := by
  interval_cases digit <;> decide

theorem hexEscape_shown {unit : Nat} {letter : Char} (member : letter ∈ hexEscape unit) :
    Shown letter := by
  simp only [hexEscape, List.mem_cons, List.not_mem_nil, or_false] at member
  rcases member with rfl | rfl | rfl | rfl | rfl | rfl
  · decide
  · decide
  all_goals exact digitChar_shown (Nat.mod_lt _ (by decide))

theorem escape_shown {letter shown : Char} (member : shown ∈ escape ensureAscii letter) :
    Shown shown := by
  unfold escape at member
  cases short : shortEscape letter with
  | some behind =>
      simp only [short, List.mem_cons, List.not_mem_nil, or_false] at member
      unfold shortEscape at short
      rcases member with rfl | rfl
      · decide
      · split at short <;> cases short <;> decide
  | none =>
      simp only [short] at member
      split_ifs at member with escaped
      · unfold unicodeEscape at member
        split_ifs at member
        · exact hexEscape_shown member
        · exact (List.mem_append.mp member).elim hexEscape_shown hexEscape_shown
      · rw [List.mem_singleton.mp member]
        exact not_lt.mp fun control => escaped (.inl control)

theorem quote_shown {text : List (Fin 0x110000)} {letter : Char}
    (member : letter ∈ quote ensureAscii text) : Shown letter := by
  rcases List.mem_cons.mp member with rfl | behind
  · decide
  · rcases List.mem_append.mp behind with inside | last
    · obtain ⟨source, _, isEscape⟩ := List.mem_flatMap.mp inside
      unfold escapePoint at isEscape
      split at isEscape
      · exact escape_shown isEscape
      · exact hexEscape_shown isEscape
    · rw [List.mem_singleton.mp last]
      decide

theorem repr_letter {value : Int} {letter : Char} (member : letter ∈ value.repr.toList) :
    letter = '-' ∨ letter.isDigit = true := by
  cases value with
  | ofNat n =>
      rw [Int.repr, Nat.toList_repr] at member
      exact .inr (Nat.isDigit_of_mem_toDigits (by decide) (by decide) member)
  | negSucc n =>
      rw [Int.repr, String.toList_append, Nat.toList_repr] at member
      rcases List.mem_append.mp member with sign | digit
      · exact .inl (List.mem_singleton.mp sign)
      · exact .inr (Nat.isDigit_of_mem_toDigits (by decide) (by decide) digit)

/-- What a test finds of every letter. -/
theorem every {P : Char → Prop} [DecidablePred P] {letters : List Char}
    (all : (letters.all fun letter => decide (P letter)) = true) :
    ∀ letter ∈ letters, P letter := by
  intro letter member
  exact of_decide_eq_true (List.all_eq_true.mp all letter member)

/-- No text holds a control letter. -/
theorem dumps_shown (value : Json) : ∀ letter ∈ dumps ensureAscii value, Shown letter := by
  induction value using induct with
  | null =>
      rw [dumps]
      exact every (by decide)
  | bool value =>
      rw [dumps]
      cases value with
      | true => exact every (by decide)
      | false => exact every (by decide)
  | int value =>
      intro letter member
      rcases repr_letter member with rfl | isDigit
      · decide
      · simp only [Char.isDigit, Bool.and_eq_true, decide_eq_true_eq] at isDigit
        exact le_trans (by decide) (UInt32.le_iff_toNat_le.mp isDigit.1)
  | str value => exact fun letter member => quote_shown member
  | array items ih =>
      intro letter member
      rw [dumps_array] at member
      rcases List.mem_cons.mp member with rfl | behind
      · decide
      · rcases List.mem_append.mp behind with inside | last
        · rcases mem_join inside with rfl | ⟨word, isWord, inWord⟩
          · decide
          · obtain ⟨item, isItem, rfl⟩ := List.mem_map.mp isWord
            exact ih item isItem letter inWord
        · rw [List.mem_singleton.mp last]
          decide
  | object fields ih =>
      intro letter member
      rw [dumps_object] at member
      rcases List.mem_cons.mp member with rfl | behind
      · decide
      · rcases List.mem_append.mp behind with inside | last
        · rcases mem_join inside with rfl | ⟨word, isWord, inWord⟩
          · decide
          · obtain ⟨field, isField, rfl⟩ := List.mem_map.mp isWord
            rcases List.mem_append.mp inWord with key | rest
            · exact quote_shown key
            · rcases List.mem_cons.mp rest with rfl | inValue
              · decide
              · exact ih field isField letter inValue
        · rw [List.mem_singleton.mp last]
          decide

/-! ## Bytes -/

/-- The UTF-8 bytes of some letters. -/
def utf8 (letters : List Char) : List UInt8 := letters.flatMap String.utf8EncodeChar

theorem utf8_append (first second : List Char) :
    utf8 (first ++ second) = utf8 first ++ utf8 second := List.flatMap_append

theorem utf8_injective : Function.Injective utf8 := by
  intro first second same
  refine String.ofList_injective (String.toByteArray_inj.mp ?_)
  exact congrArg List.toByteArray same

theorem eq_newline_of_mem_utf8EncodeChar {letter : Char}
    (member : (10 : UInt8) ∈ String.utf8EncodeChar letter) : letter = '\n' := by
  have value : ∀ {n : Nat}, n < 256 → (10 : UInt8) = UInt8.ofNat n → n = 10 := by
    intro n small same
    have values := congrArg UInt8.toNat same
    have ten : (10 : UInt8).toNat = 10 := rfl
    rw [UInt8.toNat_ofNat', ten] at values
    omega
  have high : ∀ {n : Nat}, n < 256 → 10 < n → (10 : UInt8) ≠ UInt8.ofNat n := by
    intro n small large same
    have isTen := value small same
    omega
  unfold String.utf8EncodeChar at member
  simp only at member
  -- a byte of a longer code is at least 128
  split_ifs at member with one two three
  · exact Char.ext (UInt32.toNat_inj.mp (value (by omega) (List.mem_singleton.mp member)))
  · simp only [List.mem_cons, List.not_mem_nil, or_false] at member
    rcases member with same | same <;> exact absurd same (high (by omega) (by omega))
  · simp only [List.mem_cons, List.not_mem_nil, or_false] at member
    rcases member with same | same | same <;> exact absurd same (high (by omega) (by omega))
  · simp only [List.mem_cons, List.not_mem_nil, or_false] at member
    rcases member with same | same | same | same <;>
      exact absurd same (high (by omega) (by omega))

/-- The bytes of a text hold no newline. -/
theorem newline_notMem_dumps (value : Json) : (10 : UInt8) ∉ utf8 (dumps ensureAscii value) := by
  intro member
  obtain ⟨letter, inText, inLetter⟩ := List.mem_flatMap.mp member
  have shown := dumps_shown value letter inText
  rw [eq_newline_of_mem_utf8EncodeChar inLetter] at shown
  exact absurd shown (by decide)

/-- A text takes no more bytes than another. -/
def NoLonger (first second : List Char) : Prop := (utf8 first).length ≤ (utf8 second).length

theorem NoLonger.refl (letters : List Char) : NoLonger letters letters := Nat.le_refl _

theorem NoLonger.append {first second first' second' : List Char} (left : NoLonger first first')
    (right : NoLonger second second') : NoLonger (first ++ second) (first' ++ second') := by
  unfold NoLonger at left right ⊢
  rw [utf8_append, utf8_append, List.length_append, List.length_append]
  omega

theorem NoLonger.cons {first second : List Char} (letter : Char) (rest : NoLonger first second) :
    NoLonger (letter :: first) (letter :: second) :=
  NoLonger.append (.refl [letter]) rest

theorem NoLonger.flatMap {α : Type} {first second : α → List Char}
    (each : ∀ item, NoLonger (first item) (second item)) (items : List α) :
    NoLonger (items.flatMap first) (items.flatMap second) := by
  induction items with
  | nil => exact .refl _
  | cons item items ih => exact (each item).append ih

theorem NoLonger.join {α : Type} {first second : α → List Char} (separator : Char) {items : List α}
    (each : ∀ item ∈ items, NoLonger (first item) (second item)) :
    NoLonger (join separator (items.map first)) (join separator (items.map second)) := by
  have tail : ∀ items : List α, (∀ item ∈ items, NoLonger (first item) (second item)) →
      NoLonger (joinTail separator (items.map first)) (joinTail separator (items.map second)) := by
    intro items
    induction items with
    | nil => exact fun _ => .refl _
    | cons item items ih =>
        intro each
        exact ((each item List.mem_cons_self).append
          (ih fun other member => each other (List.mem_cons_of_mem _ member))).cons separator
  cases items with
  | nil => exact .refl _
  | cons item items =>
      exact (each item List.mem_cons_self).append
        (tail items fun other member => each other (List.mem_cons_of_mem _ member))

theorem hexEscape_length (unit : Nat) : 6 ≤ (utf8 (hexEscape unit)).length := by
  have one : ∀ letter : Char, 1 ≤ (String.utf8EncodeChar letter).length := by
    intro letter
    rw [String.length_utf8EncodeChar]
    exact letter.utf8Size_pos
  simp only [utf8, hexEscape, List.flatMap_cons, List.flatMap_nil, List.length_append,
    List.length_nil]
  have first := one '\\'
  have second := one 'u'
  have third := one (Nat.digitChar (unit / 4096 % 16))
  have fourth := one (Nat.digitChar (unit / 256 % 16))
  have fifth := one (Nat.digitChar (unit / 16 % 16))
  have sixth := one (Nat.digitChar (unit % 16))
  omega

/-- A letter as it is takes no more bytes than its escape. -/
theorem escape_noLonger (letter : Char) : NoLonger (escape false letter) (escape true letter) := by
  unfold escape
  cases shortEscape letter with
  | some behind => exact .refl _
  | none =>
      by_cases control : letter.toNat < 32
      · simp only [control, true_or, if_true]
        exact .refl _
      · by_cases wide : 126 < letter.toNat
        · simp only [control, wide, false_or, Bool.false_eq_true, false_and, if_false, true_and,
            if_true]
          have narrow := letter.utf8Size_le_four
          unfold NoLonger unicodeEscape
          rw [show utf8 [letter] = String.utf8EncodeChar letter from List.append_nil _,
            String.length_utf8EncodeChar]
          split_ifs
          · have long := hexEscape_length letter.toNat
            omega
          · have long := hexEscape_length (0xd800 + (letter.toNat - 0x10000) / 0x400)
            rw [utf8_append, List.length_append]
            omega
        · simp only [control, wide, false_or, and_false, if_false]
          exact .refl _

theorem escapePoint_noLonger (point : Fin 0x110000) :
    NoLonger (escapePoint false point) (escapePoint true point) := by
  unfold escapePoint
  cases letterAt point with
  | some letter => exact escape_noLonger letter
  | none => exact .refl _

theorem quote_noLonger (text : List (Fin 0x110000)) :
    NoLonger (quote false text) (quote true text) :=
  ((NoLonger.flatMap escapePoint_noLonger _).append (.refl _)).cons '"'

/-- A text without escapes takes no more bytes than the one with them. -/
theorem dumps_noLonger (value : Json) : NoLonger (dumps false value) (dumps true value) := by
  induction value using induct with
  | null => exact .refl _
  | bool value => exact .refl _
  | int value => exact .refl _
  | str value =>
      rw [dumps, dumps]
      exact quote_noLonger value
  | array items ih =>
      rw [dumps_array, dumps_array]
      exact ((NoLonger.join ',' ih).append (.refl _)).cons '['
  | object fields ih =>
      rw [dumps_object, dumps_object]
      refine ((NoLonger.join ',' fun field member => ?_).append (.refl _)).cons '\x7b'
      exact (quote_noLonger _).append ((ih field member).cons ':')

/-! ## A value is found again in its text -/

theorem letterAt_pointOf (letter : Char) : letterAt (pointOf letter) = some letter := by
  have valid : (pointOf letter).val.isValidChar := letter.valid
  rw [letterAt, dif_pos valid]
  exact congrArg some (Char.toNat_inj.mp rfl)

theorem points_injective : Function.Injective points := by
  intro first second same
  have letters : Function.Injective pointOf := by
    intro letter other same
    have found := congrArg letterAt same
    rw [letterAt_pointOf, letterAt_pointOf] at found
    exact Option.some.inj found
  exact String.toList_inj.mp (letters.list_map same)

/-- Every code point of a text is a letter. -/
def Spelled (text : List (Fin 0x110000)) : Prop := ∀ point ∈ text, (letterAt point).isSome = true

theorem spelled_points (text : String) : Spelled (points text) := by
  intro point member
  obtain ⟨letter, _, rfl⟩ := List.mem_map.mp member
  rw [letterAt_pointOf]
  rfl

theorem Spelled.eq_points {text : List (Fin 0x110000)} (spelled : Spelled text) :
    ∃ letters, text = points letters := by
  have each : ∃ letters : List Char, letters.map pointOf = text := by
    induction text with
    | nil => exact ⟨[], rfl⟩
    | cons point text ih =>
        obtain ⟨first, rest⟩ := List.forall_mem_cons.mp spelled
        obtain ⟨letters, rfl⟩ := ih rest
        obtain ⟨letter, isLetter⟩ := Option.isSome_iff_exists.mp first
        refine ⟨letter :: letters, congrArg (· :: _) (Fin.ext ?_)⟩
        by_cases valid : point.val.isValidChar
        · rw [letterAt, dif_pos valid] at isLetter
          obtain rfl := Option.some.inj isLetter
          rfl
        · rw [letterAt, dif_neg valid] at isLetter
          cases isLetter
  obtain ⟨letters, rfl⟩ := each
  exact ⟨String.ofList letters, by rw [points, String.toList_ofList]⟩

/-- The letters of a text, if it has no surrogate. -/
def spelling (text : List (Fin 0x110000)) : Option String := (text.mapM letterAt).map String.ofList

theorem spelling_points (text : String) : spelling (points text) = some text := by
  have each : ∀ letters : List Char, (letters.map pointOf).mapM letterAt = some letters := by
    intro letters
    induction letters with
    | nil => rfl
    | cons letter letters ih =>
        rw [List.map_cons, List.mapM_cons, letterAt_pointOf, ih]
        rfl
  rw [spelling, points, each, Option.map_some, String.ofList_toList]

/-- No string of a value holds a surrogate. -/
inductive Unicode : Json → Prop
  | null : Unicode .null
  | bool (value : Bool) : Unicode (.bool value)
  | int (value : Int) : Unicode (.int value)
  | str {value : List (Fin 0x110000)} (spelled : Spelled value) : Unicode (.str value)
  | array {items : List Json} (each : ∀ item ∈ items, Unicode item) : Unicode (.array items)
  | object {fields : List (String × Json)} (each : ∀ field ∈ fields, Unicode field.2) :
      Unicode (.object fields)

theorem quote_points (text : String) : quote ensureAscii (points text) =
    '"' :: (text.toList.flatMap (escape ensureAscii) ++ ['"']) := by
  have each : ∀ letter, escapePoint ensureAscii (pointOf letter) = escape ensureAscii letter := by
    intro letter
    rw [escapePoint, letterAt_pointOf]
  rw [quote, points, List.flatMap_map]
  simp only [each]

theorem digitChar_inj {m n : Nat} (small : m < 16) (small' : n < 16)
    (same : Nat.digitChar m = Nat.digitChar n) : m = n := by
  have all : ∀ m < 16, ∀ n < 16, Nat.digitChar m = Nat.digitChar n → m = n := by decide
  exact all m small n small' same

theorem hexEscape_append_inj {m n : Nat} (small : m < 0x10000) (small' : n < 0x10000)
    {rest rest' : List Char} (same : hexEscape m ++ rest = hexEscape n ++ rest') :
    m = n ∧ rest = rest' := by
  simp only [hexEscape, List.cons_append, List.nil_append, List.cons.injEq, true_and] at same
  obtain ⟨first, second, third, fourth, rests⟩ := same
  have first := digitChar_inj (Nat.mod_lt _ (by decide)) (Nat.mod_lt _ (by decide)) first
  have second := digitChar_inj (Nat.mod_lt _ (by decide)) (Nat.mod_lt _ (by decide)) second
  have third := digitChar_inj (Nat.mod_lt _ (by decide)) (Nat.mod_lt _ (by decide)) third
  have fourth := digitChar_inj (Nat.mod_lt _ (by decide)) (Nat.mod_lt _ (by decide)) fourth
  exact ⟨by omega, rests⟩

/-- A letter is no surrogate. -/
theorem letter_bounds (letter : Char) :
    letter.toNat < 0xd800 ∨ 0xdfff < letter.toNat ∧ letter.toNat < 0x110000 := by
  have valid := letter.valid
  unfold UInt32.isValidChar Nat.isValidChar at valid
  exact valid

theorem unicodeEscape_append_inj {letter other : Char} {rest rest' : List Char}
    (same : unicodeEscape letter.toNat ++ rest = unicodeEscape other.toNat ++ rest') :
    letter = other ∧ rest = rest' := by
  have bounds := letter_bounds letter
  have bounds' := letter_bounds other
  have sameLetter : ∀ {m n : Nat}, m = n → m = letter.toNat → n = other.toNat → letter = other :=
    fun values first second => Char.toNat_inj.mp (first.symm.trans (values.trans second))
  unfold unicodeEscape at same
  by_cases short : letter.toNat < 0x10000
  · by_cases short' : other.toNat < 0x10000
    · rw [if_pos short, if_pos short'] at same
      obtain ⟨values, rests⟩ := hexEscape_append_inj short short' same
      exact ⟨sameLetter values rfl rfl, rests⟩
    · -- a unit of its own is no surrogate
      rw [if_pos short, if_neg short', List.append_assoc] at same
      have values := (hexEscape_append_inj short (by omega) same).1
      omega
  · by_cases short' : other.toNat < 0x10000
    · rw [if_neg short, if_pos short', List.append_assoc] at same
      have values := (hexEscape_append_inj (by omega) short' same).1
      omega
    · rw [if_neg short, if_neg short', List.append_assoc, List.append_assoc] at same
      obtain ⟨highs, behind⟩ := hexEscape_append_inj (by omega) (by omega) same
      obtain ⟨lows, rests⟩ := hexEscape_append_inj (by omega) (by omega) behind
      have values : letter.toNat = other.toNat := by omega
      exact ⟨sameLetter values rfl rfl, rests⟩

/-- What stands behind a backslash. -/
theorem shortEscape_spec {letter behind : Char} (short : shortEscape letter = some behind) :
    behind ≠ 'u' ∧ ∀ other, shortEscape other = some behind → other = letter := by
  unfold shortEscape at short
  split at short <;> cases short <;> refine ⟨by decide, fun other isShort => ?_⟩ <;>
    · unfold shortEscape at isShort
      split at isShort <;> simp_all

theorem shortEscape_none {letter : Char} (plain : shortEscape letter = none) :
    letter ≠ '"' ∧ letter ≠ '\\' := by
  constructor
  · rintro rfl
    cases plain
  · rintro rfl
    cases plain

/-- A letter is escaped behind a backslash by one letter or by its units, or stands as it is. -/
theorem escape_cases (ensureAscii : Bool) (letter : Char) :
    (∃ behind, shortEscape letter = some behind ∧ escape ensureAscii letter = ['\\', behind]) ∨
      escape ensureAscii letter = unicodeEscape letter.toNat ∨
      letter ≠ '"' ∧ letter ≠ '\\' ∧ escape ensureAscii letter = [letter] := by
  unfold escape
  cases short : shortEscape letter with
  | some behind => exact .inl ⟨behind, rfl, rfl⟩
  | none =>
      obtain ⟨noQuote, noBackslash⟩ := shortEscape_none short
      by_cases escaped : letter.toNat < 32 ∨ ensureAscii = true ∧ 126 < letter.toNat
      · exact .inr (.inl (if_pos escaped))
      · exact .inr (.inr ⟨noQuote, noBackslash, if_neg escaped⟩)

theorem unicodeEscape_begins (point : Nat) :
    ∃ rest, unicodeEscape point = '\\' :: 'u' :: rest := by
  unfold unicodeEscape
  split_ifs
  · exact ⟨_, rfl⟩
  · exact ⟨_, rfl⟩

theorem escape_append_inj {letter other : Char} {rest rest' : List Char}
    (same : escape ensureAscii letter ++ rest = escape ensureAscii' other ++ rest') :
    letter = other ∧ rest = rest' := by
  rcases escape_cases ensureAscii letter with ⟨behind, short, isShort⟩ | units | ⟨_, plain, isPlain⟩
  · rcases escape_cases ensureAscii' other with ⟨behind', short', isShort'⟩ | units' |
      ⟨_, plain', isPlain'⟩
    · rw [isShort, isShort'] at same
      simp only [List.cons_append, List.nil_append, List.cons.injEq, true_and] at same
      obtain ⟨rfl, rests⟩ := same
      exact ⟨(shortEscape_spec short').2 letter short, rests⟩
    · obtain ⟨word, begins⟩ := unicodeEscape_begins other.toNat
      rw [isShort, units', begins] at same
      simp only [List.cons_append, List.nil_append, List.cons.injEq, true_and] at same
      exact absurd same.1 (shortEscape_spec short).1
    · rw [isShort, isPlain'] at same
      exact absurd (List.cons.inj same).1.symm plain'
  · obtain ⟨word, begins⟩ := unicodeEscape_begins letter.toNat
    rcases escape_cases ensureAscii' other with ⟨behind', short', isShort'⟩ | units' |
      ⟨_, plain', isPlain'⟩
    · rw [isShort', units, begins] at same
      simp only [List.cons_append, List.nil_append, List.cons.injEq, true_and] at same
      exact absurd same.1.symm (shortEscape_spec short').1
    · rw [units, units'] at same
      exact unicodeEscape_append_inj same
    · rw [units, begins, isPlain'] at same
      exact absurd (List.cons.inj same).1.symm plain'
  · rcases escape_cases ensureAscii' other with ⟨behind', short', isShort'⟩ | units' |
      ⟨_, plain', isPlain'⟩
    · rw [isPlain, isShort'] at same
      exact absurd (List.cons.inj same).1 plain
    · obtain ⟨word, begins⟩ := unicodeEscape_begins other.toNat
      rw [isPlain, units', begins] at same
      exact absurd (List.cons.inj same).1 plain
    · rw [isPlain, isPlain'] at same
      exact List.cons.inj same

/-- No escape begins as the end of a quotation. -/
theorem escape_ne_quote (letter : Char) (word rest : List Char) :
    escape ensureAscii letter ++ word ≠ '"' :: rest := by
  intro same
  rcases escape_cases ensureAscii letter with ⟨behind, _, isShort⟩ | units | ⟨noQuote, _, isPlain⟩
  · rw [isShort] at same
    exact absurd (List.cons.inj same).1 (by decide)
  · obtain ⟨_, begins⟩ := unicodeEscape_begins letter.toNat
    rw [units, begins] at same
    exact absurd (List.cons.inj same).1 (by decide)
  · rw [isPlain] at same
    exact noQuote (List.cons.inj same).1

theorem escapes_append_inj {letters others rest rest' : List Char}
    (same : letters.flatMap (escape ensureAscii) ++ '"' :: rest =
      others.flatMap (escape ensureAscii') ++ '"' :: rest') : letters = others ∧ rest = rest' := by
  induction letters generalizing others with
  | nil =>
      cases others with
      | nil => exact ⟨rfl, (List.cons.inj same).2⟩
      | cons other others =>
          rw [List.flatMap_cons, List.append_assoc] at same
          exact absurd same.symm (escape_ne_quote other _ _)
  | cons letter letters ih =>
      cases others with
      | nil =>
          rw [List.flatMap_cons, List.append_assoc] at same
          exact absurd same (escape_ne_quote letter _ _)
      | cons other others =>
          rw [List.flatMap_cons, List.flatMap_cons, List.append_assoc, List.append_assoc] at same
          obtain ⟨rfl, behind⟩ := escape_append_inj same
          obtain ⟨rfl, rests⟩ := ih behind
          exact ⟨rfl, rests⟩

theorem quote_append_inj {text other : List (Fin 0x110000)} {rest rest' : List Char}
    (spelled : Spelled text) (spelled' : Spelled other)
    (same : quote ensureAscii text ++ rest = quote ensureAscii' other ++ rest') :
    text = other ∧ rest = rest' := by
  obtain ⟨text, rfl⟩ := spelled.eq_points
  obtain ⟨other, rfl⟩ := spelled'.eq_points
  rw [quote_points, quote_points, List.cons_append, List.cons_append, List.append_assoc,
    List.append_assoc] at same
  obtain ⟨letters, rests⟩ := escapes_append_inj (List.cons.inj same).2
  exact ⟨congrArg points (String.toList_inj.mp letters), rests⟩

theorem repr_injective : Function.Injective fun value : Int => value.repr.toList := by
  have unsigned : ∀ m n : Nat, m.repr.toList ≠ "-".toList ++ n.repr.toList := by
    intro m n same
    have sign : '-' ∈ m.repr.toList := by
      rw [same]
      exact List.mem_append_left _ (by decide)
    rw [Nat.toList_repr] at sign
    exact absurd (Nat.isDigit_of_mem_toDigits (by decide) (by decide) sign) (by decide)
  intro left right same
  cases left with
  | ofNat m =>
      cases right with
      | ofNat n => exact congrArg Int.ofNat (Nat.repr_injective (String.toList_inj.mp same))
      | negSucc n =>
          refine absurd ?_ (unsigned m (n + 1))
          rw [← String.toList_append]
          exact same
  | negSucc m =>
      cases right with
      | ofNat n =>
          refine absurd ?_ (unsigned n (m + 1))
          rw [← String.toList_append]
          exact same.symm
      | negSucc n =>
          simp only [Int.repr, String.toList_append, List.append_cancel_left_eq] at same
          have values := Nat.repr_injective (String.toList_inj.mp same)
          exact congrArg Int.negSucc (Nat.succ.inj values)

/-- What ends a value inside an array or an object. -/
def Stops (letter : Char) : Prop := letter = ',' ∨ letter = ']' ∨ letter = '\x7d'

theorem repr_plain {value : Int} {letter : Char} (member : letter ∈ value.repr.toList) :
    ¬ Stops letter := by
  rintro (rfl | rfl | rfl)
  all_goals
    rcases repr_letter member with isSign | isDigit
    · exact absurd isSign (by decide)
    · exact absurd isDigit (by decide)

inductive Shape where
  | null | bool | int | str | array | object

def shape : Json → Shape
  | .null => .null
  | .bool _ => .bool
  | .int _ => .int
  | .str _ => .str
  | .array _ => .array
  | .object _ => .object

/-- The shape of the value that a letter begins. -/
def shapeOf : Char → Option Shape
  | 'n' => some .null
  | 't' => some .bool
  | 'f' => some .bool
  | '"' => some .str
  | '[' => some .array
  | '\x7b' => some .object
  | ']' => none
  | '\x7d' => none
  | _ => some .int

theorem shapeOf_digit {letter : Char} (isDigit : letter.isDigit = true) :
    shapeOf letter = some .int := by
  unfold shapeOf
  split <;> first | rfl | cases isDigit

/-- The first letter of a value's text tells its shape. -/
theorem dumps_begins (value : Json) :
    ∃ letter word, dumps ensureAscii value = letter :: word ∧
      shapeOf letter = some value.shape := by
  cases value with
  | null => exact ⟨_, _, rfl, rfl⟩
  | bool value => cases value <;> exact ⟨_, _, rfl, rfl⟩
  | int value =>
      rw [dumps]
      cases letters : value.repr.toList with
      | nil =>
          have digits : ∀ n : Nat, n.repr.toList ≠ [] := by
            intro n
            rw [Nat.toList_repr]
            exact List.ne_nil_of_length_pos Nat.length_toDigits_pos
          cases value with
          | ofNat n => exact absurd letters (digits n)
          | negSucc n =>
              rw [Int.repr, String.toList_append] at letters
              exact absurd (List.append_eq_nil_iff.mp letters).2 (digits _)
      | cons letter word =>
          refine ⟨letter, word, rfl, ?_⟩
          rcases repr_letter (letters ▸ List.mem_cons_self) with rfl | isDigit
          · rfl
          · exact shapeOf_digit isDigit
  | str | array | object =>
      rw [dumps]
      exact ⟨_, _, rfl, rfl⟩

/-- No value begins as an array or an object ends. -/
theorem dumps_begins_open (value : Json) (close : Char) (closes : shapeOf close = none) :
    ∃ letter word, dumps ensureAscii value = letter :: word ∧ letter ≠ close := by
  obtain ⟨letter, word, begins, isShape⟩ := dumps_begins value
  refine ⟨letter, word, begins, ?_⟩
  rintro rfl
  rw [closes] at isShape
  cases isShape

theorem shape_eq {value other : Json} {rest rest' : List Char}
    (same : dumps ensureAscii value ++ rest = dumps ensureAscii' other ++ rest') :
    value.shape = other.shape := by
  obtain ⟨letter, word, begins, isShape⟩ := dumps_begins value
  obtain ⟨letter', word', begins', isShape'⟩ := dumps_begins other
  rw [begins, begins', List.cons_append, List.cons_append] at same
  rw [(List.cons.inj same).1] at isShape
  exact Option.some.inj (isShape.symm.trans isShape')

/-- A value is found again in front of anything that may follow it. -/
theorem dumps_append_inj {value other : Json} {rest rest' : List Char}
    (unicode : value.Unicode) (unicode' : other.Unicode)
    (closed : Delimited Stops rest) (closed' : Delimited Stops rest')
    (same : dumps ensureAscii value ++ rest = dumps ensureAscii' other ++ rest') :
    value = other ∧ rest = rest' := by
  have shapes := shape_eq same
  induction value using induct generalizing other rest rest' with
  | null =>
      cases other <;> cases shapes
      exact ⟨rfl, List.append_cancel_left same⟩
  | bool value =>
      cases other <;> cases shapes
      rename_i other
      rw [dumps, dumps] at same
      cases value with
      | true =>
          cases other with
          | true => exact ⟨rfl, List.append_cancel_left same⟩
          | false => exact absurd (List.cons.inj same).1 (by decide)
      | false =>
          cases other with
          | true => exact absurd (List.cons.inj same).1 (by decide)
          | false => exact ⟨rfl, List.append_cancel_left same⟩
  | int value =>
      cases other <;> cases shapes
      rename_i other
      rw [dumps, dumps] at same
      obtain ⟨letters, rests⟩ := append_inj_of_delimited (fun letter => repr_plain)
        (fun letter => repr_plain) closed closed' same
      exact ⟨congrArg Json.int (repr_injective letters), rests⟩
  | str value =>
      cases other <;> cases shapes
      rename_i other
      cases unicode with
      | str spelled =>
          cases unicode' with
          | str spelled' =>
              rw [dumps, dumps] at same
              obtain ⟨rfl, rests⟩ := quote_append_inj spelled spelled' same
              exact ⟨rfl, rests⟩
  | array items ih =>
      cases other <;> cases shapes
      rename_i others
      rw [dumps_array, dumps_array, List.cons_append, List.cons_append, List.append_assoc,
        List.append_assoc] at same
      have found : ∀ item ∈ items, ∀ other ∈ others, ∀ rest rest', Delimited Stops rest →
          Delimited Stops rest' →
          dumps ensureAscii item ++ rest = dumps ensureAscii' other ++ rest' →
          item = other ∧ rest = rest' := by
        intro item member other member' rest rest' closed closed' inner
        cases unicode with
        | array each =>
            cases unicode' with
            | array each' =>
                exact ih item member (each item member) (each' other member') closed closed' inner
                  (shape_eq inner)
      obtain ⟨each, rests⟩ : List.Forall₂ Eq items others ∧ rest = rest' := join_inj
        (show Stops ',' from .inl rfl) (show Stops ']' from .inr (.inl rfl)) (by decide)
        (fun item _ => dumps_begins_open item ']' rfl)
        (fun item _ => dumps_begins_open item ']' rfl) found (List.cons.inj same).2
      rw [List.forall₂_eq_eq_eq] at each
      rw [each]
      exact ⟨rfl, rests⟩
  | object fields ih =>
      cases other <;> cases shapes
      rename_i others
      rw [dumps_object, dumps_object, List.cons_append, List.cons_append, List.append_assoc,
        List.append_assoc] at same
      have found : ∀ field ∈ fields, ∀ other ∈ others, ∀ rest rest', Delimited Stops rest →
          Delimited Stops rest' →
          dumpField ensureAscii field ++ rest = dumpField ensureAscii' other ++ rest' →
          field = other ∧ rest = rest' := by
        intro field member other member' rest rest' closed closed' inner
        rw [dumpField, dumpField, List.append_assoc, List.append_assoc] at inner
        obtain ⟨keys, behind⟩ := quote_append_inj (spelled_points _) (spelled_points _) inner
        have values := (List.cons.inj behind).2
        cases unicode with
        | object each =>
            cases unicode' with
            | object each' =>
                obtain ⟨value, rests⟩ := ih field member (each field member)
                  (each' other member') closed closed' values (shape_eq values)
                exact ⟨Prod.ext (points_injective keys) value, rests⟩
      obtain ⟨each, rests⟩ := join_inj (show Stops ',' from .inl rfl)
        (show Stops '\x7d' from .inr (.inr rfl)) (by decide)
        (fun field _ => ⟨_, _, rfl, by decide⟩) (fun field _ => ⟨_, _, rfl, by decide⟩) found
        (List.cons.inj same).2
      rw [List.forall₂_eq_eq_eq] at each
      rw [each]
      exact ⟨rfl, rests⟩

/-- The bytes of a text tell the value, with escapes or without. -/
theorem dumps_inj {value other : Json} (unicode : value.Unicode) (unicode' : other.Unicode)
    (same : utf8 (dumps ensureAscii value) = utf8 (dumps ensureAscii' other)) : value = other := by
  have letters := congrArg (fun letters => letters ++ []) (utf8_injective same)
  exact (dumps_append_inj unicode unicode' .nil .nil letters).1

/-! ## How many bytes a text takes -/

/-- A letter that stands as it is, in one byte. -/
def Plain (letter : Char) : Prop :=
  32 ≤ letter.toNat ∧ letter.toNat ≤ 126 ∧ letter ≠ '"' ∧ letter ≠ '\\'

instance (letter : Char) : Decidable (Plain letter) := inferInstanceAs (Decidable (_ ∧ _))

theorem plain_of_isDigit {letter : Char} (isDigit : letter.isDigit = true) : Plain letter := by
  simp only [Char.isDigit, Bool.and_eq_true, decide_eq_true_eq] at isDigit
  have low : 48 ≤ letter.toNat := UInt32.le_iff_toNat_le.mp isDigit.1
  have high : letter.toNat ≤ 57 := UInt32.le_iff_toNat_le.mp isDigit.2
  refine ⟨by omega, by omega, ?_, ?_⟩
  · rintro rfl
    exact absurd low (by decide)
  · rintro rfl
    exact absurd high (by decide)

theorem escape_plain {letter : Char} (plain : Plain letter) :
    escape ensureAscii letter = [letter] := by
  obtain ⟨low, high, noQuote, noBackslash⟩ := plain
  have short : shortEscape letter = none := by
    cases short : shortEscape letter with
    | none => rfl
    | some behind =>
        unfold shortEscape at short
        split at short
        · exact absurd rfl noQuote
        · exact absurd rfl noBackslash
        all_goals first | exact absurd low (by decide) | cases short
  unfold escape
  rw [short]
  exact if_neg (by omega)

/-- An ASCII letter takes one byte. -/
theorem utf8_ascii {letters : List Char} (narrow : ∀ letter ∈ letters, letter.toNat ≤ 126) :
    (utf8 letters).length = letters.length := by
  induction letters with
  | nil => rfl
  | cons letter letters ih =>
      have one : (String.utf8EncodeChar letter).length = 1 := by
        rw [String.length_utf8EncodeChar, Char.utf8Size_eq_one_iff]
        exact UInt32.le_iff_toNat_le.mpr (le_trans (narrow letter List.mem_cons_self) (by decide))
      have rest := ih fun other member => narrow other (List.mem_cons_of_mem _ member)
      rw [utf8, List.flatMap_cons, List.length_append, one, List.length_cons, ← rest, utf8,
        Nat.add_comm]

theorem quote_plain {text : String} (plain : ∀ letter ∈ text.toList, Plain letter) :
    (utf8 (quote ensureAscii (points text))).length = text.length + 2 := by
  have same : text.toList.flatMap (escape ensureAscii) = text.toList := by
    rw [List.flatMap_congr fun letter member => escape_plain (plain letter member)]
    exact List.flatMap_singleton' _
  have quotation : (utf8 ['"']).length = 1 := rfl
  have one : (utf8 text.toList).length = text.toList.length :=
    utf8_ascii fun letter member => (plain letter member).2.1
  rw [quote_points, same, ← List.singleton_append, utf8_append, utf8_append, List.length_append,
    List.length_append, one, quotation, String.length_toList]
  omega

theorem dumps_nat (value : Nat) :
    (utf8 (dumps ensureAscii (.int value))).length = (Nat.toDigits 10 value).length := by
  rw [dumps, show (value : Int).repr = value.repr from rfl, Nat.toList_repr]
  refine utf8_ascii fun letter member => (plain_of_isDigit ?_).2.1
  exact Nat.isDigit_of_mem_toDigits (by decide) (by decide) member

theorem join_length (separator : Char) (one : (utf8 [separator]).length = 1)
    {words : List (List Char)} (some_of : words ≠ []) :
    (utf8 (join separator words)).length + 1 = (utf8 words.flatten).length + words.length := by
  have tail : ∀ words : List (List Char),
      (utf8 (joinTail separator words)).length = (utf8 words.flatten).length + words.length := by
    intro words
    induction words with
    | nil => rfl
    | cons word words ih =>
        rw [joinTail, ← List.singleton_append, utf8_append, utf8_append, List.length_append,
          List.length_append, one, ih, List.flatten_cons, utf8_append, List.length_append,
          List.length_cons]
        omega
  cases words with
  | nil => exact absurd rfl some_of
  | cons word words =>
      rw [join, utf8_append, List.length_append, tail, List.flatten_cons, utf8_append,
        List.length_append, List.length_cons]
      omega

/-- An object takes its fields, and a letter more than there are fields. -/
theorem object_length {fields : List (String × Json)} (some_of : fields ≠ []) :
    (utf8 (dumps ensureAscii (.object fields))).length =
      (utf8 (fields.flatMap (dumpField ensureAscii))).length + fields.length + 1 := by
  have one : (utf8 [',']).length = 1 := rfl
  have opening : (utf8 ['\x7b']).length = 1 := rfl
  have closing : (utf8 ['\x7d']).length = 1 := rfl
  have joined := join_length ',' one
    (show fields.map (dumpField ensureAscii) ≠ [] from by simpa using some_of)
  rw [dumps_object, ← List.singleton_append, utf8_append, utf8_append, List.length_append,
    List.length_append, opening, closing, List.flatMap]
  rw [List.length_map] at joined
  omega

/-- A field takes its key in quotes, a colon and its value. -/
theorem field_length {key : String}
    (plain : (key.toList.all fun letter => decide (Plain letter)) = true) (value : Json) :
    (utf8 (dumpField ensureAscii (key, value))).length =
      key.length + 3 + (utf8 (dumps ensureAscii value)).length := by
  have colon : (utf8 [':']).length = 1 := rfl
  change (utf8 (quote ensureAscii (points key) ++ ':' :: dumps ensureAscii value)).length = _
  rw [← List.singleton_append, utf8_append, utf8_append, List.length_append, List.length_append,
    quote_plain (every plain), colon]
  omega

end

end Json

end Xaytune.Library
