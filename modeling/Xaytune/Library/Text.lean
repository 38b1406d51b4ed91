import Mathlib.Algebra.Ring.Nat
import Mathlib.Data.List.Basic

/-!
# Text read from bytes

Bytes are decoded as UTF-8; what begins a character and does not end it becomes one
replacement character. A line feed is read wherever it stands, so bytes cut behind one are
decoded piece by piece, and the lines of the pieces are the lines of the whole. A text is decoded
from its own encoding.
-/

namespace Xaytune.Library.Text

/-! ## Decoding -/

/-- A character that is not whole: its code so far, the range of the next byte, and how many
bytes are owed behind that. -/
structure Owed where
  code : Nat
  left : Nat
  low : Nat
  high : Nat
  isTail : 0x80 ≤ low
  /-- No shorter encoding has the code it ends with. -/
  wide : 0x80 ≤ 64 ^ left * (code * 64 + (low - 0x80))

def replacement : Char := '\uFFFD'

/-- What the first byte of a longer character owes. -/
def lead (n : Nat) : Option Owed :=
  if two : 0xC2 ≤ n ∧ n ≤ 0xDF then
    some ⟨n - 0xC0, 0, 0x80, 0xBF, by decide, by simp only [Nat.pow_zero]; omega⟩
  else if n = 0xE0 then some ⟨0, 1, 0xA0, 0xBF, by decide, by decide⟩
  else if three : 0xE1 ≤ n ∧ n ≤ 0xEF then
    some ⟨n - 0xE0, 1, 0x80, if n = 0xED then 0x9F else 0xBF, by decide, by
      simp only [Nat.pow_one]; omega⟩
  else if n = 0xF0 then some ⟨0, 2, 0x90, 0xBF, by decide, by decide⟩
  else if four : 0xF1 ≤ n ∧ n ≤ 0xF4 then
    some ⟨n - 0xF0, 2, 0x80, if n = 0xF4 then 0x8F else 0xBF, by decide, by omega⟩
  else none

/-- A byte between characters: what is read, and what is owed. -/
def start (n : Nat) : List Char × Option Owed :=
  if n < 0x80 then ([Char.ofNat n], none)
  else match lead n with
    | none => ([replacement], none)
    | some owed => ([], some owed)

namespace Owed

variable (owed : Owed) {n : Nat}

theorem wide_next (inside : owed.low ≤ n) (more : owed.left ≠ 0) :
    0x80 ≤ 64 ^ (owed.left - 1) * ((owed.code * 64 + (n - 0x80)) * 64 + (0x80 - 0x80)) := by
  have wide := owed.wide
  have grows : owed.code * 64 + (owed.low - 0x80) ≤ owed.code * 64 + (n - 0x80) := by omega
  obtain ⟨left, isLeft⟩ := Nat.exists_eq_succ_of_ne_zero more
  rw [isLeft, Nat.pow_succ, Nat.mul_assoc] at wide
  rw [isLeft, Nat.succ_sub_one, Nat.sub_self, Nat.add_zero, Nat.mul_comm _ 64]
  exact Nat.le_trans wide (Nat.mul_le_mul_left _ (Nat.mul_le_mul_left _ grows))

/-- A byte inside a character. One that does not belong there is read anew. -/
def next (n : Nat) : List Char × Option Owed :=
  if inside : owed.low ≤ n ∧ n ≤ owed.high then
    if more : owed.left ≠ 0 then
      ([], some ⟨owed.code * 64 + (n - 0x80), owed.left - 1, 0x80, 0xBF, Nat.le_refl _,
        owed.wide_next inside.1 more⟩)
    else ([Char.ofNat (owed.code * 64 + (n - 0x80))], none)
  else (replacement :: (start n).1, (start n).2)

end Owed

def step (pending : Option Owed) (n : Nat) : List Char × Option Owed :=
  match pending with
  | none => start n
  | some owed => owed.next n

def decodeFrom (pending : Option Owed) : List UInt8 → List Char
  | [] => if pending.isSome then [replacement] else []
  | byte :: bytes =>
      (step pending byte.toNat).1 ++ decodeFrom (step pending byte.toNat).2 bytes

/-- `bytes.decode("utf-8", errors="replace")`. -/
def decode (bytes : List UInt8) : List Char := decodeFrom none bytes

/-- `text.encode("utf-8")`. -/
def encode (text : List Char) : List UInt8 := text.flatMap String.utf8EncodeChar

theorem encode_append (first second : List Char) :
    encode (first ++ second) = encode first ++ encode second :=
  List.flatMap_append

section decode

variable {pending : Option Owed} {n : Nat} {bytes : List UInt8}

theorem decodeFrom_cons (byte : UInt8) :
    decodeFrom pending (byte :: bytes) =
      (step pending byte.toNat).1 ++ decodeFrom (step pending byte.toNat).2 bytes := rfl

theorem step_newline : step pending 10 = (decodeFrom pending [] ++ ['\n'], none) := by
  cases pending with
  | none => rfl
  | some owed =>
      have outside : ¬ (owed.low ≤ 10 ∧ 10 ≤ owed.high) := by
        have isTail := owed.isTail
        omega
      simp only [step, Owed.next, dif_neg outside]
      rfl

theorem ofNat_eq_newline (same : Char.ofNat n = '\n') : n = 10 := by
  by_cases valid : n.isValidChar
  · rw [Char.ofNat, dif_pos valid] at same
    exact congrArg Char.toNat same
  · rw [Char.ofNat, dif_neg valid] at same
    exact absurd same (by decide)

theorem start_newline (reads : '\n' ∈ (start n).1) : n = 10 := by
  rw [start] at reads
  split at reads
  · exact ofNat_eq_newline (List.mem_singleton.mp reads).symm
  next =>
    split at reads
    · exact absurd (List.mem_singleton.mp reads) (by decide)
    · cases reads

theorem newline_of_step (reads : '\n' ∈ (step pending n).1) : n = 10 := by
  cases pending with
  | none => exact start_newline reads
  | some owed =>
      rw [step, Owed.next] at reads
      split at reads
      next inside =>
        split at reads
        · cases reads
        next last =>
          have wide := owed.wide
          rw [not_not.mp last, Nat.pow_zero, Nat.one_mul] at wide
          have code := ofNat_eq_newline (List.mem_singleton.mp reads).symm
          omega
      next =>
        rcases List.mem_cons.mp reads with isReplacement | anew
        · exact absurd isReplacement (by decide)
        · exact start_newline anew

theorem step_reads (reads : (step pending n).1 = []) : (step pending n).2.isSome = true := by
  have begun (none : (start n).1 = []) : (start n).2.isSome = true := by
    rw [start] at none ⊢
    split at none
    · cases none
    next big =>
      rw [if_neg big]
      cases isLead : lead n with
      | none =>
          rw [isLead] at none
          cases none
      | some owed => rfl
  cases pending with
  | none => exact begun reads
  | some owed =>
      rw [step, Owed.next] at reads ⊢
      split
      next inside =>
        rw [dif_pos inside] at reads
        split
        · rfl
        next last =>
          rw [dif_neg last] at reads
          cases reads
      next outside =>
        rw [dif_neg outside] at reads
        cases reads

/-- A line feed ends whatever is not whole, and what is behind it is read from the start. -/
theorem decodeFrom_newline (rest : List UInt8) :
    decodeFrom pending (bytes ++ 10 :: rest) =
      decodeFrom pending bytes ++ '\n' :: decode rest := by
  induction bytes generalizing pending with
  | nil =>
      rw [List.nil_append, decodeFrom_cons, show (10 : UInt8).toNat = 10 from rfl, step_newline,
        List.append_assoc]
      rfl
  | cons byte bytes ih =>
      rw [List.cons_append, decodeFrom_cons, ih, decodeFrom_cons, List.append_assoc]

theorem newline_of_decodeFrom (reads : '\n' ∈ decodeFrom pending bytes) : 10 ∈ bytes := by
  induction bytes generalizing pending with
  | nil =>
      rw [decodeFrom] at reads
      split at reads
      · exact absurd (List.mem_singleton.mp reads) (by decide)
      · cases reads
  | cons byte bytes ih =>
      rcases List.mem_append.mp reads with here | later
      · have same := newline_of_step here
        rw [show byte = 10 from UInt8.toNat.inj same]
        exact List.mem_cons_self
      · exact List.mem_cons_of_mem _ (ih later)

theorem decodeFrom_eq_nil (none : decodeFrom pending bytes = []) :
    pending.isSome = false ∧ bytes = [] := by
  induction bytes generalizing pending with
  | nil =>
      rw [decodeFrom] at none
      split at none
      · cases none
      next whole => exact ⟨by simpa using whole, rfl⟩
  | cons byte bytes ih =>
      obtain ⟨here, later⟩ := List.append_eq_nil_iff.mp none
      have owes := step_reads here
      rw [(ih later).1] at owes
      cases owes

@[simp] theorem decode_eq_nil : decode bytes = [] ↔ bytes = [] := by
  constructor
  · exact fun none => (decodeFrom_eq_nil none).2
  · rintro rfl
    rfl

theorem newline_of_decode (reads : '\n' ∈ decode bytes) : 10 ∈ bytes := newline_of_decodeFrom reads

theorem decode_newline (bytes rest : List UInt8) :
    decode (bytes ++ 10 :: rest) = decode bytes ++ '\n' :: decode rest := decodeFrom_newline rest

end decode

/-! ## Whole texts -/

/-- What is owed of a character. -/
def Owes (pending : Option Owed) (code left low high : Nat) : Prop :=
  ∃ owed, pending = some owed ∧ owed.code = code ∧ owed.left = left ∧ owed.low = low ∧
    owed.high = high

section whole

variable {pending : Option Owed} {code left low high : Nat} {byte : UInt8}

theorem Owes.more (owes : Owes pending code (left + 1) low high)
    (inside : low ≤ byte.toNat ∧ byte.toNat ≤ high) :
    ∃ next, Owes next (code * 64 + (byte.toNat - 0x80)) left 0x80 0xBF ∧
      ∀ bytes, decodeFrom pending (byte :: bytes) = decodeFrom next bytes := by
  obtain ⟨owed, rfl, rfl, isLeft, rfl, rfl⟩ := owes
  have more : owed.left ≠ 0 := by omega
  refine ⟨(owed.next byte.toNat).2, ?_, fun bytes => ?_⟩
  · rw [Owed.next, dif_pos inside, dif_pos more]
    exact ⟨_, rfl, rfl, Nat.sub_eq_of_eq_add isLeft, rfl, rfl⟩
  · rw [decodeFrom_cons, step, Owed.next, dif_pos inside, dif_pos more]
    rfl

theorem Owes.last (owes : Owes pending code 0 low high)
    (inside : low ≤ byte.toNat ∧ byte.toNat ≤ high) (bytes : List UInt8) :
    decodeFrom pending (byte :: bytes) =
      Char.ofNat (code * 64 + (byte.toNat - 0x80)) :: decode bytes := by
  obtain ⟨owed, rfl, rfl, isLeft, rfl, rfl⟩ := owes
  rw [decodeFrom_cons, step, Owed.next, dif_pos inside, dif_neg (by rw [isLeft]; simp)]
  rfl

/-- What the first byte of a longer character owes is owed behind it. -/
theorem owes_of_lead (long : 0x80 ≤ byte.toNat)
    (leads : ∃ owed, lead byte.toNat = some owed ∧ Owes (some owed) code left low high) :
    ∃ next, Owes next code left low high ∧
      ∀ bytes, decode (byte :: bytes) = decodeFrom next bytes := by
  obtain ⟨owed, leads, owes⟩ := leads
  refine ⟨some owed, owes, fun bytes => ?_⟩
  rw [decode, decodeFrom_cons, step, start, if_neg (Nat.not_lt.mpr long), leads]
  rfl

theorem lead_two (isTwo : 0xC2 ≤ byte.toNat ∧ byte.toNat ≤ 0xDF) :
    ∃ next, Owes next (byte.toNat - 0xC0) 0 0x80 0xBF ∧
      ∀ bytes, decode (byte :: bytes) = decodeFrom next bytes := by
  apply owes_of_lead (by omega)
  rw [lead, dif_pos isTwo]
  exact ⟨_, rfl, _, rfl, rfl, rfl, rfl, rfl⟩

theorem lead_three (isThree : 0xE0 ≤ byte.toNat ∧ byte.toNat ≤ 0xEF) :
    ∃ next, Owes next (byte.toNat - 0xE0) 1 (if byte.toNat = 0xE0 then 0xA0 else 0x80)
        (if byte.toNat = 0xED then 0x9F else 0xBF) ∧
      ∀ bytes, decode (byte :: bytes) = decodeFrom next bytes := by
  apply owes_of_lead (by omega)
  rw [lead, dif_neg (by omega)]
  by_cases isFirst : byte.toNat = 0xE0
  · rw [if_pos isFirst, if_pos isFirst, isFirst]
    exact ⟨_, rfl, _, rfl, rfl, rfl, rfl, rfl⟩
  · rw [if_neg isFirst, if_neg isFirst, dif_pos (by omega)]
    exact ⟨_, rfl, _, rfl, rfl, rfl, rfl, rfl⟩

theorem lead_four (isFour : 0xF0 ≤ byte.toNat ∧ byte.toNat ≤ 0xF4) :
    ∃ next, Owes next (byte.toNat - 0xF0) 2 (if byte.toNat = 0xF0 then 0x90 else 0x80)
        (if byte.toNat = 0xF4 then 0x8F else 0xBF) ∧
      ∀ bytes, decode (byte :: bytes) = decodeFrom next bytes := by
  apply owes_of_lead (by omega)
  rw [lead, dif_neg (by omega), if_neg (by omega), dif_neg (by omega)]
  by_cases isFirst : byte.toNat = 0xF0
  · rw [if_pos isFirst, if_pos isFirst, isFirst]
    exact ⟨_, rfl, _, rfl, rfl, rfl, rfl, rfl⟩
  · rw [if_neg isFirst, if_neg isFirst, dif_pos (by omega)]
    exact ⟨_, rfl, _, rfl, rfl, rfl, rfl, rfl⟩

theorem toNat_ofNat_lt {n : Nat} (small : n < 256) : (UInt8.ofNat n).toNat = n := by
  rw [UInt8.toNat_ofNat']
  exact Nat.mod_eq_of_lt small

theorem decode_one {n : Nat} (isOne : n ≤ 0x7F) (bytes : List UInt8) :
    decode (UInt8.ofNat n :: bytes) = Char.ofNat n :: decode bytes := by
  have value := toNat_ofNat_lt (show n < 256 by omega)
  rw [decode, decodeFrom_cons, step, start, value, if_pos (by omega)]
  rfl

/-- A character is decoded from its own encoding. -/
theorem decode_char (letter : Char) (rest : List UInt8) :
    decode (String.utf8EncodeChar letter ++ rest) = letter :: decode rest := by
  have valid : letter.val.toNat < 0xD800 ∨
      0xDFFF < letter.val.toNat ∧ letter.val.toNat < 0x110000 := letter.valid
  have itself : Char.ofNat letter.val.toNat = letter := Char.ofNat_toNat letter
  suffices decoded : decode (String.utf8EncodeChar letter ++ rest) =
      Char.ofNat letter.val.toNat :: decode rest by rwa [itself] at decoded
  simp only [String.utf8EncodeChar]
  generalize letter.val.toNat = n at valid
  have tail (m : Nat) : 0x80 ≤ (UInt8.ofNat (m % 0x40 + 0x80)).toNat ∧
      (UInt8.ofNat (m % 0x40 + 0x80)).toNat ≤ 0xBF := by
    rw [toNat_ofNat_lt (by omega)]
    omega
  have last := toNat_ofNat_lt (show n % 0x40 + 0x80 < 256 by omega)
  have third := toNat_ofNat_lt (show n / 64 % 0x40 + 0x80 < 256 by omega)
  split
  · next isOne => exact decode_one isOne rest
  · split
    · next isTwo =>
      have first := toNat_ofNat_lt (show n / 64 % 0x20 + 0xC0 < 256 by omega)
      obtain ⟨next, owes, reads⟩ := @lead_two (UInt8.ofNat (n / 64 % 0x20 + 0xC0)) (by omega)
      have code : (n / 64 % 0x20 + 0xC0 - 0xC0) * 64 + (n % 0x40 + 0x80 - 0x80) = n := by omega
      rw [List.cons_append, List.cons_append, List.nil_append, reads, owes.last (tail n), first,
        last, code]
    · split
      · next isThree =>
        have first := toNat_ofNat_lt (show n / 4096 % 0x10 + 0xE0 < 256 by omega)
        obtain ⟨next, owes, reads⟩ := @lead_three (UInt8.ofNat (n / 4096 % 0x10 + 0xE0)) (by omega)
        obtain ⟨next', owes', reads'⟩ :=
          @Owes.more _ _ _ _ _ (UInt8.ofNat (n / 64 % 0x40 + 0x80)) owes (by
            rw [first, third]
            split <;> split <;> omega)
        have code : ((n / 4096 % 0x10 + 0xE0 - 0xE0) * 64 + (n / 64 % 0x40 + 0x80 - 0x80)) * 64 +
            (n % 0x40 + 0x80 - 0x80) = n := by omega
        rw [List.cons_append, List.cons_append, List.cons_append, List.nil_append, reads, reads',
          owes'.last (tail n), first, third, last, code]
      · have first := toNat_ofNat_lt (show n / 262144 % 0x08 + 0xF0 < 256 by omega)
        have second := toNat_ofNat_lt (show n / 4096 % 0x40 + 0x80 < 256 by omega)
        obtain ⟨next, owes, reads⟩ := @lead_four (UInt8.ofNat (n / 262144 % 0x08 + 0xF0)) (by omega)
        obtain ⟨next', owes', reads'⟩ :=
          @Owes.more _ _ _ _ _ (UInt8.ofNat (n / 4096 % 0x40 + 0x80)) owes (by
            rw [first, second]
            split <;> split <;> omega)
        obtain ⟨next'', owes'', reads''⟩ := owes'.more (tail (n / 64))
        have code : (((n / 262144 % 0x08 + 0xF0 - 0xF0) * 64 +
            (n / 4096 % 0x40 + 0x80 - 0x80)) * 64 + (n / 64 % 0x40 + 0x80 - 0x80)) * 64 +
            (n % 0x40 + 0x80 - 0x80) = n := by omega
        rw [List.cons_append, List.cons_append, List.cons_append, List.cons_append, List.nil_append,
          reads, reads', reads'', owes''.last (tail n), first, second, third, last, code]

theorem newline_of_encodeChar {letter : Char} (feed : 10 ∈ String.utf8EncodeChar letter) :
    letter = '\n' := by
  have reads := decode_char letter []
  rw [List.append_nil] at reads
  obtain ⟨front, back, same⟩ := List.append_of_mem feed
  rw [same, decode_newline] at reads
  cases front with
  | nil => exact (List.cons.inj reads).1.symm
  | cons byte front =>
      have first : decode (byte :: front) ≠ [] := by simp
      obtain ⟨letter', more, isFirst⟩ := List.exists_cons_of_ne_nil first
      rw [isFirst, List.cons_append] at reads
      exact absurd (List.cons.inj reads).2 (by simp [decode, decodeFrom])

/-- A cut in front of a line feed lies behind a byte that no line feed is part of. -/
theorem prefix_of_not_mem {word rest before : List UInt8} (plain : 10 ∉ word)
    (within : before ++ [10] <+: word ++ rest) :
    ∃ behind, before = word ++ behind ∧ behind ++ [10] <+: rest := by
  induction word generalizing before with
  | nil => exact ⟨before, rfl, within⟩
  | cons byte word ih =>
      obtain ⟨other, others⟩ := List.ne_and_not_mem_of_not_mem_cons plain
      cases before with
      | nil => exact absurd (List.cons_prefix_cons.mp within).1 other
      | cons byte' before =>
          obtain ⟨rfl, further⟩ := List.cons_prefix_cons.mp within
          obtain ⟨behind, rfl, inRest⟩ := ih others further
          exact ⟨behind, rfl, inRest⟩

/-- What is in front of a line feed in an encoded text is encoded again to itself. -/
theorem encode_decode_of_begins {text : List Char} {before : List UInt8}
    (within : before ++ [10] <+: encode text) : encode (decode before) = before := by
  induction text generalizing before with
  | nil =>
      have absent := List.prefix_nil.mp within
      simp at absent
  | cons letter text ih =>
      have whole (behind : List UInt8) (again : encode (decode behind) = behind) :
          encode (decode (String.utf8EncodeChar letter ++ behind)) =
            String.utf8EncodeChar letter ++ behind := by
        rw [decode_char, encode, List.flatMap_cons]
        exact congrArg _ again
      rw [encode, List.flatMap_cons] at within
      by_cases isFeed : letter = '\n'
      · subst isFeed
        cases before with
        | nil => rfl
        | cons byte before =>
            obtain ⟨same, further⟩ := List.cons_prefix_cons.mp within
            rw [same]
            exact whole before (ih further)
      · obtain ⟨behind, rfl, further⟩ :=
          prefix_of_not_mem (fun feed => isFeed (newline_of_encodeChar feed)) within
        exact whole behind (ih further)

end whole

/-! ## Lines -/

def isBreak (letter : Char) : Bool :=
  letter ∈ ['\n', '\r', '\x0b', '\x0c', '\x1c', '\x1d', '\x1e', '\u0085', '\u2028', '\u2029']

/-- What is behind the last line break counts as a line unless it is empty. -/
def unended (line : List Char) : List (List Char) := if line = [] then [] else [line]

/-- The lines of `text.splitlines()`, behind the part of a line already read. -/
def splitlines (line : List Char) : List Char → List (List Char)
  | [] => unended line
  | '\r' :: '\n' :: rest => line :: splitlines [] rest
  | letter :: rest =>
      if isBreak letter then line :: splitlines [] rest else splitlines (line ++ [letter]) rest

/-- The lines that are not empty. -/
def nonblank (lines : List (List Char)) : List (List Char) := lines.filter fun line => line ≠ []

section lines

variable {line text rest : List Char} {letter : Char}

theorem splitlines_pair :
    splitlines line ('\r' :: '\n' :: rest) = line :: splitlines [] rest := rfl

theorem splitlines_cons (apart : ∀ rest, letter = '\r' → text = '\n' :: rest → False) :
    splitlines line (letter :: text) =
      if isBreak letter then line :: splitlines [] text
      else splitlines (line ++ [letter]) text :=
  splitlines.eq_3 line letter text apart

/-- A line feed behind a text is read with the letter in front only if that is a lone return. -/
theorem splitlines_cons_append (apart : ∀ rest, letter = '\r' → text = '\n' :: rest → False)
    (follows : letter = '\r' → text ≠ []) :
    splitlines line (letter :: text ++ '\n' :: rest) =
      if isBreak letter then line :: splitlines [] (text ++ '\n' :: rest)
      else splitlines (line ++ [letter]) (text ++ '\n' :: rest) := by
  apply splitlines_cons
  intro behind isReturn same
  cases text with
  | nil => exact follows isReturn rfl
  | cons first text =>
      rw [(List.cons.inj same).1] at apart
      exact apart text isReturn rfl

/-- The lines of a text cut behind a line feed are the lines of its pieces. -/
theorem splitlines_newline (line text rest : List Char) :
    splitlines line (text ++ '\n' :: rest) =
      splitlines line (text ++ ['\n']) ++ splitlines [] rest := by
  induction line, text using splitlines.induct with
  | case1 line => rfl
  | case2 line text ih =>
      rw [List.cons_append, List.cons_append, splitlines_pair, ih]
      rfl
  | case3 line letter text apart isEnd ih =>
      by_cases alone : letter = '\r' ∧ text = []
      · obtain ⟨rfl, rfl⟩ := alone
        rfl
      · have follows : letter = '\r' → text ≠ [] := fun isReturn none => alone ⟨isReturn, none⟩
        rw [splitlines_cons_append apart follows, splitlines_cons_append apart follows,
          if_pos isEnd, if_pos isEnd, ih]
        rfl
  | case4 line letter text apart isEnd ih =>
      have follows : letter = '\r' → text ≠ [] := by
        rintro rfl
        exact absurd rfl isEnd
      rw [splitlines_cons_append apart follows, splitlines_cons_append apart follows,
        if_neg isEnd, if_neg isEnd, ih]

/-- A line feed at the end of a text adds at most an empty line. -/
theorem splitlines_ended (line text : List Char) :
    splitlines line (text ++ ['\n']) = splitlines line text ∨
      splitlines line (text ++ ['\n']) = splitlines line text ++ [[]] := by
  induction line, text using splitlines.induct with
  | case1 line =>
      change [line] = unended line ∨ [line] = unended line ++ [[]]
      rw [unended]
      split
      next none =>
        rw [none]
        exact .inr rfl
      · exact .inl rfl
  | case2 line text ih =>
      rw [List.cons_append, List.cons_append, splitlines_pair, splitlines_pair]
      exact ih.imp (congrArg _) (congrArg _)
  | case3 line letter text apart isEnd ih =>
      by_cases alone : letter = '\r' ∧ text = []
      · obtain ⟨rfl, rfl⟩ := alone
        exact .inl rfl
      · have follows : letter = '\r' → text ≠ [] := fun isReturn none => alone ⟨isReturn, none⟩
        rw [splitlines_cons_append apart follows, splitlines_cons apart, if_pos isEnd,
          if_pos isEnd]
        exact ih.imp (congrArg _) (congrArg _)
  | case4 line letter text apart isEnd ih =>
      have follows : letter = '\r' → text ≠ [] := by
        rintro rfl
        exact absurd rfl isEnd
      rw [splitlines_cons_append apart follows, splitlines_cons apart, if_neg isEnd, if_neg isEnd]
      exact ih

theorem nonblank_append (first second : List (List Char)) :
    nonblank (first ++ second) = nonblank first ++ nonblank second :=
  List.filter_append ..

theorem nonblank_ended (text : List Char) :
    nonblank (splitlines [] (text ++ ['\n'])) = nonblank (splitlines [] text) := by
  rcases splitlines_ended [] text with same | more
  · rw [same]
  · rw [more, nonblank_append]
    exact List.append_nil _

theorem sublist_ended (text : List Char) :
    (splitlines [] text).Sublist (splitlines [] (text ++ ['\n'])) := by
  rcases splitlines_ended [] text with same | more
  · rw [same]
  · rw [more]
    exact List.sublist_append_left _ _

end lines

/-! ## Pieces -/

/-- Nothing, or something that ends with a line feed. -/
def Closed (bytes : List UInt8) : Prop := bytes = [] ∨ ∃ before, bytes = before ++ [10]

theorem decode_append {bytes : List UInt8} (closed : Closed bytes) (rest : List UInt8) :
    decode (bytes ++ rest) = decode bytes ++ decode rest := by
  rcases closed with rfl | ⟨before, rfl⟩
  · rfl
  · rw [List.append_assoc, List.singleton_append, decode_newline, decode_newline,
      List.append_assoc]
    rfl

theorem splitlines_decode_append {bytes : List UInt8} (closed : Closed bytes)
    (rest : List UInt8) :
    splitlines [] (decode (bytes ++ rest)) =
      splitlines [] (decode bytes) ++ splitlines [] (decode rest) := by
  rw [decode_append closed]
  rcases closed with rfl | ⟨before, rfl⟩
  · rfl
  · rw [decode_newline, List.append_assoc]
    exact splitlines_newline [] _ _

end Xaytune.Library.Text
