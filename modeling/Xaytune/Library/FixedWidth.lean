import Mathlib.Algebra.Ring.Nat
import Mathlib.Data.Char
import Mathlib.Data.List.Lex
import Mathlib.Data.Nat.Init

/-!
# Numbers of fixed width

Numbers written with a fixed count of digits compare as their texts do, and so do lists of such
numbers, each with its own width and what follows it.
-/

namespace Xaytune.Library

/-- The digit of a number below ten. -/
def digit (n : Nat) : Char := Char.ofNat (48 + n % 10)

theorem digit_lt {m n : Nat} (below : m < n) (small : n < 10) : digit m < digit n := by
  have all : ∀ n < 10, ∀ m < n, digit m < digit n := by decide
  exact all n small m below

/-- The last `width` digits of a number. -/
def digits : (width : Nat) → Nat → List Char
  | 0, _ => []
  | width + 1, n => digits width (n / 10) ++ [digit (n % 10)]

@[simp] theorem length_digits (width n : Nat) : (digits width n).length = width := by
  induction width generalizing n with
  | zero => rfl
  | succ width ih => rw [digits, List.length_append, ih, List.length_singleton]

/-- Texts that differ in blocks of one length compare by the blocks. -/
theorem append_lt_append {first second : List Char} (long : first.length = second.length)
    (less : first < second) (behind behind' : List Char) : first ++ behind < second ++ behind' := by
  induction first generalizing second with
  | nil =>
      obtain rfl := List.eq_nil_of_length_eq_zero long.symm
      exact absurd less (lt_irrefl _)
  | cons letter first ih =>
      cases second with
      | nil => cases long
      | cons letter' second =>
          rw [List.cons_lt_cons_iff] at less
          rw [List.cons_append, List.cons_append, List.cons_lt_cons_iff]
          refine less.imp_right fun rest => ⟨rest.1, ih ?_ rest.2⟩
          simpa using long

theorem digits_lt {width m n : Nat} (less : m < n) (fits : n < 10 ^ width) :
    digits width m < digits width n := by
  induction width generalizing m n with
  | zero => omega
  | succ width ih =>
      rw [digits, digits]
      rcases Nat.lt_or_ge (m / 10) (n / 10) with earlier | later
      · apply append_lt_append (by simp)
        exact ih earlier (Nat.div_lt_of_lt_mul (by rwa [Nat.pow_succ, Nat.mul_comm] at fits))
      · have same : m / 10 = n / 10 := Nat.le_antisymm (Nat.div_le_div_right less.le) later
        rw [same]
        apply List.append_left_lt
        rw [List.cons_lt_cons_iff]
        exact .inl (digit_lt (by omega) (Nat.mod_lt _ (by decide)))

/-- Numbers of given widths, each with what follows it, and a text behind them. -/
def fixedText : List (Nat × List Char) → List Nat → (behind : List Char) → List Char
  | (width, mark) :: blocks, n :: ns, behind =>
      digits width n ++ (mark ++ fixedText blocks ns behind)
  | _, _, behind => behind

/-- Each number fits its width. -/
def Fits : List (Nat × List Char) → List Nat → Prop
  | (width, _) :: blocks, n :: ns => n < 10 ^ width ∧ Fits blocks ns
  | [], [] => True
  | _, _ => False

theorem fixedText_lt {blocks : List (Nat × List Char)} {first second : List Nat}
    (fits : Fits blocks first) (fits' : Fits blocks second) (less : first < second)
    (behind behind' : List Char) :
    fixedText blocks first behind < fixedText blocks second behind' := by
  induction blocks generalizing first second with
  | nil =>
      cases first with
      | cons => cases fits
      | nil =>
          cases second with
          | cons => cases fits'
          | nil => exact absurd less (lt_irrefl _)
  | cons block blocks ih =>
      cases first with
      | nil => cases fits
      | cons m ms =>
          cases second with
          | nil => cases fits'
          | cons n ns =>
              rw [fixedText, fixedText]
              rcases List.cons_lt_cons_iff.mp less with here | ⟨rfl, rest⟩
              · exact append_lt_append (by simp) (digits_lt here fits'.1) _ _
              · apply List.append_left_lt
                apply List.append_left_lt
                exact ih fits.2 fits'.2 rest

/-- Texts of the same numbers compare by what is behind them. -/
theorem fixedText_lt_behind (blocks : List (Nat × List Char)) (ns : List Nat)
    {behind behind' : List Char} (less : behind < behind') :
    fixedText blocks ns behind < fixedText blocks ns behind' := by
  induction blocks generalizing ns with
  | nil =>
      rw [fixedText, fixedText]
      · exact less
      · exact nofun
      · exact nofun
  | cons block blocks ih =>
      cases ns with
      | nil =>
          rw [fixedText, fixedText]
          · exact less
          · exact nofun
          · exact nofun
      | cons n ns =>
          rw [fixedText, fixedText]
          apply List.append_left_lt
          apply List.append_left_lt
          exact ih ns

end Xaytune.Library
