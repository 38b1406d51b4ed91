import Mathlib.Algebra.BigOperators.Group.List.Basic
import Mathlib.Algebra.BigOperators.Ring.List
import Mathlib.Algebra.Order.Field.Basic
import Mathlib.Tactic.Abel

/-!
# Means and variances

The mean of a sample and its variance are read off its values in any order. Negating every value
negates the mean and leaves the variance.
-/

namespace Xaytune.Library

variable {K : Type} [Field K]

def mean (values : List K) : K := values.sum / values.length

/-- The sample variance; it divides by one less than the number of values. -/
def variance (values : List K) : K :=
  (values.map fun value => (value - mean values) * (value - mean values)).sum /
    ((values.length : K) - 1)

variable {values values' : List K}

theorem mean_perm (same : values.Perm values') : mean values = mean values' := by
  unfold mean
  rw [same.sum_eq, same.length_eq]

theorem variance_perm (same : values.Perm values') : variance values = variance values' := by
  unfold variance
  rw [mean_perm same, same.length_eq]
  exact congrArg (· / _) (same.map _).sum_eq

theorem sum_neg : (values.map fun value => -value).sum = -values.sum := by
  induction values with
  | nil => simp
  | cons value values ih =>
      rw [List.map_cons, List.sum_cons, List.sum_cons, ih]
      abel

theorem mean_neg : mean (values.map fun value => -value) = -mean values := by
  unfold mean
  rw [sum_neg, List.length_map, neg_div]

theorem variance_neg : variance (values.map fun value => -value) = variance values := by
  unfold variance
  rw [mean_neg, List.length_map, List.map_map]
  congr 3
  funext value
  change (-value - -mean values) * (-value - -mean values) = _
  rw [← neg_sub', neg_mul_neg]

/-- A sample of nothing but zeros. -/
theorem mean_zeros (zeros : ∀ value ∈ values, value = 0) : mean values = 0 := by
  unfold mean
  rw [List.sum_eq_zero zeros, zero_div]

end Xaytune.Library
