import Mathlib.Algebra.Order.BigOperators.Ring.Finset
import Mathlib.Analysis.Real.Sqrt
/-!
# Cosine — how two families of numbers point the same way

The sum of the products of two families over the lengths of both is the same either way round, between minus one and one,
one for a family and itself, and knows nothing of how long the families are.
-/
namespace Pinpoint
namespace Scalar

variable {ι : Type} (S : Finset ι) (f g : ι → ℝ)

/-- **The cosine between two families of numbers**; zero if one of them is. -/
noncomputable def cosine : ℝ := (∑ i ∈ S, f i * g i) / (√(∑ i ∈ S, f i * f i) * √(∑ i ∈ S, g i * g i))

variable {S f g}

theorem sum_mul_self_nonneg : 0 ≤ ∑ i ∈ S, f i * f i := Finset.sum_nonneg fun _ _ => mul_self_nonneg _

theorem cosine_comm : cosine S f g = cosine S g f := by
  rw [cosine, cosine, mul_comm √(∑ i ∈ S, f i * f i)]
  simp only [mul_comm (f _) (g _)]

theorem abs_cosine_le_one : |cosine S f g| ≤ 1 := by
  have hlength : 0 ≤ √(∑ i ∈ S, f i * f i) * √(∑ i ∈ S, g i * g i) := mul_nonneg (Real.sqrt_nonneg _) (Real.sqrt_nonneg _)
  have hle : |∑ i ∈ S, f i * g i| ≤ √(∑ i ∈ S, f i * f i) * √(∑ i ∈ S, g i * g i) := by
    rw [← Real.sqrt_mul sum_mul_self_nonneg]
    refine Real.abs_le_sqrt ?_
    simpa only [← sq] using Finset.sum_mul_sq_le_sq_mul_sq S f g
  rw [cosine, abs_div, abs_of_nonneg hlength]
  exact div_le_one_of_le₀ hle hlength

theorem cosine_self (h : 0 < ∑ i ∈ S, f i * f i) : cosine S f f = 1 := by
  rw [cosine, Real.mul_self_sqrt h.le, div_self h.ne']

/-- **A positive factor changes no cosine.** -/
theorem cosine_smul {a : ℝ} (ha : 0 < a) : cosine S (fun i => a * f i) g = cosine S f g := by
  have hproduct : ∑ i ∈ S, a * f i * g i = a * ∑ i ∈ S, f i * g i := by
    simp only [Finset.mul_sum, mul_assoc]
  have hlength : √(∑ i ∈ S, a * f i * (a * f i)) = a * √(∑ i ∈ S, f i * f i) := by
    rw [Finset.sum_congr rfl fun i _ => mul_mul_mul_comm a (f i) a (f i), ← Finset.mul_sum,
      Real.sqrt_mul (mul_self_nonneg a), Real.sqrt_mul_self ha.le]
  rw [cosine, hproduct, hlength, mul_assoc, mul_div_mul_left _ _ ha.ne', cosine]

end Scalar
end Pinpoint
