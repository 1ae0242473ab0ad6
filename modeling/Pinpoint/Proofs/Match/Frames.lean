import Mathlib.LinearAlgebra.Matrix.NonsingularInverse
import Pinpoint.Match.Homography
import Pinpoint.Proofs.Match.Elimination
import Pinpoint.Proofs.Scalar.Roots
/-!
# Frames — homographies and normalised coordinates

A homography maps a point if its matrix takes the point, with a one put behind it, to a multiple of the other (`Maps`).  In
exact arithmetic the operations on three by three matrices are those of matrices of real numbers, and points are
normalised by a matrix of their own, their `frame`, as long as they are not too close together (`normalizer?_ofFn`).
-/
namespace Pinpoint

open Matrix
open Scalar (Is Exact ExactRoots)

variable {α : Type} [Scalar α] [Exact α]

/-- The coordinates of a point are real numbers. -/
structure IsPoint (p : Point α) (P : ℝ × ℝ) : Prop where
  fst : Is p.1 P.1
  snd : Is p.2 P.2

/-- A point with a one put behind its coordinates. -/
def lift (P : ℝ × ℝ) : Fin 3 → ℝ := ![P.1, P.2, 1]

theorem mulVec_lift (M : Matrix (Fin 3) (Fin 3) ℝ) (P : ℝ × ℝ) (j : Fin 3) :
    (M *ᵥ lift P) j = M j 0 * P.1 + M j 1 * P.2 + M j 2 := by
  rw [Matrix.mulVec, dotProduct, Fin.sum_univ_three]
  exact congrArg _ (mul_one _)

/-- **The homography takes one point to the other**, which is not at infinity. -/
def Maps (M : Matrix (Fin 3) (Fin 3) ℝ) (P Q : ℝ × ℝ) : Prop := ∃ w : ℝ, w ≠ 0 ∧ M *ᵥ lift P = w • lift Q

namespace Maps

variable {M : Matrix (Fin 3) (Fin 3) ℝ} {P Q : ℝ × ℝ}

theorem iff_coordinates : Maps M P Q ↔ ∃ w : ℝ, w ≠ 0 ∧ M 0 0 * P.1 + M 0 1 * P.2 + M 0 2 = w * Q.1 ∧
    M 1 0 * P.1 + M 1 1 * P.2 + M 1 2 = w * Q.2 ∧ M 2 0 * P.1 + M 2 1 * P.2 + M 2 2 = w * 1 := by
  refine exists_congr fun w => and_congr_right fun _ => ?_
  simp only [← mulVec_lift]
  constructor
  · exact fun h => ⟨congrFun h 0, congrFun h 1, congrFun h 2⟩
  · rintro ⟨hx, hy, hz⟩
    ext j
    fin_cases j
    exacts [hx, hy, hz]

/-- A multiple of a matrix is the same homography. -/
theorem smul {c : ℝ} (hc : c ≠ 0) (h : Maps M P Q) : Maps (c • M) P Q := by
  obtain ⟨w, hw, h⟩ := h
  exact ⟨c * w, mul_ne_zero hc hw, by rw [Matrix.smul_mulVec, h, smul_smul]⟩

/-- The image is read off by a division. -/
theorem div_eq (h : Maps M P Q) : ((M *ᵥ lift P) 0 / (M *ᵥ lift P) 2, (M *ᵥ lift P) 1 / (M *ᵥ lift P) 2) = Q := by
  obtain ⟨w, hw, h⟩ := h
  have hlift : (w • lift Q) 0 = w * Q.1 ∧ (w • lift Q) 1 = w * Q.2 ∧ (w • lift Q) 2 = w := ⟨rfl, rfl, mul_one w⟩
  rw [h, hlift.1, hlift.2.1, hlift.2.2, mul_div_cancel_left₀ _ hw, mul_div_cancel_left₀ _ hw]

end Maps

/-! ## Matrices -/

namespace Mat3

/-- The entries of a matrix are real numbers. -/
structure IsMatrix (m : Mat3 α) (M : Matrix (Fin 3) (Fin 3) ℝ) : Prop where
  a : Is m.a (M 0 0)
  b : Is m.b (M 0 1)
  c : Is m.c (M 0 2)
  d : Is m.d (M 1 0)
  e : Is m.e (M 1 1)
  f : Is m.f (M 1 2)
  g : Is m.g (M 2 0)
  h : Is m.h (M 2 1)
  i : Is m.i (M 2 2)

theorem is_tiny : Is (tiny : α) (1 / 10 ^ 12) := by
  have := Is.ratio (α := α) 1 (q := 1000000000000) (by decide)
  rwa [show ((1 : Nat) : ℝ) / (1000000000000 : Nat) = 1 / 10 ^ 12 by norm_num] at this

namespace IsMatrix

variable {m n : Mat3 α} {M N : Matrix (Fin 3) (Fin 3) ℝ} {t : α} {τ : ℝ} {p : Point α} {P : ℝ × ℝ}

theorem mul (hm : m.IsMatrix M) (hn : n.IsMatrix N) : (m.mul n).IsMatrix (M * N) := by
  have hentry : ∀ i j, (M * N) i j = M i 0 * N 0 j + M i 1 * N 1 j + M i 2 * N 2 j := fun i j => by
    rw [Matrix.mul_apply, Fin.sum_univ_three]
  constructor
  all_goals rw [hentry]
  · exact ((hm.a.mul hn.a).add (hm.b.mul hn.d)).add (hm.c.mul hn.g)
  · exact ((hm.a.mul hn.b).add (hm.b.mul hn.e)).add (hm.c.mul hn.h)
  · exact ((hm.a.mul hn.c).add (hm.b.mul hn.f)).add (hm.c.mul hn.i)
  · exact ((hm.d.mul hn.a).add (hm.e.mul hn.d)).add (hm.f.mul hn.g)
  · exact ((hm.d.mul hn.b).add (hm.e.mul hn.e)).add (hm.f.mul hn.h)
  · exact ((hm.d.mul hn.c).add (hm.e.mul hn.f)).add (hm.f.mul hn.i)
  · exact ((hm.g.mul hn.a).add (hm.h.mul hn.d)).add (hm.i.mul hn.g)
  · exact ((hm.g.mul hn.b).add (hm.h.mul hn.e)).add (hm.i.mul hn.h)
  · exact ((hm.g.mul hn.c).add (hm.h.mul hn.f)).add (hm.i.mul hn.i)

theorem map_div (hm : m.IsMatrix M) (ht : Is t τ) (h : τ ≠ 0) : (m.map (· / t)).IsMatrix (τ⁻¹ • M) := by
  have hentry : ∀ i j, (τ⁻¹ • M) i j = M i j / τ := fun i j => by
    rw [Matrix.smul_apply, smul_eq_mul, inv_mul_eq_div]
  constructor
  all_goals rw [hentry]
  · exact hm.a.div ht h
  · exact hm.b.div ht h
  · exact hm.c.div ht h
  · exact hm.d.div ht h
  · exact hm.e.div ht h
  · exact hm.f.div ht h
  · exact hm.g.div ht h
  · exact hm.h.div ht h
  · exact hm.i.div ht h

theorem det (hm : m.IsMatrix M) : Is m.det M.det := by
  have hdet : M.det = M 0 0 * (M 1 1 * M 2 2 - M 2 1 * M 1 2) - M 0 1 * (M 1 0 * M 2 2 - M 2 0 * M 1 2) +
      M 0 2 * (M 1 0 * M 2 1 - M 2 0 * M 1 1) := by
    rw [Matrix.det_fin_three]
    ring
  rw [hdet]
  exact ((hm.a.mul ((hm.e.mul hm.i).sub (hm.h.mul hm.f))).sub (hm.b.mul ((hm.d.mul hm.i).sub (hm.g.mul hm.f)))).add
    (hm.c.mul ((hm.d.mul hm.h).sub (hm.g.mul hm.e)))

/-- **A matrix that is not singular has an inverse.** -/
theorem inverse? (hm : m.IsMatrix M) (h : M.det ≠ 0) : ∃ k, m.inverse? = some k ∧ k.IsMatrix M⁻¹ := by
  have hinv : M⁻¹ = M.det⁻¹ • !![
      M 1 1 * M 2 2 - M 2 1 * M 1 2, M 2 1 * M 0 2 - M 0 1 * M 2 2, M 0 1 * M 1 2 - M 1 1 * M 0 2;
      M 2 0 * M 1 2 - M 1 0 * M 2 2, M 0 0 * M 2 2 - M 2 0 * M 0 2, M 1 0 * M 0 2 - M 0 0 * M 1 2;
      M 1 0 * M 2 1 - M 2 0 * M 1 1, M 2 0 * M 0 1 - M 0 0 * M 2 1, M 0 0 * M 1 1 - M 1 0 * M 0 1] := by
    rw [Matrix.inv_def, Ring.inverse_eq_inv', Matrix.adjugate_fin_three]
    simp only [neg_add_eq_sub, mul_comm]
  refine ⟨_, by rw [Mat3.inverse?, if_neg ((Linear.isZero_iff hm.det).not.2 h)], ?_⟩
  rw [hinv]
  refine map_div ?_ hm.det h
  exact ⟨(hm.e.mul hm.i).sub (hm.h.mul hm.f), (hm.h.mul hm.c).sub (hm.b.mul hm.i), (hm.b.mul hm.f).sub (hm.e.mul hm.c),
    (hm.g.mul hm.f).sub (hm.d.mul hm.i), (hm.a.mul hm.i).sub (hm.g.mul hm.c), (hm.d.mul hm.c).sub (hm.a.mul hm.f),
    (hm.d.mul hm.h).sub (hm.g.mul hm.e), (hm.g.mul hm.b).sub (hm.a.mul hm.h), (hm.a.mul hm.e).sub (hm.d.mul hm.b)⟩

/-- **The image of a point**, unless its third coordinate is too small to divide by. -/
theorem project (hm : m.IsMatrix M) (hp : IsPoint p P) :
    if |(M *ᵥ lift P) 2| < 1 / 10 ^ 12 then m.project p = none
    else ∃ q, m.project p = some q ∧
      IsPoint q ((M *ᵥ lift P) 0 / (M *ᵥ lift P) 2, (M *ᵥ lift P) 1 / (M *ᵥ lift P) 2) := by
  have hx := ((hm.a.mul hp.fst).add (hm.b.mul hp.snd)).add hm.c
  have hy := ((hm.d.mul hp.fst).add (hm.e.mul hp.snd)).add hm.f
  have hz := ((hm.g.mul hp.fst).add (hm.h.mul hp.snd)).add hm.i
  rw [← mulVec_lift] at hx hy hz
  split
  · rename_i h
    exact if_pos ((hz.abs.lt is_tiny).2 h)
  · rename_i h
    have hz0 : (M *ᵥ lift P) 2 ≠ 0 := by
      intro h0
      rw [h0, abs_zero] at h
      exact h (by positivity)
    exact ⟨_, if_neg ((hz.abs.lt is_tiny).not.2 h), ⟨hx.div hz hz0, hy.div hz hz0⟩⟩

end IsMatrix
end Mat3

/-! ## Frames -/

section
variable {n : Nat} (P : Fin n → ℝ × ℝ)

/-- The centroid of points. -/
noncomputable def centroid : ℝ × ℝ := ((∑ i, (P i).1) / n, (∑ i, (P i).2) / n)

/-- How far points are from their centroid on average. -/
noncomputable def meanDistance : ℝ :=
  (∑ i, Real.sqrt (((P i).1 - (centroid P).1) ^ 2 + ((P i).2 - (centroid P).2) ^ 2)) / n

/-- The factor that puts points `√2` from their centroid on average. -/
noncomputable def scale : ℝ := Real.sqrt (2 : Nat) / meanDistance P

/-- **The frame of points**: it puts their centroid at the origin and the points `√2` from it on average. -/
noncomputable def frame : Matrix (Fin 3) (Fin 3) ℝ :=
  !![scale P, 0, -scale P * (centroid P).1; 0, scale P, -scale P * (centroid P).2; 0, 0, 1]

/-- The points in their frame. -/
noncomputable def framed (i : Fin n) : ℝ × ℝ :=
  (scale P * (P i).1 + -scale P * (centroid P).1, scale P * (P i).2 + -scale P * (centroid P).2)

variable {P}

theorem scale_eq : scale P = Real.sqrt 2 / meanDistance P := by rw [scale, Nat.cast_ofNat]

theorem scale_ne_zero (h : 0 < meanDistance P) : scale P ≠ 0 := by
  rw [scale_eq]
  exact (div_pos (Real.sqrt_pos.2 two_pos) h).ne'

theorem det_frame_ne_zero (h : 0 < meanDistance P) : (frame P).det ≠ 0 := by
  have hdet : (frame P).det = scale P * scale P := by
    rw [frame, Matrix.det_fin_three]
    simp
  rw [hdet]
  exact mul_ne_zero (scale_ne_zero h) (scale_ne_zero h)

theorem frame_mulVec_lift (i : Fin n) : frame P *ᵥ lift (P i) = lift (framed P i) := by
  ext j
  fin_cases j <;> simp [frame, lift, framed, Matrix.mulVec, dotProduct, Fin.sum_univ_three]

/-- A homography of points, between the frames. -/
theorem Maps.framed {Q : Fin n → ℝ × ℝ} {M : Matrix (Fin 3) (Fin 3) ℝ} {i : Fin n} (hP : 0 < meanDistance P)
    (h : Maps M (P i) (Q i)) : Maps (frame Q * M * (frame P)⁻¹) (framed P i) (framed Q i) := by
  obtain ⟨w, hw, h⟩ := h
  have hback : (frame P)⁻¹ *ᵥ lift (Pinpoint.framed P i) = lift (P i) := by
    rw [← frame_mulVec_lift, Matrix.mulVec_mulVec, Matrix.nonsing_inv_mul _ (det_frame_ne_zero hP).isUnit,
      Matrix.one_mulVec]
  refine ⟨w, hw, ?_⟩
  rw [← Matrix.mulVec_mulVec, hback, ← Matrix.mulVec_mulVec, h, Matrix.mulVec_smul, frame_mulVec_lift]

end

/-! ## Normalising points -/

section
variable {n : Nat} {p : Fin n → Point α} {P : Fin n → ℝ × ℝ}

theorem is_sum_ofFn {f : Fin n → α} {g : Fin n → ℝ} (h : ∀ i, Is (f i) (g i)) :
    Is (Scalar.sum (List.ofFn f)) (∑ i, g i) := by
  have := Is.sum (List.finRange n) fun i _ => h i
  rwa [← List.ofFn_eq_map, ← List.ofFn_eq_map, List.sum_ofFn] at this

/-- The mean of values, one for each point. -/
theorem is_mean {f : Point α → α} {g : Fin n → ℝ} (hn : n ≠ 0) (h : ∀ i, Is (f (p i)) (g i)) :
    Is (Scalar.sum ((List.ofFn p).map f) / Scalar.ofNat (List.ofFn p).length) ((∑ i, g i) / n) := by
  rw [List.map_ofFn, List.length_ofFn]
  exact (is_sum_ofFn h).div (Is.ofNat n) (Nat.cast_ne_zero.2 hn)

end

namespace Homography

section
variable {n : Nat} {p : Fin n → Point α} {P : Fin n → ℝ × ℝ}

theorem is_shift {t : Mat3 α} (ht : t.IsMatrix (frame P)) {i : Fin n} (hp : IsPoint (p i) (P i)) :
    IsPoint (shift t (p i)) (framed P i) :=
  ⟨(ht.a.mul hp.fst).add ht.c, (ht.e.mul hp.snd).add ht.f⟩

variable [ExactRoots α]

theorem is_distance {p q : Point α} {P Q : ℝ × ℝ} (hp : IsPoint p P) (hq : IsPoint q Q) :
    Is (distance p q) (Real.sqrt ((P.1 - Q.1) ^ 2 + (P.2 - Q.2) ^ 2)) := by
  have hx := hp.fst.sub hq.fst
  have hy := hp.snd.sub hq.snd
  rw [sq, sq]
  exact ExactRoots.sqrt ((hx.mul hx).add (hy.mul hy)) (add_nonneg (mul_self_nonneg _) (mul_self_nonneg _))

/-- **Points are normalised by their frame**, unless they are too close together. -/
theorem normalizer?_ofFn (hn : n ≠ 0) (hp : ∀ i, IsPoint (p i) (P i)) :
    if meanDistance P < 1 / 10 ^ 12 then normalizer? (List.ofFn p) = none
    else ∃ t, normalizer? (List.ofFn p) = some t ∧ t.IsMatrix (frame P) := by
  have hcenter : IsPoint (Scalar.sum ((List.ofFn p).map (·.1)) / Scalar.ofNat (List.ofFn p).length,
      Scalar.sum ((List.ofFn p).map (·.2)) / Scalar.ofNat (List.ofFn p).length) (centroid P) :=
    ⟨is_mean hn fun i => (hp i).fst, is_mean hn fun i => (hp i).snd⟩
  have hmean : Is (Scalar.sum ((List.ofFn p).map fun q => distance q _) / Scalar.ofNat (List.ofFn p).length)
      (meanDistance P) := is_mean hn fun i => is_distance (hp i) hcenter
  split
  · rename_i h
    exact if_pos ((hmean.lt Mat3.is_tiny).2 h)
  · rename_i h
    have hpos : 0 < meanDistance P := (by positivity : (0 : ℝ) < 1 / 10 ^ 12).trans_le (not_lt.1 h)
    have hs : Is _ (scale P) := scale_eq ▸ (ExactRoots.sqrt Is.two zero_le_two).div hmean hpos.ne'
    exact ⟨_, if_neg ((hmean.lt Mat3.is_tiny).not.2 h), ⟨hs, .zero, hs.neg.mul hcenter.fst, .zero, hs,
      hs.neg.mul hcenter.snd, .zero, .zero, .one⟩⟩

end

end Homography
end Pinpoint
