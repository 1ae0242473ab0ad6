import Mathlib.Algebra.Order.Star.Real
import Mathlib.LinearAlgebra.Matrix.DotProduct
import Pinpoint.Proofs.Match.Frames
/-!
# Fit — a homography is found again

Points and their images under a homography determine it: in exact arithmetic and with a solver that solves nonsingular
systems, the fit to them is that homography with last entry one (`fitWith_recovers`).  The homography between the frames,
its last entry one, solves the equations that the pairs give, so that it solves their normal equations; these have one
solution only, and what the frames do to it is undone behind the solver.
-/
namespace Pinpoint

open Matrix
open Scalar (Is Exact ExactRoots is_val isFinite)

variable {α : Type} [Scalar α] [Exact α]

namespace Linear

variable {n : Nat}

/-- **The values of an equation are real numbers.** -/
structure Row.Reads (r : Row α) (c : Fin n → ℝ) (b : ℝ) : Prop where
  length : r.coeffs.length = n
  coeff (j : Fin n) : Is (r.coeffs.getD j (Scalar.ofInt 0)) (c j)
  right : Is r.right b

theorem isFinite_of_is_getD {l : List α} {c : Fin n → ℝ} (hl : l.length = n)
    (h : ∀ j : Fin n, Is (l.getD j (Scalar.ofInt 0)) (c j)) : ∀ a ∈ l, isFinite a = true := by
  intro a ha
  obtain ⟨j, hj, rfl⟩ := List.getElem_of_mem ha
  have := (h ⟨j, hl ▸ hj⟩).1
  rwa [List.getD_eq_getElem?_getD, List.getElem?_eq_getElem hj, Option.getD_some] at this

theorem is_entry {l : List α} (hl : l.length = n) (h : ∀ a ∈ l, isFinite a = true) (j : Fin n) :
    Is (l.getD j (Scalar.ofInt 0)) (entry l j) := by
  have hj := List.getElem?_eq_getElem (hl.symm ▸ j.2 : (j : Nat) < l.length)
  refine is_val ?_
  rw [List.getD_eq_getElem?_getD, hj]
  exact h _ (List.mem_of_getElem? hj)

/-! ## Normal equations -/

section
variable {κ : Type} {l : List κ}

theorem is_dot_map {f g : κ → α} {u v : κ → ℝ} (hf : ∀ k, Is (f k) (u k)) (hg : ∀ k, Is (g k) (v k)) :
    Is (dot (l.map f) (l.map g)) ((l.map fun k => u k * v k).sum) := by
  rw [dot, List.zipWith_map, List.zipWith_self]
  exact Is.sum l fun k _ => (hf k).mul (hg k)

variable [Fintype κ] {A : Matrix κ (Fin n) ℝ} {b : κ → ℝ} {row : κ → Row α}

/-- **A normal equation** has the products of the columns as its values. -/
theorem normalEquations_reads (hl : ∀ f : κ → ℝ, (l.map f).sum = ∑ k, f k) (hrow : ∀ k, (row k).Reads (A k) (b k))
    (i : Fin n) :
    ∃ r, (normalEquations n (l.map row))[(i : Nat)]? = some r ∧ r.Reads ((Aᵀ * A) i) ((Aᵀ *ᵥ b) i) := by
  have hcolumn : ∀ (j : Fin n) {g : Row α → α} {v : κ → ℝ}, (∀ k, Is (g (row k)) (v k)) →
      Is (dot ((l.map row).map fun r => r.coeffs.getD j (Scalar.ofInt 0)) ((l.map row).map g)) (∑ k, A k j * v k) := by
    intro j g v hg
    rw [← hl, List.map_map, List.map_map]
    exact is_dot_map (fun k => (hrow k).coeff j) hg
  refine ⟨_, by rw [normalEquations, List.getElem?_map, List.getElem?_range i.2]; rfl, ?_, fun j => ?_, ?_⟩
  · rw [List.length_map, List.length_range]
  · rw [List.getD_eq_getElem?_getD, List.getElem?_map, List.getElem?_range j.2, Matrix.mul_apply]
    exact hcolumn i fun k => (hrow k).coeff j
  · exact hcolumn i fun k => (hrow k).right

theorem isSystem_normalEquations (hl : ∀ f : κ → ℝ, (l.map f).sum = ∑ k, f k)
    (hrow : ∀ k, (row k).Reads (A k) (b k)) : IsSystem n (normalEquations n (l.map row)) := by
  have hlength : (normalEquations n (l.map row)).length = n := by rw [normalEquations, List.length_map, List.length_range]
  refine ⟨hlength, fun s hs => ?_⟩
  obtain ⟨i, hi⟩ := List.getElem?_of_mem hs
  obtain ⟨r, hr, hreads⟩ := normalEquations_reads hl hrow ⟨i, hlength ▸ (List.getElem?_eq_some_iff.1 hi).1⟩
  obtain rfl := Option.some.inj (hi.symm.trans hr)
  exact ⟨hreads.length, isFinite_of_is_getD hreads.length hreads.coeff, hreads.right.1⟩

theorem coefficients_normalEquations (hl : ∀ f : κ → ℝ, (l.map f).sum = ∑ k, f k)
    (hrow : ∀ k, (row k).Reads (A k) (b k)) : coefficients n (normalEquations n (l.map row)) = Aᵀ * A := by
  ext i j
  obtain ⟨r, hr, hreads⟩ := normalEquations_reads hl hrow i
  rw [coefficients, List.getD_eq_getElem?_getD, List.getElem?_map, hr]
  exact (hreads.coeff j).2

/-- **Least squares find a solution where there is one.** -/
theorem exists_solver_normalEquations {solver : List (Row α) → Option (List α)} (hs : SolvesAll n solver)
    (hl : ∀ f : κ → ℝ, (l.map f).sum = ∑ k, f k) (hrow : ∀ k, (row k).Reads (A k) (b k)) (hdet : (Aᵀ * A).det ≠ 0)
    {x : Fin n → ℝ} (hx : A *ᵥ x = b) : ∃ xs, solver (normalEquations n (l.map row)) = some xs ∧ xs.length = n ∧
      ∀ j : Fin n, Is (xs.getD j (Scalar.ofInt 0)) (x j) := by
  have hcoeff := coefficients_normalEquations hl hrow
  obtain ⟨xs, hxs, hsolves⟩ := hs _ (isSystem_normalEquations hl hrow) (by rwa [hcoeff])
  have hy : (Aᵀ * A) *ᵥ (fun j : Fin n => entry xs j) = Aᵀ *ᵥ b := by
    funext i
    obtain ⟨r, hr, hreads⟩ := normalEquations_reads hl hrow i
    rw [← hcoeff, coefficients_mulVec _ i hr, hsolves.equal r (List.mem_of_getElem? hr), hreads.right.2]
  -- the matrix of the normal equations has no kernel, so that they have one solution only
  have hzero := Matrix.eq_zero_of_mulVec_eq_zero hdet (v := (fun j : Fin n => entry xs j) - x) (by
    rw [Matrix.mulVec_sub, hy, ← Matrix.mulVec_mulVec, hx, sub_self])
  rw [← sub_eq_zero.1 hzero]
  exact ⟨xs, hxs, hsolves.length, is_entry hsolves.length hsolves.finite⟩

end

end Linear

namespace Homography

/-! ## Equations -/

section
variable {n : Nat} (P Q : Fin n → ℝ × ℝ)

/-- **The equations that pairs of points give** for the first eight entries, two a pair; the ninth entry is one. -/
def design : Matrix (Fin n × Fin 2) (Fin 8) ℝ := fun k =>
  ![![(P k.1).1, (P k.1).2, 1, 0, 0, 0, -(P k.1).1 * (Q k.1).1, -(P k.1).2 * (Q k.1).1],
    ![0, 0, 0, (P k.1).1, (P k.1).2, 1, -(P k.1).1 * (Q k.1).2, -(P k.1).2 * (Q k.1).2]] k.2

/-- The right sides of the equations. -/
def target (k : Fin n × Fin 2) : ℝ := ![(Q k.1).1, (Q k.1).2] k.2

/-- The first eight entries of a matrix. -/
def entries (M : Matrix (Fin 3) (Fin 3) ℝ) : Fin 8 → ℝ :=
  ![M 0 0, M 0 1, M 0 2, M 1 0, M 1 1, M 1 2, M 2 0, M 2 1]

variable {P Q}

theorem design_mulVec_zero (v : Fin 8 → ℝ) (i : Fin n) : (design P Q *ᵥ v) (i, 0) =
    (P i).1 * v 0 + (P i).2 * v 1 + v 2 - (Q i).1 * ((P i).1 * v 6 + (P i).2 * v 7) := by
  rw [Matrix.mulVec, dotProduct, Fin.sum_univ_eight]
  show (P i).1 * v 0 + (P i).2 * v 1 + 1 * v 2 + 0 * v 3 + 0 * v 4 + 0 * v 5 + -(P i).1 * (Q i).1 * v 6 +
    -(P i).2 * (Q i).1 * v 7 = _
  ring

theorem design_mulVec_one (v : Fin 8 → ℝ) (i : Fin n) : (design P Q *ᵥ v) (i, 1) =
    (P i).1 * v 3 + (P i).2 * v 4 + v 5 - (Q i).2 * ((P i).1 * v 6 + (P i).2 * v 7) := by
  rw [Matrix.mulVec, dotProduct, Fin.sum_univ_eight]
  show 0 * v 0 + 0 * v 1 + 0 * v 2 + (P i).1 * v 3 + (P i).2 * v 4 + 1 * v 5 + -(P i).1 * (Q i).2 * v 6 +
    -(P i).2 * (Q i).2 * v 7 = _
  ring

/-- **A homography of the points solves their equations.** -/
theorem design_mulVec_entries {M : Matrix (Fin 3) (Fin 3) ℝ} (hmaps : ∀ i, Maps M (P i) (Q i)) (hone : M 2 2 = 1) :
    design P Q *ᵥ entries M = target Q := by
  funext k
  obtain ⟨i, b⟩ := k
  obtain ⟨w, -, hx, hy, hz⟩ := Maps.iff_coordinates.1 (hmaps i)
  rw [hone] at hz
  fin_cases b
  · refine (design_mulVec_zero _ i).trans ?_
    show (P i).1 * M 0 0 + (P i).2 * M 0 1 + M 0 2 - (Q i).1 * ((P i).1 * M 2 0 + (P i).2 * M 2 1) = (Q i).1
    linear_combination hx - (Q i).1 * hz
  · refine (design_mulVec_one _ i).trans ?_
    show (P i).1 * M 1 0 + (P i).2 * M 1 1 + M 1 2 - (Q i).2 * ((P i).1 * M 2 0 + (P i).2 * M 2 1) = (Q i).2
    linear_combination hy - (Q i).2 * hz

end

section
variable {n : Nat} {p q : Fin n → Point α} {P Q : Fin n → ℝ × ℝ}

/-- One of the two equations of a pair. -/
def equation (p q : Fin n → Point α) (k : Fin n × Fin 2) : Linear.Row α :=
  (equations (p k.1) (q k.1)).get k.2

theorem equation_reads (hp : ∀ i, IsPoint (p i) (P i)) (hq : ∀ i, IsPoint (q i) (Q i)) (k : Fin n × Fin 2) :
    (equation p q k).Reads (design P Q k) (target Q k) := by
  obtain ⟨i, b⟩ := k
  have hx := (hp i).fst
  have hy := (hp i).snd
  fin_cases b
  · refine ⟨rfl, fun j => ?_, (hq i).fst⟩
    fin_cases j
    exacts [hx, hy, .one, .zero, .zero, .zero, hx.neg.mul (hq i).fst, hy.neg.mul (hq i).fst]
  · refine ⟨rfl, fun j => ?_, (hq i).snd⟩
    fin_cases j
    exacts [.zero, .zero, .zero, hx, hy, .one, hx.neg.mul (hq i).snd, hy.neg.mul (hq i).snd]

/-- The pairs' equations in the order in which they are written down. -/
def numbers (n : Nat) : List (Fin n × Fin 2) := (List.finRange n).flatMap fun i => [(i, 0), (i, 1)]

theorem sum_map_numbers (f : Fin n × Fin 2 → ℝ) : ((numbers n).map f).sum = ∑ k, f k := by
  have hpair : ∀ i : Fin n, ([(i, (0 : Fin 2)), (i, 1)].map f).sum = ∑ b, f (i, b) := fun i => by
    rw [Fin.sum_univ_two, List.map_cons, List.map_cons, List.map_nil, List.sum_pair]
  rw [numbers, List.map_flatMap, List.flatMap_def, List.sum_flatten, List.map_map, Fintype.sum_prod_type,
    ← List.sum_ofFn, List.ofFn_eq_map]
  exact congrArg List.sum (List.map_congr_left fun i _ => hpair i)

omit [Exact α] in
theorem flatten_equations (p q : Fin n → Point α) :
    (List.zipWith equations (List.ofFn p) (List.ofFn q)).flatten = (numbers n).map (equation p q) := by
  rw [List.ofFn_eq_map, List.ofFn_eq_map, List.zipWith_map, List.zipWith_self, numbers, List.map_flatMap,
    List.flatMap_def]
  rfl

/-! ## The fit between the frames -/

/-- **The fit is the homography of the points** where its last entry is one. -/
theorem exists_fitNormalized {solver : List (Linear.Row α) → Option (List α)} {M : Matrix (Fin 3) (Fin 3) ℝ}
    (hs : Linear.SolvesAll 8 solver) (hp : ∀ i, IsPoint (p i) (P i)) (hq : ∀ i, IsPoint (q i) (Q i))
    (hmaps : ∀ i, Maps M (P i) (Q i)) (hone : M 2 2 = 1) (hdet : ((design P Q)ᵀ * design P Q).det ≠ 0) :
    ∃ m, fitNormalized solver (List.ofFn p) (List.ofFn q) = some m ∧ m.IsMatrix M := by
  obtain ⟨xs, hxs, hlength, his⟩ := Linear.exists_solver_normalEquations hs sum_map_numbers (equation_reads hp hq) hdet
    (design_mulVec_entries hmaps hone)
  have hfinite : xs.all isFinite = true := List.all_eq_true.2 (Linear.isFinite_of_is_getD hlength his)
  have hfit : fitNormalized solver (List.ofFn p) (List.ofFn q) = ofEntries xs := by
    unfold fitNormalized
    dsimp only
    rw [flatten_equations, hxs]
    exact if_pos hfinite
  rw [hfit]
  match xs, hlength with
  | [a, b, c, d, e, f, g, h], _ =>
    exact ⟨_, rfl, his 0, his 1, his 2, his 3, his 4, his 5, his 6, his 7, hone ▸ .one⟩

end

/-! ## Between the frames and behind them -/

section
variable {n : Nat} (P Q : Fin n → ℝ × ℝ) (M : Matrix (Fin 3) (Fin 3) ℝ)

/-- The homography of the framed points. -/
noncomputable def normalized : Matrix (Fin 3) (Fin 3) ℝ := frame Q * M * (frame P)⁻¹

/-- A homography of the framed points, taken back to the points. -/
noncomputable def denormalized : Matrix (Fin 3) (Fin 3) ℝ := (frame Q)⁻¹ * M * frame P

/-- The same homography with last entry one. -/
noncomputable def withOne (M : Matrix (Fin 3) (Fin 3) ℝ) : Matrix (Fin 3) (Fin 3) ℝ := (M 2 2)⁻¹ • M

variable {P Q M}

theorem denormalized_withOne (hP : 0 < meanDistance P) (hQ : 0 < meanDistance Q) :
    denormalized P Q (withOne (normalized P Q M)) = (normalized P Q M 2 2)⁻¹ • M := by
  have hcancel : (frame Q)⁻¹ * normalized P Q M * frame P = M := by
    rw [normalized, Matrix.mul_assoc, Matrix.mul_assoc, Matrix.nonsing_inv_mul _ (det_frame_ne_zero hP).isUnit,
      Matrix.mul_one, ← Matrix.mul_assoc, Matrix.nonsing_inv_mul _ (det_frame_ne_zero hQ).isUnit, Matrix.one_mul]
  rw [denormalized, withOne, Matrix.mul_smul, Matrix.smul_mul, hcancel]

theorem withOne_smul {c : ℝ} (hc : c ≠ 0) : withOne (c • M) = withOne M := by
  rw [withOne, withOne, Matrix.smul_apply, smul_eq_mul, mul_inv, smul_smul, mul_right_comm, inv_mul_cancel₀ hc, one_mul]

/-- The last entry between the frames is the third coordinate of the centroid's image. -/
theorem normalized_last (hP : 0 < meanDistance P) : normalized P Q M 2 2 = (M *ᵥ lift (centroid P)) 2 := by
  have hcentroid : frame P *ᵥ lift (centroid P) = Pi.single 2 1 := by
    ext j
    fin_cases j <;> simp [frame, lift, Matrix.mulVec, dotProduct, Fin.sum_univ_three]
  have hback : (frame P)⁻¹ *ᵥ Pi.single 2 1 = lift (centroid P) := by
    rw [← hcentroid, Matrix.mulVec_mulVec, Matrix.nonsing_inv_mul _ (det_frame_ne_zero hP).isUnit, Matrix.one_mulVec]
  have hlast : ∀ v, (frame Q *ᵥ v) 2 = v 2 := fun v => by
    simp [frame, Matrix.mulVec, dotProduct, Fin.sum_univ_three]
  have hcolumn := congrFun (Matrix.mulVec_single_one (normalized P Q M) 2) 2
  rw [normalized, ← Matrix.mulVec_mulVec, hback, ← Matrix.mulVec_mulVec, hlast] at hcolumn
  exact hcolumn.symm

end

/-! ## Trapezoids -/

/-- **A symmetric trapezoid** around a point. -/
def trapezoid (x y a b c : ℝ) : Fin 4 → ℝ × ℝ := ![(x + a, y + c), (x - a, y + c), (x + b, y - c), (x - b, y - c)]

section
variable {x y a b c : ℝ}

theorem centroid_trapezoid : centroid (trapezoid x y a b c) = (x, y) := by
  rw [centroid, Fin.sum_univ_four, Fin.sum_univ_four]
  refine Prod.ext ?_ ?_
  · show (x + a + (x - a) + (x + b) + (x - b)) / ((4 : Nat) : ℝ) = x
    push_cast
    ring
  · show (y + c + (y + c) + (y - c) + (y - c)) / ((4 : Nat) : ℝ) = y
    push_cast
    ring

theorem meanDistance_trapezoid : meanDistance (trapezoid x y a b c) =
    (Real.sqrt (a ^ 2 + c ^ 2) + Real.sqrt (b ^ 2 + c ^ 2)) / 2 := by
  rw [meanDistance, centroid_trapezoid, Fin.sum_univ_four]
  show (Real.sqrt ((x + a - x) ^ 2 + (y + c - y) ^ 2) + Real.sqrt ((x - a - x) ^ 2 + (y + c - y) ^ 2) +
    Real.sqrt ((x + b - x) ^ 2 + (y - c - y) ^ 2) + Real.sqrt ((x - b - x) ^ 2 + (y - c - y) ^ 2)) / ((4 : Nat) : ℝ) = _
  rw [add_sub_cancel_left, add_sub_cancel_left, add_sub_cancel_left, sub_sub_cancel_left, sub_sub_cancel_left,
    sub_sub_cancel_left, neg_sq, neg_sq, neg_sq]
  push_cast
  ring

theorem meanDistance_square {e : ℝ} (he : 0 ≤ e) : meanDistance (trapezoid x y e e e) = e * Real.sqrt 2 := by
  rw [meanDistance_trapezoid, add_self_div_two, ← mul_two, Real.sqrt_mul (sq_nonneg e), Real.sqrt_sq he]

theorem scale_square {e : ℝ} (he : 0 < e) : scale (trapezoid x y e e e) = 1 / e := by
  rw [scale_eq, meanDistance_square he.le, div_mul_cancel_right₀ (Real.sqrt_pos.2 two_pos).ne', one_div]

theorem framed_trapezoid {s : ℝ} (h : scale (trapezoid x y a b c) = s) :
    framed (trapezoid x y a b c) = trapezoid 0 0 (s * a) (s * b) (s * c) := by
  funext i
  rw [framed, h, centroid_trapezoid]
  fin_cases i <;> refine Prod.ext ?_ ?_ <;> simp [trapezoid] <;> ring

end

/-- **The equations of a square and a trapezoid** have one solution at most. -/
theorem det_design_trapezoid {a b c : ℝ} (hab : a + b ≠ 0) (hc : c ≠ 0) :
    ((design (trapezoid 0 0 1 1 1) (trapezoid 0 0 a b c))ᵀ * design (trapezoid 0 0 1 1 1) (trapezoid 0 0 a b c)).det ≠ 0
    := by
  intro hdet
  obtain ⟨v, hv, hzero⟩ := Matrix.exists_mulVec_eq_zero_iff.2 hdet
  rw [← Matrix.conjTranspose_eq_transpose_of_trivial, Matrix.conjTranspose_mul_self_mulVec_eq_zero] at hzero
  have hx := fun i => (design_mulVec_zero v i).symm.trans (congrFun hzero (i, 0))
  have hy := fun i => (design_mulVec_one v i).symm.trans (congrFun hzero (i, 1))
  have hx₀ : (0 + 1) * v 0 + (0 + 1) * v 1 + v 2 - (0 + a) * ((0 + 1) * v 6 + (0 + 1) * v 7) = 0 := hx 0
  have hx₁ : (0 - 1) * v 0 + (0 + 1) * v 1 + v 2 - (0 - a) * ((0 - 1) * v 6 + (0 + 1) * v 7) = 0 := hx 1
  have hx₂ : (0 + 1) * v 0 + (0 - 1) * v 1 + v 2 - (0 + b) * ((0 + 1) * v 6 + (0 - 1) * v 7) = 0 := hx 2
  have hx₃ : (0 - 1) * v 0 + (0 - 1) * v 1 + v 2 - (0 - b) * ((0 - 1) * v 6 + (0 - 1) * v 7) = 0 := hx 3
  have hy₀ : (0 + 1) * v 3 + (0 + 1) * v 4 + v 5 - (0 + c) * ((0 + 1) * v 6 + (0 + 1) * v 7) = 0 := hy 0
  have hy₁ : (0 - 1) * v 3 + (0 + 1) * v 4 + v 5 - (0 + c) * ((0 - 1) * v 6 + (0 + 1) * v 7) = 0 := hy 1
  have hy₂ : (0 + 1) * v 3 + (0 - 1) * v 4 + v 5 - (0 - c) * ((0 + 1) * v 6 + (0 - 1) * v 7) = 0 := hy 2
  have hy₃ : (0 - 1) * v 3 + (0 - 1) * v 4 + v 5 - (0 - c) * ((0 - 1) * v 6 + (0 - 1) * v 7) = 0 := hy 3
  have h6 : c * v 6 = 0 := by linear_combination (hy₂ - hy₃ - hy₀ + hy₁) / 4
  have h7 : (a + b) * v 7 = 0 := by linear_combination (hx₂ - hx₃ - hx₀ + hx₁) / 2
  obtain h6 := (mul_eq_zero.1 h6).resolve_left hc
  obtain h7 := (mul_eq_zero.1 h7).resolve_left hab
  simp only [h6, h7] at hx₀ hx₁ hx₂ hx₃ hy₀ hy₁ hy₂ hy₃
  refine hv (funext fun j => ?_)
  fin_cases j
  · exact show v 0 = 0 by linarith
  · exact show v 1 = 0 by linarith
  · exact show v 2 = 0 by linarith
  · exact show v 3 = 0 by linarith
  · exact show v 4 = 0 by linarith
  · exact show v 5 = 0 by linarith
  · exact h6
  · exact h7

/-! ## The fit -/

section
variable {n : Nat} {p q : Fin n → Point α} {P Q : Fin n → ℝ × ℝ} {M : Matrix (Fin 3) (Fin 3) ℝ}

/-- **A homography of points projects them to their images.** -/
theorem project_maps {m : Mat3 α} (hm : m.IsMatrix M) (hp : ∀ i, IsPoint (p i) (P i)) (hmaps : ∀ i, Maps M (P i) (Q i))
    (i : Fin n) : if |(M *ᵥ lift (P i)) 2| < 1 / 10 ^ 12 then m.project (p i) = none
      else ∃ r, m.project (p i) = some r ∧ IsPoint r (Q i) := by
  rw [← (hmaps i).div_eq]
  exact hm.project (hp i)

variable [ExactRoots α]

/-- The points in their frame, as they are calculated. -/
theorem exists_normalizer? (hn : n ≠ 0) (hp : ∀ i, IsPoint (p i) (P i)) (hP : 1 / 10 ^ 12 ≤ meanDistance P) :
    ∃ t, normalizer? (List.ofFn p) = some t ∧ t.IsMatrix (frame P) ∧
      (List.ofFn p).map (shift t) = List.ofFn (fun i => shift t (p i)) ∧
      ∀ i, IsPoint (shift t (p i)) (framed P i) := by
  have h := normalizer?_ofFn hn hp
  rw [if_neg (not_lt.2 hP)] at h
  obtain ⟨t, ht, hmatrix⟩ := h
  exact ⟨t, ht, hmatrix, List.map_ofFn .., fun i => is_shift hmatrix (hp i)⟩

/-- **The homography of four or more points is found again**, with last entry one, unless the points or their images are
too close together or the last entry behind the frames is too small; it takes the points to their images, unless a third
coordinate is too small. -/
theorem fitWith_recovers {solver : List (Linear.Row α) → Option (List α)} (hs : Linear.SolvesAll 8 solver) (hn : 4 ≤ n)
    (hp : ∀ i, IsPoint (p i) (P i)) (hq : ∀ i, IsPoint (q i) (Q i)) (hP : 1 / 10 ^ 12 ≤ meanDistance P)
    (hQ : 1 / 10 ^ 12 ≤ meanDistance Q) (hmaps : ∀ i, Maps M (P i) (Q i)) (hcorner : normalized P Q M 2 2 ≠ 0)
    (hdet : ((design (framed P) (framed Q))ᵀ * design (framed P) (framed Q)).det ≠ 0) :
    if |denormalized P Q (withOne (normalized P Q M)) 2 2| < 1 / 10 ^ 12 then
      fitWith solver (List.ofFn p) (List.ofFn q) = none
    else ∃ m, fitWith solver (List.ofFn p) (List.ofFn q) = some m ∧ m.IsMatrix (withOne M) ∧
      ∀ i, if |(withOne M *ᵥ lift (P i)) 2| < 1 / 10 ^ 12 then m.project (p i) = none
        else ∃ r, m.project (p i) = some r ∧ IsPoint r (Q i) := by
  have htiny : (0 : ℝ) < 1 / 10 ^ 12 := by positivity
  have hposP := htiny.trans_le hP
  have hposQ := htiny.trans_le hQ
  obtain ⟨ts, hts, hframeP, hmapP, hframedP⟩ := exists_normalizer? (by omega) hp hP
  obtain ⟨td, htd, hframeQ, hmapQ, hframedQ⟩ := exists_normalizer? (by omega) hq hQ
  obtain ⟨back, hback, hinverse⟩ := hframeQ.inverse? (det_frame_ne_zero hposQ)
  obtain ⟨k, hk, hbetween⟩ := exists_fitNormalized (M := withOne (normalized P Q M)) hs hframedP hframedQ
    (fun i => ((hmaps i).framed hposP).smul (inv_ne_zero hcorner)) (inv_mul_cancel₀ hcorner) hdet
  have hbehind : ((back.mul k).mul ts).IsMatrix (denormalized P Q (withOne (normalized P Q M))) :=
    (hinverse.mul hbetween).mul hframeP
  have hfit : fitWith solver (List.ofFn p) (List.ofFn q) =
      if Scalar.abs ((back.mul k).mul ts).i < Mat3.tiny then none
      else some (((back.mul k).mul ts).map (· / ((back.mul k).mul ts).i)) := by
    unfold fitWith
    rw [if_neg (by rw [List.length_ofFn, List.length_ofFn]; omega), hts, htd]
    dsimp only [Option.bind_eq_bind, Option.bind_some]
    rw [hmapP, hmapQ, hk, hback]
    rfl
  rw [hfit]
  split
  · rename_i h
    exact if_pos ((hbehind.i.abs.lt Mat3.is_tiny).2 h)
  · rename_i h
    have hlast : denormalized P Q (withOne (normalized P Q M)) 2 2 ≠ 0 := fun h0 => h (by rwa [h0, abs_zero])
    have hresult : (((back.mul k).mul ts).map (· / ((back.mul k).mul ts).i)).IsMatrix (withOne M) := by
      have := hbehind.map_div hbehind.i hlast
      rwa [← withOne, denormalized_withOne hposP hposQ, withOne_smul (inv_ne_zero hcorner)] at this
    refine ⟨_, if_neg ((hbehind.i.abs.lt Mat3.is_tiny).not.2 h), hresult, project_maps hresult hp fun i => ?_⟩
    refine (hmaps i).smul (inv_ne_zero fun h0 => hlast ?_)
    rw [denormalized_withOne hposP hposQ, Matrix.smul_apply, h0, smul_zero]

end

/-! ## A square and its image -/

/-- Real points to calculate with. -/
def precise {n : Nat} (P : Fin n → ℝ × ℝ) (i : Fin n) : Point Scalar.Precise := (⟨(P i).1⟩, ⟨(P i).2⟩)

theorem isPoint_precise {n : Nat} (P : Fin n → ℝ × ℝ) (i : Fin n) : IsPoint (precise P i) (P i) :=
  ⟨is_val rfl, is_val rfl⟩

/-- A homography under which a square becomes a trapezoid of another size. -/
def tilt : Matrix (Fin 3) (Fin 3) ℝ := !![7, 15, -9; 0, 16, 3; 0, 3, 1]

theorem tilt_mulVec_lift (P : ℝ × ℝ) : (tilt *ᵥ lift P) 2 = 3 * P.2 + 1 := by
  rw [mulVec_lift]
  show 0 * P.1 + 3 * P.2 + 1 = _
  ring

theorem maps_tilt (i : Fin 4) : Maps tilt (trapezoid 2 1 1 1 1 i) (trapezoid 5 4 1 7 1 i) := by
  have hmaps : ∀ {x y u v w : ℝ}, w ≠ 0 → 7 * x + 15 * y + -9 = w * u → 0 * x + 16 * y + 3 = w * v →
      0 * x + 3 * y + 1 = w * 1 → Maps tilt (x, y) (u, v) := fun hw hx hy hz =>
    Maps.iff_coordinates.2 ⟨_, hw, hx, hy, hz⟩
  fin_cases i
  · exact hmaps (w := 7) (by norm_num) (by norm_num) (by norm_num) (by norm_num)
  · exact hmaps (w := 7) (by norm_num) (by norm_num) (by norm_num) (by norm_num)
  · exact hmaps one_ne_zero (by norm_num) (by norm_num) (by norm_num)
  · exact hmaps one_ne_zero (by norm_num) (by norm_num) (by norm_num)

theorem meanDistance_image : meanDistance (trapezoid 5 4 1 7 1) = 3 * Real.sqrt 2 := by
  rw [meanDistance_trapezoid, show (1 : ℝ) ^ 2 + 1 ^ 2 = 2 by norm_num, show (7 : ℝ) ^ 2 + 1 ^ 2 = 5 ^ 2 * 2 by norm_num,
    Real.sqrt_mul (sq_nonneg 5), Real.sqrt_sq (by norm_num)]
  ring

theorem det_design_tilt : ((design (framed (trapezoid 2 1 1 1 1)) (framed (trapezoid 5 4 1 7 1)))ᵀ *
    design (framed (trapezoid 2 1 1 1 1)) (framed (trapezoid 5 4 1 7 1))).det ≠ 0 := by
  have hscale : scale (trapezoid 5 4 1 7 1) = 1 / 3 := by
    rw [scale_eq, meanDistance_image, div_mul_cancel_right₀ (Real.sqrt_pos.2 two_pos).ne', one_div]
  rw [framed_trapezoid (scale_square one_pos), framed_trapezoid hscale, one_div_one, one_mul]
  exact det_design_trapezoid (by norm_num) (by norm_num)

theorem fitWith_recovers_trapezoid : ∃ m,
    fitWith (Linear.solve? 8) (List.ofFn (precise (trapezoid 2 1 1 1 1)))
      (List.ofFn (precise (trapezoid 5 4 1 7 1))) = some m ∧ m.IsMatrix tilt ∧
    ∀ i, ∃ r, m.project (precise (trapezoid 2 1 1 1 1) i) = some r ∧ IsPoint r (trapezoid 5 4 1 7 1 i) := by
  have hroot := Real.one_lt_sqrt_two
  have hP : 1 ≤ meanDistance (trapezoid 2 1 1 1 1) := by linarith [meanDistance_square (x := 2) (y := 1) zero_le_one]
  have hQ : 1 ≤ meanDistance (trapezoid 5 4 1 7 1) := by linarith [meanDistance_image]
  have hlast : normalized (trapezoid 2 1 1 1 1) (trapezoid 5 4 1 7 1) tilt 2 2 = 4 := by
    rw [normalized_last (by linarith), tilt_mulVec_lift, centroid_trapezoid]
    norm_num
  have h := fitWith_recovers (Linear.solvesAll_solve? 8) le_rfl (isPoint_precise _) (isPoint_precise _) (by linarith)
    (by linarith) maps_tilt (by rw [hlast]; norm_num) det_design_tilt
  have hone : withOne tilt = tilt := (congrArg (· • tilt) inv_one).trans (one_smul ℝ tilt)
  have hbehind : denormalized (trapezoid 2 1 1 1 1) (trapezoid 5 4 1 7 1)
      (withOne (normalized (trapezoid 2 1 1 1 1) (trapezoid 5 4 1 7 1) tilt)) 2 2 = 4⁻¹ := by
    rw [denormalized_withOne (by linarith) (by linarith), hlast]
    exact mul_one _
  rw [hbehind, hone, if_neg (by norm_num [abs_of_pos])] at h
  obtain ⟨m, hm, hmatrix, hproject⟩ := h
  refine ⟨m, hm, hmatrix, fun i => ?_⟩
  have hy : 0 ≤ (trapezoid 2 1 1 1 1 i).2 := by
    fin_cases i <;> norm_num [trapezoid]
  have hthird : 1 / 10 ^ 12 ≤ |(tilt *ᵥ lift (trapezoid 2 1 1 1 1 i)) 2| := by
    rw [tilt_mulVec_lift, abs_of_pos (by linarith)]
    linarith
  have hi := hproject i
  rwa [if_neg (not_lt.2 hthird)] at hi

/-- The corners of a square are too close together to be normalised, so that not even the identity is found again. -/
theorem fitWith_specks_eq_none :
    let P := trapezoid 0 0 (1 / 10 ^ 13) (1 / 10 ^ 13) (1 / 10 ^ 13)
    let solver : List (Linear.Row Scalar.Precise) → Option (List Scalar.Precise) := Linear.solve? 8
    Linear.SolvesAll 8 solver ∧ 0 < meanDistance P ∧ (∀ i, Maps 1 (P i) (P i)) ∧ normalized P P 1 2 2 ≠ 0 ∧
      ((design (framed P) (framed P))ᵀ * design (framed P) (framed P)).det ≠ 0 ∧
      1 / 10 ^ 12 ≤ |denormalized P P (withOne (normalized P P 1)) 2 2| ∧
      fitWith solver (List.ofFn (precise P)) (List.ofFn (precise P)) = none := by
  intro P solver
  have he : (0 : ℝ) < 1 / 10 ^ 13 := by positivity
  have hmean : meanDistance P = 1 / 10 ^ 13 * Real.sqrt 2 := meanDistance_square he.le
  have hpos : 0 < meanDistance P := by
    rw [hmean]
    positivity
  have hlast : normalized P P 1 2 2 = 1 := by
    rw [normalized_last hpos, Matrix.one_mulVec]
    rfl
  have hframed : framed P = trapezoid 0 0 1 1 1 := by
    rw [framed_trapezoid (scale_square he), one_div_mul_cancel he.ne']
  refine ⟨Linear.solvesAll_solve? 8, hpos, fun i => ⟨1, one_ne_zero, ?_⟩, ?_, ?_, ?_, ?_⟩
  · rw [Matrix.one_mulVec, one_smul]
  · rw [hlast]
    exact one_ne_zero
  · rw [hframed]
    exact det_design_trapezoid (by norm_num) one_ne_zero
  · rw [denormalized_withOne hpos hpos, hlast, inv_one, one_smul, Matrix.one_apply_eq, abs_one]
    norm_num
  · have hnone := normalizer?_ofFn (n := 4) (by decide) (isPoint_precise P)
    rw [if_pos] at hnone
    · unfold fitWith
      rw [if_neg (by rw [List.length_ofFn]; decide), hnone]
      rfl
    · have hroot : Real.sqrt 2 < 10 := (Real.sqrt_lt' (by norm_num)).2 (by norm_num)
      rw [hmean]
      linarith

end Homography
end Pinpoint
