import Mathlib.Algebra.BigOperators.Field
import Pinpoint.Proofs.Match.Windows
import Pinpoint.Proofs.Scalar.Cosine
import Pinpoint.Proofs.Scalar.Roots
/-!
# Correlation — what a score measures

A score is formed from sums that a table gives: only the reference is taken from its mean, and the spread of a window
is the sum of its squares less the square of its sum over the number of its pixels.  Since deviations from a mean sum
to zero, that is the correlation of the window with the reference, each taken from its mean and brought to length one
(`scoreAt_correlation`).  So a score is between minus one and one, is the same for a brighter or a starker window, and
is one for a window that is a brighter or a starker reference.
-/
namespace Pinpoint
namespace Match

open Scalar (Is Exact Lossless ExactRoots)

/-! ## Two families of numbers -/

section
variable {ι : Type} (S : Finset ι) (f g : ι → ℝ)

noncomputable def mean : ℝ := (∑ i ∈ S, f i) / S.card

/-- How two families deviate from their means together. -/
noncomputable def joint : ℝ := ∑ i ∈ S, (f i - mean S f) * (g i - mean S g)

/-- **The correlation of two families**, each taken from its mean and brought to length one. -/
noncomputable def correlation : ℝ := joint S f g / (√(joint S f f) * √(joint S g g))

variable {S f g} {f' : ι → ℝ} {a b : ℝ}

theorem sum_sub_mean : ∑ i ∈ S, (f i - mean S f) = 0 := by
  rcases S.eq_empty_or_nonempty with rfl | hS
  · rfl
  · have hcard : (S.card : ℝ) ≠ 0 := Nat.cast_ne_zero.2 (Finset.card_ne_zero.2 hS)
    rw [Finset.sum_sub_distrib, Finset.sum_const, nsmul_eq_mul, mean, mul_div_cancel₀ _ hcard, sub_self]

/-- It is enough that one of the families is taken from its mean. -/
theorem joint_eq_sum_mul : joint S f g = ∑ i ∈ S, f i * (g i - mean S g) := by
  simp only [joint, sub_mul]
  rw [Finset.sum_sub_distrib, ← Finset.mul_sum, sum_sub_mean, mul_zero, sub_zero]

/-- The squared deviations, from the sum and the sum of the squares. -/
theorem joint_self_eq : joint S f f = ∑ i ∈ S, f i ^ 2 - (∑ i ∈ S, f i) * (∑ i ∈ S, f i) / S.card := by
  simp only [joint_eq_sum_mul, mul_sub, Finset.sum_sub_distrib, ← Finset.sum_mul, ← sq]
  rw [mean, sq, mul_div_assoc]

theorem joint_self_nonneg : 0 ≤ joint S f f := Finset.sum_nonneg fun _ _ => mul_self_nonneg _

/-- Deviations are no longer together than each for itself. -/
theorem joint_sq_le : joint S f g ^ 2 ≤ joint S f f * joint S g g := by
  have := Finset.sum_mul_sq_le_sq_mul_sq S (fun i => f i - mean S f) fun i => g i - mean S g
  simpa only [joint, ← sq] using this

theorem correlation_eq : correlation S f g = Scalar.cosine S (fun i => f i - mean S f) fun i => g i - mean S g := rfl

theorem abs_correlation_le_one : |correlation S f g| ≤ 1 := correlation_eq ▸ Scalar.abs_cosine_le_one

theorem correlation_self (h : 0 < joint S f f) : correlation S f f = 1 := correlation_eq.trans (Scalar.cosine_self h)

theorem sub_mean_affine (h : ∀ i ∈ S, f' i = a * f i + b) {i : ι} (hi : i ∈ S) :
    f' i - mean S f' = a * (f i - mean S f) := by
  have hcard : (S.card : ℝ) ≠ 0 := Nat.cast_ne_zero.2 (Finset.card_ne_zero.2 ⟨i, hi⟩)
  have hmean : mean S f' = a * mean S f + b := by
    rw [mean, Finset.sum_congr rfl h, Finset.sum_add_distrib, ← Finset.mul_sum, Finset.sum_const, nsmul_eq_mul,
      add_div, mul_div_assoc, mul_div_cancel_left₀ _ hcard, mean]
  rw [h i hi, hmean]
  ring

theorem joint_affine (h : ∀ i ∈ S, f' i = a * f i + b) : joint S f' g = a * joint S f g := by
  rw [joint, joint, Finset.mul_sum]
  exact Finset.sum_congr rfl fun i hi => by rw [sub_mean_affine h hi, mul_assoc]

theorem joint_self_affine (h : ∀ i ∈ S, f' i = a * f i + b) : joint S f' f' = a ^ 2 * joint S f f := by
  rw [joint, joint, Finset.mul_sum]
  exact Finset.sum_congr rfl fun i hi => by rw [sub_mean_affine h hi, mul_mul_mul_comm, sq]

/-- **Neither a constant nor a positive factor changes a correlation.** -/
theorem correlation_affine (ha : 0 < a) (h : ∀ i ∈ S, f' i = a * f i + b) :
    correlation S f' g = correlation S f g := by
  rw [correlation, joint_affine h, joint_self_affine h, Real.sqrt_mul (sq_nonneg a), Real.sqrt_sq ha.le, mul_assoc,
    mul_div_mul_left _ _ ha.ne', correlation]

end

/-! ## Sums over planes -/

section
variable {α : Type} [Scalar α] [Exact α]

theorem Holds.is_foldl {l : List α} {n : Nat} {f : Nat → ℝ} (hl : Holds l n f) {acc : α} {a : ℝ} (hacc : Is acc a) :
    Is (l.foldl (· + ·) acc) (a + ∑ i ∈ Finset.range n, f i) := by
  induction l generalizing acc a n f with
  | nil =>
    obtain rfl := hl.length
    simpa using hacc
  | cons v l ih =>
    obtain ⟨hv, hrest⟩ := hl.uncons
    obtain ⟨m, rfl⟩ : ∃ m, n = m + 1 := ⟨l.length, hl.length.symm⟩
    rw [Finset.sum_range_succ', add_comm (∑ i ∈ Finset.range m, f (i + 1)), ← add_assoc]
    exact ih hrest (hacc.add hv)

/-- The sum of rows, one after the other. -/
theorem is_foldl_flatten {rows : List (List α)} {w : Nat} {f : Nat → Nat → ℝ}
    (hrows : ∀ j r, rows[j]? = some r → Holds r w fun i => f i j) {acc : α} {a : ℝ} (hacc : Is acc a) :
    Is (rows.flatten.foldl (· + ·) acc) (a + ∑ j ∈ Finset.range rows.length, ∑ i ∈ Finset.range w, f i j) := by
  induction rows generalizing acc a f with
  | nil => simpa using hacc
  | cons r rows ih =>
    rw [List.flatten_cons, List.foldl_append, List.length_cons, Finset.sum_range_succ',
      add_comm (∑ j ∈ Finset.range rows.length, _), ← add_assoc]
    exact ih (f := fun i j => f i (j + 1)) (fun j q hj => hrows (j + 1) q hj) ((hrows 0 r rfl).is_foldl hacc)

end

namespace Plane

variable {ν ω : Type}

/-- The places of a plane. -/
def cells (p : Plane ν) : Finset (Nat × Nat) := Finset.range p.width ×ˢ Finset.range p.height

theorem mem_cells {p : Plane ν} {q : Nat × Nat} : q ∈ p.cells ↔ q.1 < p.width ∧ q.2 < p.height := by
  rw [cells, Finset.mem_product, Finset.mem_range, Finset.mem_range]

theorem card_cells (p : Plane ν) : p.cells.card = p.width * p.height := by
  rw [cells, Finset.card_product, Finset.card_range, Finset.card_range]

theorem sum_cells (p : Plane ν) (f : Nat × Nat → ℝ) :
    ∑ q ∈ p.cells, f q = ∑ j ∈ Finset.range p.height, ∑ i ∈ Finset.range p.width, f (i, j) :=
  Finset.sum_product_right _ _ f

theorem values_map (p : Plane ν) (f : ν → ν) (g : ν → ω) :
    ((p.rows.map fun r => r.map f).toList.flatMap fun r => r.toList.map g) = p.values.map fun v => g (f v) := by
  simp [values, List.flatMap_map, List.map_flatMap, Function.comp_def]

theorem length_values {p : Plane ν} (hp : Grid p.rows p.width p.height) : p.values.length = p.width * p.height := by
  have hrows : p.rows.toList.map (fun r => r.toList.length) = List.replicate p.height p.width := by
    rw [List.eq_replicate_iff, List.length_map, Array.length_toList, hp.height]
    refine ⟨rfl, fun n hn => ?_⟩
    obtain ⟨r, hr, rfl⟩ := List.mem_map.1 hn
    rw [Array.length_toList, hp.width r (Array.mem_toList_iff.1 hr)]
  rw [values, List.length_flatMap, hrows, List.sum_replicate_nat, Nat.mul_comm]

variable [Scalar ν] [Scalar ω]

theorem Full.getD_map {p : Plane ν} (hp : p.Full) {x y : Nat} (hx : x < p.width) (hy : y < p.height) (f : ν → ν)
    (d : ν) : ((p.rows.map fun r => r.map f).getD y #[]).getD x d = f (p.value x y) := by
  obtain ⟨r, hr, hsize⟩ := hp.grid.exists_row hy
  have hv := Array.getElem?_eq_getElem (hsize ▸ hx : x < r.size)
  simp [value_eq hr hv, Array.getD_eq_getD_getElem?, hr, hv]

variable [Exact ν] [Exact ω]

/-- The values of a plane as a family of numbers. -/
noncomputable def levels (p : Plane ν) (q : Nat × Nat) : ℝ := p.level q.1 q.2

theorem Full.is_sum {p : Plane ν} (hp : p.Full) {F : ν → ω} {g : ℝ → ℝ} (hF : ∀ v r, Is v r → Is (F v) (g r)) :
    Is (Scalar.sum (p.values.map F)) (∑ q ∈ p.cells, g (p.levels q)) := by
  have hsum := is_foldl_flatten (hp.holds_map hF) (Is.zero (α := ω))
  rw [zero_add, List.length_map, Array.length_toList, hp.grid.height] at hsum
  rw [values, List.map_flatMap, List.flatMap_def, Scalar.sum]
  rw [sum_cells]
  exact hsum

omit [Scalar ω] [Exact ω] in
theorem level_ofPicture {p : Picture} {x y : Nat} (hx : x < p.w) (hy : y < p.h) :
    (ofPicture p : Plane ν).level x y = (p.toLuma.byte x y 0).toNat := by
  rw [← (Is.ofNat (α := ν) (p.toLuma.byte x y 0).toNat).2, level]
  congr 1
  simp [value, row, ofPicture, ofFn, Array.getD_eq_getD_getElem?, p.w_toLuma, p.h_toLuma, hx, hy]

variable [Widening ν ω] [Lossless ν ω]

theorem Full.is_deviation {p : Plane ν} (hp : p.Full) (hcells : p.width * p.height ≠ 0) {v : ν} {r : ℝ} (hv : Is v r) :
    Is (Widening.narrow ((Widening.widen v : ω) -
        Scalar.sum (p.values.map Widening.widen) / Scalar.ofNat (p.width * p.height)) : ν)
      (r - mean p.cells p.levels) := by
  have hsum := hp.is_sum (F := (Widening.widen : ν → ω)) (g := id) fun _ _ => Lossless.widen
  rw [mean, card_cells]
  exact Lossless.narrow (Is.sub (Lossless.widen hv) (hsum.div (Is.ofNat _) (Nat.cast_ne_zero.2 hcells)))

end Plane

/-! ## Templates -/

variable {ν ω : Type} [Scalar ν] [Scalar ω] [Widening ν ω] [Exact ν] [Exact ω] [Lossless ν ω]

/-- **What a template keeps of its plane**: the deviations from the mean, and their length. -/
structure Template.Centred (t : Template ν ω) (p : Plane ν) : Prop where
  width  : t.width = p.width
  height : t.height = p.height
  value {i j : Nat} : i < p.width → j < p.height →
    Is ((t.rows.getD j #[]).getD i (Scalar.ofInt 0)) (p.level i j - mean p.cells p.levels)
  norm   : Is t.norm √(joint p.cells p.levels p.levels)

theorem is_flatness : Is (flatness : ω) (1 / 1000000) := by
  have := Is.ratio (α := ω) 1 (q := 1000000) (by omega)
  rwa [Nat.cast_one, Nat.cast_ofNat] at this

namespace Template

variable [ExactRoots ω] {p : Plane ν} {t : Template ν ω}

theorem ofPlane?_eq (hp : p.Full) :
    ∃ t : Template ν ω, ofPlane? p = (if flatness < t.norm then some t else none) ∧ t.Centred p := by
  unfold ofPlane?
  simp only [Plane.values_map, List.length_map, Plane.length_values hp.grid]
  refine ⟨⟨p.width, p.height, _, _⟩, rfl, rfl, rfl, fun {i j} hi hj => ?_, ExactRoots.sqrt ?_ joint_self_nonneg⟩
  · rw [hp.getD_map hi hj]
    exact hp.is_deviation (Nat.mul_pos (Nat.zero_lt_of_lt hi) (Nat.zero_lt_of_lt hj)).ne' (hp.is_value i j)
  · by_cases hcells : p.width * p.height = 0
    · -- without a value there is no mean, and nothing that deviates from it
      rw [List.length_eq_zero_iff.1 ((Plane.length_values hp.grid).trans hcells),
        Finset.card_eq_zero.1 ((Plane.card_cells _).trans hcells)]
      exact Is.zero
    · exact hp.is_sum fun v r hv =>
        have hwide : Is (Widening.widen _ : ω) _ := Lossless.widen (hp.is_deviation (ω := ω) hcells hv)
        hwide.mul hwide

theorem centred (hp : p.Full) (h : ofPlane? p = some t) :
    t.Centred p ∧ 0 < joint p.cells p.levels p.levels := by
  obtain ⟨t', ht', hcentred⟩ := ofPlane?_eq (ω := ω) hp
  rw [h] at ht'
  split at ht'
  case isFalse => cases ht'
  case isTrue hflat =>
    obtain rfl := Option.some.inj ht'
    refine ⟨hcentred, Real.sqrt_pos.1 (lt_trans ?_ ((is_flatness.lt hcentred.norm).1 hflat))⟩
    norm_num

/-- **Only a flat plane makes no template.** -/
theorem exists_ofPlane? (hp : p.Full) (h : 1 / 1000000 < √(joint p.cells p.levels p.levels)) :
    ∃ t : Template ν ω, ofPlane? p = some t := by
  obtain ⟨t, ht, hcentred⟩ := ofPlane?_eq (ω := ω) hp
  exact ⟨t, ht.trans (if_pos ((is_flatness.lt hcentred.norm).2 h))⟩

end Template

/-! ## Scores -/

namespace Search

/-- **A search for a plane**: what it keeps is made of the scene and of the plane. -/
structure Of (s : Search ν ω) (reference : Plane ν) : Prop where
  scene    : s.scene.Full
  integral : s.integral = Integral.ofPlane s.scene
  template : Template.ofPlane? reference = some s.template
  full     : reference.Full

/-- The window is not taken to be flat. -/
def Uneven (s : Search ν ω) (x y : Nat) : Prop :=
  ¬ s.spread x y ≤ flatness * Scalar.ofNat (s.template.width * s.template.height)

/-- The values of the window at a place, as a family of numbers. -/
noncomputable def window (s : Search ν ω) (x y : Nat) (q : Nat × Nat) : ℝ := s.scene.level (x + q.1) (y + q.2)

omit [Exact ω] [Lossless ν ω] in
theorem of_make? {scene reference : Picture} {s : Search ν ω} (h : make? scene reference = some s) :
    s.Of (Plane.ofPicture reference) := by
  obtain ⟨hscene, hintegral, htemplate, -, -⟩ := make?_eq_some h
  exact ⟨hscene ▸ Plane.full_ofPicture scene, hintegral, htemplate, Plane.full_ofPicture reference⟩

theorem is_rowProduct {a b : Array ν} {f g : Nat → ℝ} {x left i : Nat}
    (ha : ∀ k, k < i + left → Is (a.getD (x + k) (Scalar.ofInt 0)) (f k))
    (hb : ∀ k, k < i + left → Is (b.getD k (Scalar.ofInt 0)) (g k)) {acc : ν} {r : ℝ} (hacc : Is acc r) :
    Is (rowProduct a b x left i acc) (r + ∑ k ∈ Finset.range left, f (i + k) * g (i + k)) := by
  induction left generalizing i acc r with
  | zero => simpa [rowProduct] using hacc
  | succ left ih =>
    have hnext := ih (i := i + 1) (fun k hk => ha k (by omega)) (fun k hk => hb k (by omega))
      (hacc.add ((ha i (by omega)).mul (hb i (by omega))))
    rw [Finset.sum_range_succ', add_zero, add_comm (∑ k ∈ Finset.range left, _), ← add_assoc]
    simpa only [rowProduct, Nat.add_assoc, Nat.add_comm 1] using hnext

variable {s : Search ν ω} {reference : Plane ν} {x y : Nat}

/-- **The cross term**: how a window and the reference deviate together. -/
theorem is_cross (ht : s.template.Centred reference) (hscene : s.scene.Full) :
    Is (s.cross x y) (joint reference.cells (s.window x y) reference.levels) := by
  have hrow : ∀ j ∈ List.range s.template.height, Is (Widening.widen (rowProduct (s.scene.row (y + j))
      (s.template.rows.getD j #[]) x s.template.width 0 (Scalar.ofInt 0)) : ω)
      (∑ i ∈ Finset.range s.template.width, s.window x y (i, j) *
        (reference.level i j - mean reference.cells reference.levels)) := by
    intro j hj
    rw [List.mem_range, ht.height] at hj
    have hvalues : ∀ i, i < 0 + s.template.width →
        Is ((s.template.rows.getD j #[]).getD i (Scalar.ofInt 0))
          (reference.level i j - mean reference.cells reference.levels) :=
      fun i hi => ht.value (by rwa [Nat.zero_add, ht.width] at hi) hj
    have hsum := is_rowProduct (fun i _ => hscene.is_value (x + i) (y + j)) hvalues Is.zero
    simp only [zero_add] at hsum
    exact Lossless.widen hsum
  have hsum := Is.sum _ hrow
  rw [Scalar.sum, List.foldl_map, ht.width, ht.height] at hsum
  rw [joint_eq_sum_mul, Plane.sum_cells, cross, ht.width, ht.height]
  exact hsum

variable [ExactRoots ω]

theorem Of.nonempty (hs : s.Of reference) : reference.width * reference.height ≠ 0 := by
  intro hzero
  have hpos := (Template.centred hs.full hs.template).2
  rw [Finset.card_eq_zero.1 ((Plane.card_cells _).trans hzero)] at hpos
  exact lt_irrefl _ hpos

/-- How a window deviates, from the sums of two tables. -/
theorem Of.is_spread (hs : s.Of reference) (hx : x + s.template.width ≤ s.scene.width)
    (hy : y + s.template.height ≤ s.scene.height) :
    Is (s.spread x y) (joint reference.cells (s.window x y) (s.window x y)) := by
  obtain ⟨ht, -⟩ := Template.centred hs.full hs.template
  obtain ⟨hsums, hsquares⟩ := Integral.is_window (ω := ω) hs.scene hx hy
  rw [← hs.integral, ht.width, ht.height] at hsums hsquares
  rw [joint_self_eq, Plane.card_cells, Plane.sum_cells, Plane.sum_cells]
  unfold spread
  rw [ht.width, ht.height]
  exact hsquares.sub ((hsums.mul hsums).div (Is.ofNat _) (Nat.cast_ne_zero.2 hs.nonempty))

/-- A window that is not taken to be flat is not. -/
theorem Uneven.joint_pos (h : s.Uneven x y) (hs : s.Of reference) (hx : x + s.template.width ≤ s.scene.width)
    (hy : y + s.template.height ≤ s.scene.height) :
    0 < joint reference.cells (s.window x y) (s.window x y) := by
  have hflat := is_flatness.mul (Is.ofNat (α := ω) (s.template.width * s.template.height))
  exact lt_of_le_of_lt (by positivity) (not_le.1 (((hs.is_spread hx hy).le hflat).not.1 h))

theorem Uneven.is_scoreAt (h : s.Uneven x y) (hs : s.Of reference) (hx : x + s.template.width ≤ s.scene.width)
    (hy : y + s.template.height ≤ s.scene.height) :
    Is (s.scoreAt x y) (correlation reference.cells (s.window x y) reference.levels) := by
  obtain ⟨ht, hpos⟩ := Template.centred hs.full hs.template
  have hvaried := h.joint_pos hs hx hy
  have hlength := ht.norm.mul (ExactRoots.sqrt (hs.is_spread hx hy) hvaried.le)
  have hscore := (is_cross (x := x) (y := y) ht hs.scene).div hlength
    (mul_pos (Real.sqrt_pos.2 hpos) (Real.sqrt_pos.2 hvaried)).ne'
  unfold scoreAt
  dsimp only
  rw [if_neg h, correlation, mul_comm √(joint _ (s.window x y) _)]
  exact Lossless.narrow hscore

/-- **A score is the correlation of the window with the reference**: it is between minus one and one; a window with a
constant added and a positive factor has the same score, unless it is then taken to be flat; and a window that is such a
reference scores one. -/
theorem scoreAt_correlation (hs : s.Of reference) (hx : x + s.template.width ≤ s.scene.width)
    (hy : y + s.template.height ≤ s.scene.height) (h : s.Uneven x y) :
    Is (s.scoreAt x y) (correlation reference.cells (s.window x y) reference.levels) ∧
    (∃ cross norm spread score, Is (s.cross x y) cross ∧ Is s.template.norm norm ∧ Is (s.spread x y) spread ∧
      Is (s.scoreAt x y) score ∧ score = cross / √(norm ^ 2 * spread) ∧ cross ^ 2 ≤ norm ^ 2 * spread ∧
      -1 ≤ score ∧ score ≤ 1) ∧
    (∀ (s' : Search ν ω) (x' y' : Nat) (a b : ℝ), s'.Of reference → x' + s'.template.width ≤ s'.scene.width →
      y' + s'.template.height ≤ s'.scene.height → 0 < a →
      (∀ q ∈ reference.cells, s'.window x' y' q = a * s.window x y q + b) →
      (∀ v, Is (s.spread x y) v → Is (s'.spread x' y') (a ^ 2 * v)) ∧
      (s'.Uneven x' y' → ∀ r, Is (s.scoreAt x y) r → Is (s'.scoreAt x' y') r)) ∧
    ∀ a b : ℝ, 0 < a →
      (∀ q ∈ reference.cells, s.window x y q = a * reference.levels q + b) →
      Is (s.scoreAt x y) 1 := by
  obtain ⟨ht, hpos⟩ := Template.centred hs.full hs.template
  have hscore := h.is_scoreAt hs hx hy
  have hspread := hs.is_spread hx hy
  refine ⟨hscore, ⟨_, _, _, _, is_cross ht hs.scene, ht.norm, hspread, hscore, ?_, ?_, ?_⟩, ?_, ?_⟩
  · rw [Real.sqrt_mul (sq_nonneg _), Real.sqrt_sq (Real.sqrt_nonneg _), correlation,
      mul_comm √(joint _ reference.levels _)]
  · rw [Real.sq_sqrt hpos.le, mul_comm]
    exact joint_sq_le
  · exact abs_le.1 abs_correlation_le_one
  · intro s' x' y' a b hs' hx' hy' ha hwindow
    refine ⟨fun v hv => ?_, fun h' r hr => ?_⟩
    · rw [← hv.2, hspread.2, ← joint_self_affine hwindow]
      exact hs'.is_spread hx' hy'
    · rw [← hr.2, hscore.2, ← correlation_affine ha hwindow]
      exact h'.is_scoreAt hs' hx' hy'
  · intro a b ha hwindow
    rwa [correlation_affine ha hwindow, correlation_self hpos] at hscore

/-! A mark, half as stark and ten brighter beside a dark column. -/

def stamp : Picture := Picture.ofFn 2 2 .luma fun x y _ => if x = y then 200 else 20
def faded : Picture := Picture.ofFn 3 2 .luma fun x y _ => if x = 0 then 0 else if x = y + 1 then 110 else 20

noncomputable def plate : Plane Scalar.Precise := Plane.ofPicture stamp

theorem levels_plate : ∀ q ∈ plate.cells, plate.levels q = if q.1 = q.2 then 200 else 20 := by
  intro q hq
  obtain ⟨hi, hj⟩ : q.1 < 2 ∧ q.2 < 2 := Plane.mem_cells.1 hq
  have hbyte : ∀ i < 2, ∀ j < 2, (stamp.toLuma.byte i j 0).toNat = if i = j then 200 else 20 := by decide
  rw [Plane.levels, plate, Plane.level_ofPicture hi hj, hbyte _ hi _ hj]
  split <;> rfl

theorem joint_plate : joint plate.cells plate.levels plate.levels = 32400 := by
  have hwidth : plate.width = 2 := rfl
  have hheight : plate.height = 2 := rfl
  rw [joint_self_eq, Plane.card_cells, Finset.sum_congr rfl levels_plate,
    Finset.sum_congr rfl fun q hq => congrArg (· ^ 2) (levels_plate q hq), Plane.sum_cells, Plane.sum_cells]
  norm_num [hwidth, hheight, Finset.sum_range_succ]

theorem exists_search_plate : ∃ s : Search Scalar.Precise Scalar.Precise, make? faded stamp = some s := by
  obtain ⟨t, ht⟩ := Template.exists_ofPlane? (ω := Scalar.Precise) (Plane.full_ofPicture stamp) (by
    rw [Real.lt_sqrt (by norm_num)]
    exact lt_of_lt_of_eq (by norm_num) joint_plate.symm)
  unfold make?
  rw [if_neg (by decide), ht]
  exact ⟨_, rfl⟩

theorem window_faded {s : Search Scalar.Precise Scalar.Precise} (hs : s.scene = Plane.ofPicture faded) :
    ∀ q ∈ plate.cells, s.window 1 0 q = 1 / 2 * plate.levels q + 10 := by
  intro q hq
  obtain ⟨hi, hj⟩ : q.1 < 2 ∧ q.2 < 2 := Plane.mem_cells.1 hq
  have hbyte : ∀ i < 2, ∀ j < 2, (faded.toLuma.byte (1 + i) (0 + j) 0).toNat = if i = j then 110 else 20 := by decide
  have hi' : 1 + q.1 < 3 := by omega
  have hj' : 0 + q.2 < 2 := by omega
  rw [window, hs, Plane.level_ofPicture hi' hj', hbyte _ hi _ hj, levels_plate q hq]
  split <;> norm_num

theorem scoreAt_correlation_faded : ∃ s : Search Scalar.Precise Scalar.Precise,
    make? faded stamp = some s ∧ s.Of plate ∧ 1 + s.template.width ≤ s.scene.width ∧
    0 + s.template.height ≤ s.scene.height ∧ s.Uneven 1 0 ∧ Is (s.scoreAt 1 0) 1 := by
  obtain ⟨s, hmake⟩ := exists_search_plate
  obtain ⟨hscene, -⟩ := make?_eq_some hmake
  have hs : s.Of plate := of_make? hmake
  obtain ⟨hcentred, -⟩ := Template.centred hs.full hs.template
  have hwidth : s.template.width = 2 := hcentred.width
  have hheight : s.template.height = 2 := hcentred.height
  have hx : 1 + s.template.width ≤ s.scene.width := by
    rw [hwidth, hscene]
    decide
  have hy : 0 + s.template.height ≤ s.scene.height := by
    rw [hheight, hscene]
    decide
  have huneven : s.Uneven 1 0 := by
    have hspread := hs.is_spread hx hy
    rw [joint_self_affine (window_faded hscene), joint_plate] at hspread
    rw [Uneven, hspread.le (is_flatness.mul (Is.ofNat _)), hwidth, hheight]
    norm_num
  exact ⟨s, hmake, hs, hx, hy, huneven,
    (scoreAt_correlation hs hx hy huneven).2.2.2 _ _ (by norm_num) (window_faded hscene)⟩

end Search

end Match
end Pinpoint
