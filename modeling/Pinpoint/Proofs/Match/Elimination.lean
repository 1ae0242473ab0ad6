import Mathlib.LinearAlgebra.Matrix.ToLinearEquiv
import Mathlib.Tactic.FieldSimp
import Mathlib.Tactic.LinearCombination
import Pinpoint.Match.Linear
import Pinpoint.Proofs.Scalar.Finite
/-!
# Elimination — systems of equations solved exactly

In exact arithmetic elimination finds the solution of every system with as many equations as unknowns and a determinant
that is not zero (`solvesAll_solve?`).  What carries the induction is that such a system without right sides has no
solution but zero (`Regular`): then some leading coefficient is not zero, the pivot is the largest, and the rows that it
is cleared from are a regular system in one unknown less.
-/
namespace Pinpoint
namespace Scalar
namespace Is

variable {α : Type} [Scalar α] [Exact α] {a : α} {r : ℝ}

theorem neg (ha : Is a r) : Is (-a) (-r) := by
  obtain ⟨ha, rfl⟩ := ha
  exact Exact.neg ha

theorem abs (ha : Is a r) : Is (Scalar.abs a) |r| := by
  unfold Scalar.abs
  split
  · rename_i h
    rw [abs_of_neg ((ha.lt zero).1 h)]
    exact ha.neg
  · rename_i h
    rwa [abs_of_nonneg (not_lt.1 ((ha.lt zero).not.1 h))]

end Is
end Scalar

namespace Linear

open Scalar (Is Exact isFinite is_val)

variable {α : Type} [Scalar α]

/-- An equation in `n` unknowns, its values finite. -/
structure Row.Fits (n : Nat) (r : Row α) : Prop where
  length : r.coeffs.length = n
  finite : ∀ a ∈ r.coeffs, isFinite a = true
  right : isFinite r.right = true

/-- As many equations as unknowns. -/
structure IsSystem (n : Nat) (rows : List (Row α)) : Prop where
  length : rows.length = n
  fits : ∀ r ∈ rows, r.Fits n

variable [Exact α]

/-- A value of a list as a real number. -/
noncomputable def entry (l : List α) (j : Nat) : ℝ := Exact.val (l.getD j (Scalar.ofInt 0))

/-- The left side of an equation with some coefficients. -/
noncomputable def side {n : Nat} (l : List α) (x : Fin n → ℝ) : ℝ := ∑ j : Fin n, entry l j * x j

/-- The coefficients of a system. -/
noncomputable def coefficients (n : Nat) (rows : List (Row α)) : Matrix (Fin n) (Fin n) ℝ := fun i j =>
  entry ((rows.map Row.coeffs).getD i []) j

/-- **The numbers solve the system.** -/
structure Solves (n : Nat) (rows : List (Row α)) (xs : List α) : Prop where
  length : xs.length = n
  finite : ∀ x ∈ xs, isFinite x = true
  equal : ∀ r ∈ rows, side r.coeffs (fun j : Fin n => entry xs j) = Exact.val r.right

/-- **A solver that solves every nonsingular system** of its size. -/
def SolvesAll (n : Nat) (solver : List (Row α) → Option (List α)) : Prop :=
  ∀ rows, IsSystem n rows → (coefficients n rows).det ≠ 0 → ∃ xs, solver rows = some xs ∧ Solves n rows xs

/-- No numbers but zeros make all left sides zero. -/
def Regular (n : Nat) (rows : List (Row α)) : Prop := ∀ x : Fin n → ℝ, (∀ r ∈ rows, side r.coeffs x = 0) → x = 0

/-! ## Values of lists -/

theorem entry_of_getElem? {l : List α} {j : Nat} {a : α} (h : l[j]? = some a) : entry l j = Exact.val a := by
  rw [entry, List.getD_eq_getElem?_getD, h, Option.getD_some]

/-- **A sum of products**, value by value. -/
theorem is_dot {a b : List α} {n : Nat} (ha : a.length = n) (hb : b.length = n) (hfa : ∀ v ∈ a, isFinite v = true)
    (hfb : ∀ v ∈ b, isFinite v = true) : Is (dot a b) (∑ j : Fin n, entry a j * entry b j) := by
  have hsum := Is.sum (f := fun p : α × α => p.1 * p.2) (g := fun p => Exact.val p.1 * Exact.val p.2) (a.zip b)
    fun p hp => (is_val (hfa _ (List.of_mem_zip hp).1)).mul (is_val (hfb _ (List.of_mem_zip hp).2))
  have hreal : ((a.zip b).map fun p => Exact.val p.1 * Exact.val p.2).sum = ∑ j : Fin n, entry a j * entry b j := by
    clear hsum hfa hfb
    induction n generalizing a b with
    | zero =>
      obtain rfl := List.length_eq_zero_iff.1 ha
      rfl
    | succ n ih =>
      obtain ⟨u, a, rfl⟩ := List.exists_cons_of_length_eq_add_one ha
      obtain ⟨v, b, rfl⟩ := List.exists_cons_of_length_eq_add_one hb
      rw [List.zip_cons_cons, List.map_cons, List.sum_cons, ih (Nat.succ.inj ha) (Nat.succ.inj hb), Fin.sum_univ_succ]
      rfl
  rw [hreal] at hsum
  rwa [dot, ← List.map_uncurry_zip_eq_zipWith]

/-- The first term of a left side, and the rest. -/
theorem Row.Fits.side_eq {n : Nat} {r : Row α} (hr : r.Fits (n + 1)) (x : Fin (n + 1) → ℝ) :
    side r.coeffs x = Exact.val r.lead * x 0 + side r.coeffs.tail (Fin.tail x) := by
  obtain ⟨coeffs, right⟩ := r
  obtain ⟨c, cs, rfl⟩ := List.exists_cons_of_length_eq_add_one hr.length
  exact Fin.sum_univ_succ _

/-! ## Pivots -/

section
variable {r s : Row α} {l : List (Row α)} {n : Nat}

omit [Exact α] in
theorem pullPivot_perm (r : Row α) (l : List (Row α)) : ((pullPivot r l).1 :: (pullPivot r l).2).Perm (r :: l) := by
  induction l generalizing r with
  | nil => exact .refl _
  | cons s l ih =>
    unfold pullPivot
    split
    · exact (List.Perm.swap _ _ _).trans ((ih s).cons r)
    · exact (List.Perm.swap _ _ _).trans (((ih r).cons s).trans (.swap _ _ _))

theorem Row.Fits.lead (h : r.Fits n) : isFinite r.lead = true := by
  obtain ⟨coeffs, right⟩ := r
  cases coeffs with
  | nil => exact Scalar.isFinite_ofInt 0
  | cons c cs => exact h.finite c List.mem_cons_self

/-- **The pivot has the largest leading coefficient.** -/
theorem abs_lead_le_pivot (hr : r.Fits n) (hl : ∀ s ∈ l, s.Fits n) :
    ∀ s ∈ r :: l, |Exact.val s.lead| ≤ |Exact.val (pullPivot r l).1.lead| := by
  induction l generalizing r with
  | nil =>
    intro s hs
    rw [List.mem_singleton.1 hs]
    rfl
  | cons t l ih =>
    obtain ⟨ht, hl⟩ := List.forall_mem_cons.1 hl
    have hlt := (is_val hr.lead).abs.lt (is_val ht.lead).abs
    rw [List.forall_mem_cons, List.forall_mem_cons]
    unfold pullPivot
    split
    · rename_i h
      obtain ⟨hpivot, hrest⟩ := List.forall_mem_cons.1 (ih ht hl)
      exact ⟨(hlt.1 h).le.trans hpivot, hpivot, hrest⟩
    · rename_i h
      obtain ⟨hpivot, hrest⟩ := List.forall_mem_cons.1 (ih hr hl)
      exact ⟨hpivot, (not_lt.1 (hlt.not.1 h)).trans hpivot, hrest⟩

theorem isZero_iff {a : α} {x : ℝ} (ha : Is a x) : isZero a = true ↔ x = 0 := by
  rw [isZero, Bool.and_eq_true, decide_eq_true_iff, decide_eq_true_iff, ha.le .zero, Is.zero.le ha]
  exact ⟨fun h => le_antisymm h.1 h.2, fun h => ⟨h.le, h.ge⟩⟩

/-- A regular system has a leading coefficient that is not zero. -/
theorem Regular.pivot_ne_zero (h : Regular (n + 1) (r :: l)) (hr : r.Fits (n + 1)) (hl : ∀ s ∈ l, s.Fits (n + 1)) :
    Exact.val (pullPivot r l).1.lead ≠ 0 := by
  intro hzero
  have hlead : ∀ s ∈ r :: l, Exact.val s.lead = 0 := by
    intro s hs
    have := abs_lead_le_pivot hr hl s hs
    rwa [hzero, abs_zero, abs_nonpos_iff] at this
  -- one in the first place and zeros behind it make all left sides zero
  have hx := h (Fin.cons 1 0) fun s hs => by
    have hfits : s.Fits (n + 1) := (List.forall_mem_cons (p := Row.Fits (n + 1))).2 ⟨hr, hl⟩ s hs
    rw [hfits.side_eq, hlead s hs, zero_mul, zero_add, Fin.tail_cons]
    simp [side]
  exact one_ne_zero (congrFun hx 0)

end

/-! ## Clearing -/

section
variable {p r : Row α} {rest : List (Row α)} {n : Nat}

omit [Exact α] in
theorem Row.Fits.tail (h : r.Fits (n + 1)) :
    r.coeffs.tail.length = n ∧ ∀ a ∈ r.coeffs.tail, isFinite a = true :=
  ⟨by rw [List.length_tail, h.length, Nat.add_sub_cancel], fun a ha => h.finite a (List.mem_of_mem_tail ha)⟩

/-- The share of the pivot row that is taken from another. -/
theorem is_share (hp : p.Fits (n + 1)) (hr : r.Fits (n + 1)) (hpivot : Exact.val p.lead ≠ 0) :
    Is (r.lead / p.lead) (Exact.val r.lead / Exact.val p.lead) :=
  (is_val hr.lead).div (is_val hp.lead) hpivot

theorem Row.Fits.clear (hp : p.Fits (n + 1)) (hr : r.Fits (n + 1)) (hpivot : Exact.val p.lead ≠ 0) :
    (clear p r).Fits n := by
  have hshare := is_share hp hr hpivot
  have hsub : ∀ u v, isFinite u = true → isFinite v = true → isFinite (v - r.lead / p.lead * u) = true :=
    fun u v hu hv => ((is_val hv).sub (hshare.mul (is_val hu))).1
  refine ⟨?_, fun a ha => ?_, hsub _ _ hp.right hr.right⟩
  · rw [Linear.clear, List.length_zipWith, hp.tail.1, hr.tail.1, Nat.min_self]
  · obtain ⟨i, hi⟩ := List.getElem?_of_mem ha
    obtain ⟨u, v, hu, hv, rfl⟩ := List.getElem?_zipWith_eq_some.1 hi
    exact hsub u v (hp.tail.2 u (List.mem_of_getElem? hu)) (hr.tail.2 v (List.mem_of_getElem? hv))

theorem val_right_clear (hp : p.Fits (n + 1)) (hr : r.Fits (n + 1)) (hpivot : Exact.val p.lead ≠ 0) :
    Exact.val (clear p r).right = Exact.val r.right - Exact.val r.lead / Exact.val p.lead * Exact.val p.right :=
  ((is_val hr.right).sub ((is_share hp hr hpivot).mul (is_val hp.right))).2

theorem side_clear (hp : p.Fits (n + 1)) (hr : r.Fits (n + 1)) (hpivot : Exact.val p.lead ≠ 0) (x : Fin n → ℝ) :
    side (clear p r).coeffs x =
      side r.coeffs.tail x - Exact.val r.lead / Exact.val p.lead * side p.coeffs.tail x := by
  rw [side, side, side, Finset.mul_sum, ← Finset.sum_sub_distrib]
  refine Finset.sum_congr rfl fun j _ => ?_
  have hu := List.getElem?_eq_getElem (hp.tail.1.symm ▸ j.2 : j < p.coeffs.tail.length)
  have hv := List.getElem?_eq_getElem (hr.tail.1.symm ▸ j.2 : j < r.coeffs.tail.length)
  have huv := List.getElem?_zipWith_eq_some (f := fun u v => v - r.lead / p.lead * u).2 ⟨_, _, hu, hv, rfl⟩
  have hval := (is_val (hr.tail.2 _ (List.mem_of_getElem? hv))).sub
    ((is_share hp hr hpivot).mul (is_val (hp.tail.2 _ (List.mem_of_getElem? hu))))
  rw [entry_of_getElem? hu, entry_of_getElem? hv, show entry (clear p r).coeffs j = _ from entry_of_getElem? huv, hval.2]
  ring

/-- **What a regular system becomes when its pivot row is cleared from the others is regular.** -/
theorem Regular.clear (hp : p.Fits (n + 1)) (hrest : ∀ r ∈ rest, r.Fits (n + 1)) (hpivot : Exact.val p.lead ≠ 0)
    (h : Regular (n + 1) (p :: rest)) : Regular n (rest.map (clear p)) := by
  intro x hx
  -- the first unknown is the one that the pivot row asks for
  have hall : (Fin.cons (-side p.coeffs.tail x / Exact.val p.lead) x : Fin (n + 1) → ℝ) = 0 := by
    refine h _ fun r hr => ?_
    rcases List.mem_cons.1 hr with rfl | hr
    · rw [hp.side_eq, Fin.tail_cons, Fin.cons_zero]
      field_simp
      ring
    · have hclear := hx _ (List.mem_map_of_mem hr)
      rw [side_clear hp (hrest r hr) hpivot] at hclear
      rw [(hrest r hr).side_eq, Fin.tail_cons, Fin.cons_zero]
      linear_combination hclear
  have := congrArg Fin.tail hall
  rwa [Fin.tail_cons] at this

/-- **The first unknown from the others**: what solves the cleared system is completed by the pivot row. -/
theorem Solves.complete (hp : p.Fits (n + 1)) (hrest : ∀ r ∈ rest, r.Fits (n + 1)) (hpivot : Exact.val p.lead ≠ 0)
    {xs : List α} (h : Solves n (rest.map (clear p)) xs) :
    Solves (n + 1) (p :: rest) ((p.right - dot p.coeffs.tail xs) / p.lead :: xs) := by
  have hdot := is_dot hp.tail.1 h.length hp.tail.2 h.finite
  have hfirst := ((is_val hp.right).sub hdot).div (is_val hp.lead) hpivot
  have htail : (Fin.tail fun j : Fin (n + 1) => entry ((p.right - dot p.coeffs.tail xs) / p.lead :: xs) j) =
      fun j : Fin n => entry xs j := rfl
  refine ⟨by rw [List.length_cons, h.length], List.forall_mem_cons.2 ⟨hfirst.1, h.finite⟩, fun r hr => ?_⟩
  have hzero : entry ((p.right - dot p.coeffs.tail xs) / p.lead :: xs) (0 : Fin (n + 1)) =
      (Exact.val p.right - side p.coeffs.tail fun j : Fin n => entry xs j) / Exact.val p.lead := hfirst.2
  rcases List.mem_cons.1 hr with rfl | hr
  · rw [hp.side_eq, htail, hzero]
    field_simp
    ring
  · have hclear := h.equal _ (List.mem_map_of_mem hr)
    rw [side_clear hp (hrest r hr) hpivot, val_right_clear hp (hrest r hr) hpivot] at hclear
    rw [(hrest r hr).side_eq, htail, hzero]
    linear_combination hclear

end

/-! ## Solutions -/

/-- **Elimination solves every regular system.** -/
theorem exists_solve? (n : Nat) (rows : List (Row α)) (hrows : IsSystem n rows) (h : Regular n rows) :
    ∃ xs, solve? n rows = some xs ∧ Solves n rows xs := by
  induction n generalizing rows with
  | zero =>
    obtain rfl := List.length_eq_zero_iff.1 hrows.length
    exact ⟨[], rfl, rfl, by simp, by simp⟩
  | succ n ih =>
    obtain ⟨r, l, rfl⟩ := List.exists_cons_of_length_eq_add_one hrows.length
    obtain ⟨hr, hl⟩ := List.forall_mem_cons.1 hrows.fits
    have hpivot := h.pivot_ne_zero hr hl
    have hperm := pullPivot_perm r l
    rcases hpull : pullPivot r l with ⟨p, rest⟩
    rw [hpull] at hpivot hperm
    obtain ⟨hp, hrest⟩ := List.forall_mem_cons.1 fun s hs => hrows.fits s (hperm.mem_iff.1 hs)
    have hlength : rest.length = n := by
      have := hperm.length_eq.trans hrows.length
      rwa [List.length_cons, Nat.add_right_cancel_iff] at this
    have hcleared : IsSystem n (rest.map (clear p)) := by
      refine ⟨by rw [List.length_map, hlength], fun s hs => ?_⟩
      obtain ⟨q, hq, rfl⟩ := List.mem_map.1 hs
      exact hp.clear (hrest q hq) hpivot
    have hregular : Regular (n + 1) (p :: rest) := fun x hx => h x fun s hs => hx s (hperm.mem_iff.2 hs)
    obtain ⟨xs, hxs, hsolves⟩ := ih _ hcleared (hregular.clear hp hrest hpivot)
    have hcomplete := hsolves.complete hp hrest hpivot
    refine ⟨_, ?_, hcomplete.length, hcomplete.finite, fun s hs => hcomplete.equal s (hperm.mem_iff.2 hs)⟩
    rw [solve?, hpull, if_neg ((isZero_iff (is_val hp.lead)).not.2 hpivot), hxs]
    rfl

theorem coefficients_mulVec {n : Nat} {rows : List (Row α)} (x : Fin n → ℝ) (i : Fin n) {r : Row α}
    (hr : rows[(i : Nat)]? = some r) : (coefficients n rows).mulVec x i = side r.coeffs x := by
  have hi : coefficients n rows i = fun j : Fin n => entry r.coeffs j := by
    funext j
    rw [coefficients, List.getD_eq_getElem?_getD, List.getElem?_map, hr]
    rfl
  rw [Matrix.mulVec, hi]
  rfl

theorem regular_of_det {n : Nat} {rows : List (Row α)} (hrows : IsSystem n rows) (h : (coefficients n rows).det ≠ 0) :
    Regular n rows := by
  intro x hx
  refine Matrix.eq_zero_of_mulVec_eq_zero h (funext fun i => ?_)
  have hi := List.getElem?_eq_getElem (hrows.length.symm ▸ i.2 : (i : Nat) < rows.length)
  rw [coefficients_mulVec x i hi]
  exact hx _ (List.mem_of_getElem? hi)

/-- **Elimination solves every nonsingular system.** -/
theorem solvesAll_solve? (n : Nat) : SolvesAll n (solve? n : List (Row α) → Option (List α)) := fun rows hrows h =>
  exists_solve? n rows hrows (regular_of_det hrows h)

end Linear
end Pinpoint
