import Mathlib.Algebra.BigOperators.Intervals
import Pinpoint.Proofs.Match.Reads
import Pinpoint.Proofs.Match.Scores
/-!
# Windows — sums over windows, read off four corners

In exact arithmetic the running sums of a row are the sums of its first values, and adding them to the row above gives
the sums of all that is above and to the left of every corner (`Table.is_corner`).  Of four corners what is beside and
above a window cancels, so that the tables of a plane answer with the sum of the values of any window inside it and with
the sum of their squares (`Integral.is_window`), as a walk through the window does (`Integral.window_walked`).
-/
namespace Pinpoint
namespace Match

open Finset (range)
open Scalar (Is Exact Lossless isFinite)

/-! ## Lists of numbers -/

section
variable {α : Type} [Scalar α] [Exact α] {l l' : List α} {n w x y : Nat} {f g : Nat → ℝ}

/-- **The list holds the first `n` of some numbers.** -/
structure Holds (l : List α) (n : Nat) (f : Nat → ℝ) : Prop where
  length : l.length = n
  value {i : Nat} {v : α} : l[i]? = some v → Is v (f i)

theorem Holds.congr (hl : Holds l n f) (h : ∀ i, f i = g i) : Holds l n g :=
  ⟨hl.length, fun hv => h _ ▸ hl.value hv⟩

theorem Holds.cons {v : α} (hv : Is v (f 0)) (hl : Holds l n fun i => f (i + 1)) : Holds (v :: l) (n + 1) f := by
  refine ⟨by rw [List.length_cons, hl.length], fun {i u} hu => ?_⟩
  cases i with
  | zero =>
    obtain rfl := Option.some.inj hu
    exact hv
  | succ i => exact hl.value hu

theorem Holds.uncons {v : α} (hl : Holds (v :: l) n f) : Is v (f 0) ∧ Holds l (n - 1) fun i => f (i + 1) := by
  have hlength := hl.length
  rw [List.length_cons] at hlength
  exact ⟨hl.value (i := 0) rfl, by omega, fun {i u} hu => hl.value (i := i + 1) hu⟩

theorem Holds.map {β : Type} {l : List β} {F : β → α} (hlength : l.length = n)
    (h : ∀ i u, l[i]? = some u → Is (F u) (f i)) : Holds (l.map F) n f := by
  refine ⟨by rw [List.length_map, hlength], fun {i v} hv => ?_⟩
  rw [List.getElem?_map] at hv
  obtain ⟨u, hu, rfl⟩ := Option.map_eq_some_iff.1 hv
  exact h i u hu

theorem Holds.zipWith_add (hl : Holds l n f) (hl' : Holds l' n g) :
    Holds (List.zipWith (· + ·) l l') n fun i => f i + g i := by
  refine ⟨by rw [List.length_zipWith, hl.length, hl'.length, Nat.min_self], fun {i v} hv => ?_⟩
  rw [List.getElem?_zipWith_eq_some] at hv
  obtain ⟨u, u', hu, hu', rfl⟩ := hv
  exact (hl.value hu).add (hl'.value hu')

/-! ## Tables -/

theorem Holds.runningSums {acc : α} {a : ℝ} (hacc : Is acc a) (hl : Holds l n f) :
    Holds (runningSums acc l) (n + 1) fun k => a + ∑ i ∈ range k, f i := by
  induction l generalizing acc a n f with
  | nil =>
    obtain rfl := hl.length
    refine Holds.cons (by simpa using hacc) ⟨rfl, fun hv => by cases hv⟩
  | cons v l ih =>
    obtain ⟨hv, hrest⟩ := hl.uncons
    have hn : n - 1 + 1 = n := by
      have := hl.length
      rw [List.length_cons] at this
      omega
    refine Holds.cons (by simpa using hacc) ?_
    have hsums := ih (hacc.add hv) hrest
    rw [hn] at hsums
    refine hsums.congr fun k => ?_
    rw [Finset.sum_range_succ', add_right_comm, add_assoc]

theorem holds_tableBelow {above : List α} {a : Nat → ℝ} {rows : List (List α)} {f : Nat → Nat → ℝ}
    (habove : Holds above (w + 1) a) (hrows : ∀ j r, rows[j]? = some r → Holds r w fun i => f i j) {r : List α}
    (hr : (tableBelow above rows)[y]? = some r) :
    Holds r (w + 1) fun x => a x + ∑ j ∈ range y, ∑ i ∈ range x, f i j := by
  induction rows generalizing above a f y with
  | nil =>
    cases y with
    | zero =>
      obtain rfl := Option.some.inj hr
      exact habove.congr fun x => by simp
    | succ y => cases hr
  | cons q rows ih =>
    cases y with
    | zero =>
      obtain rfl := Option.some.inj hr
      exact habove.congr fun x => by simp
    | succ y =>
      have hnext := habove.zipWith_add (Holds.runningSums Is.zero (hrows 0 q rfl))
      refine (ih hnext (f := fun i j => f i (j + 1)) (fun j r hj => hrows (j + 1) r hj) hr).congr fun x => ?_
      rw [Finset.sum_range_succ', zero_add, add_right_comm, add_assoc]

/-- **A corner of a table holds the sum of what is above and to the left of it.** -/
theorem Table.is_corner {rows : List (List α)} {f : Nat → Nat → ℝ}
    (hrows : ∀ j r, rows[j]? = some r → Holds r w fun i => f i j) (hx : x ≤ w) (hy : y ≤ rows.length) :
    Is ((Table.ofRows w rows).corner x y) (∑ j ∈ range y, ∑ i ∈ range x, f i j) := by
  have hzeros : Holds (List.replicate (w + 1) (Scalar.ofInt 0 : α)) (w + 1) fun _ => 0 := by
    refine ⟨List.length_replicate, fun {i v} hv => ?_⟩
    rw [List.eq_of_mem_replicate (List.mem_of_getElem? hv)]
    exact Is.zero
  have hsize : (tableBelow (List.replicate (w + 1) (Scalar.ofInt 0 : α)) rows).length = rows.length + 1 :=
    (tableBelow_sized rows List.length_replicate fun r hr => by
      obtain ⟨j, hj⟩ := List.mem_iff_getElem?.1 hr
      exact (hrows j r hj).length).1
  obtain ⟨r, hr⟩ : ∃ r, (tableBelow (List.replicate (w + 1) (Scalar.ofInt 0 : α)) rows)[y]? = some r :=
    ⟨_, List.getElem?_eq_getElem (by omega)⟩
  have hsums := holds_tableBelow hzeros hrows hr
  obtain ⟨v, hv⟩ : ∃ v, r[x]? = some v := ⟨_, List.getElem?_eq_getElem (by rw [hsums.length]; omega)⟩
  have hcorner : (Table.ofRows w rows).corner x y = v := by
    simp [Table.corner, Table.ofRows, hr, hv]
  rw [hcorner]
  simpa using hsums.value hv

/-- **The sum over a window**: the corners leave nothing else. -/
theorem Table.is_window {rows : List (List α)} {f : Nat → Nat → ℝ}
    (hrows : ∀ j r, rows[j]? = some r → Holds r w fun i => f i j) {n m : Nat} (hx : x + n ≤ w)
    (hy : y + m ≤ rows.length) :
    Is ((Table.ofRows w rows).window x y n m) (∑ j ∈ range m, ∑ i ∈ range n, f (x + i) (y + j)) := by
  have hcorners := (((is_corner hrows hx hy).sub (is_corner hrows (Nat.le_of_add_right_le hx) hy)).sub
    (is_corner hrows hx (Nat.le_of_add_right_le hy))).add
      (is_corner hrows (Nat.le_of_add_right_le hx) (Nat.le_of_add_right_le hy))
  have hsum : ∑ j ∈ range m, ∑ i ∈ range n, f (x + i) (y + j) =
      ∑ j ∈ range (y + m), ∑ i ∈ range (x + n), f i j - ∑ j ∈ range (y + m), ∑ i ∈ range x, f i j -
        ∑ j ∈ range y, ∑ i ∈ range (x + n), f i j + ∑ j ∈ range y, ∑ i ∈ range x, f i j := by
    simp only [Finset.sum_range_add _ x n, Finset.sum_range_add _ y m, Finset.sum_add_distrib]
    ring
  rw [hsum]
  exact hcorners

end

/-! ## Planes -/

/-- The places of a window, row after row. -/
def windowPlaces (w h : Nat) : List (Nat × Nat) := (List.range h).flatMap fun j => (List.range w).map fun i => (i, j)

/-- **The sum over a window, value by value.** -/
def Plane.walk {ν ω : Type} [Scalar ν] [Scalar ω] (p : Plane ν) (F : ν → ω) (x y w h : Nat) : ω :=
  Scalar.sum ((windowPlaces w h).map fun q => F (p.value (x + q.1) (y + q.2)))

theorem sum_windowPlaces (w h : Nat) (g : Nat × Nat → ℝ) :
    ((windowPlaces w h).map g).sum = ∑ j ∈ range h, ∑ i ∈ range w, g (i, j) := by
  rw [windowPlaces, List.map_flatMap, List.flatMap_def, List.sum_flatten, List.map_map]
  simp only [Function.comp_def, List.map_map]
  rfl

namespace Plane

variable {ν ω : Type} [Scalar ν] {p : Plane ν} {x y : Nat}

/-- **Full rows of finite values.** -/
structure Full (p : Plane ν) : Prop where
  grid   : Grid p.rows p.width p.height
  finite : FiniteRows p.rows

theorem value_eq {r : Array ν} (hr : p.rows[y]? = some r) {v : ν} (hv : r[x]? = some v) : p.value x y = v := by
  rw [value, row, getD_of_some hr, getD_of_some hv]

theorem full_ofPicture [Exact ν] (p : Picture) : (ofPicture p : Plane ν).Full :=
  ⟨grid_ofPicture p, finiteRows_ofPicture p⟩

variable [Exact ν]

/-- The value at a place as a real number. -/
noncomputable def level (p : Plane ν) (x y : Nat) : ℝ := Exact.val (p.value x y)

theorem Full.is_value (hp : p.Full) (x y : Nat) : Is (p.value x y) (p.level x y) := ⟨hp.finite.getD x y, rfl⟩

/-- The rows of a plane, with a function applied to every value. -/
theorem Full.holds_map [Scalar ω] [Exact ω] (hp : p.Full) {F : ν → ω} {g : ℝ → ℝ}
    (hF : ∀ v r, Is v r → Is (F v) (g r)) (j : Nat) (r : List ω)
    (hr : (p.rows.toList.map fun r => r.toList.map F)[j]? = some r) : Holds r p.width fun i => g (p.level i j) := by
  rw [List.getElem?_map] at hr
  obtain ⟨q, hq, rfl⟩ := Option.map_eq_some_iff.1 hr
  rw [Array.getElem?_toList] at hq
  refine Holds.map (by rw [Array.length_toList, hp.grid.width q (Array.mem_of_getElem? hq)]) fun i u hu => hF _ _ ?_
  rw [Array.getElem?_toList] at hu
  rw [← value_eq hq hu]
  exact hp.is_value i j

end Plane

theorem Plane.Full.is_walk {ν ω : Type} [Scalar ν] [Scalar ω] [Exact ν] [Exact ω] {p : Plane ν} (hp : p.Full) {F : ν → ω}
    {g : ℝ → ℝ} (hF : ∀ v r, Is v r → Is (F v) (g r)) (x y w h : Nat) :
    Is (p.walk F x y w h) (∑ j ∈ range h, ∑ i ∈ range w, g (p.level (x + i) (y + j))) := by
  have hsum := Is.sum (windowPlaces w h) fun q _ => hF _ _ (hp.is_value (x + q.1) (y + q.2))
  rwa [sum_windowPlaces] at hsum

variable {ν ω : Type} [Scalar ν] [Scalar ω] [Widening ν ω] [Exact ν] [Exact ω] [Lossless ν ω]

/-- **Sums of the values of a window, and of their squares.** -/
theorem Integral.is_window {p : Plane ν} (hp : p.Full) {x y w h : Nat} (hx : x + w ≤ p.width) (hy : y + h ≤ p.height) :
    Is ((Integral.ofPlane p : Integral ω).sums.window x y w h)
        (∑ j ∈ range h, ∑ i ∈ range w, p.level (x + i) (y + j)) ∧
      Is ((Integral.ofPlane p : Integral ω).squares.window x y w h)
        (∑ j ∈ range h, ∑ i ∈ range w, p.level (x + i) (y + j) ^ 2) := by
  have hwide := hp.holds_map (F := (Widening.widen : ν → ω)) (g := id) fun v r => Lossless.widen
  have hsquare := hp.holds_map (F := fun v => Scalar.sq (Widening.widen v : ω)) (g := (· ^ 2)) fun v r hv => by
    rw [sq]
    exact (Lossless.widen hv).mul (Lossless.widen hv)
  have hheight : y + h ≤ p.rows.toList.length := by rwa [Array.length_toList, hp.grid.height]
  constructor
  · exact Table.is_window hwide hx (by rwa [List.length_map])
  · refine Table.is_window (fun j r hr => hsquare j r ?_) hx (by rwa [List.length_map, List.length_map])
    rw [← hr, List.map_map]
    simp only [Function.comp_def, List.map_map]

/-- **A window is summed as by a walk through it.**  The four corners that are read are there, in the table of the values as
in that of the squares, and they give the sum of the values in the window and the sum of their squares, which are what going
through the window value by value comes to. -/
theorem Integral.window_walked {p : Plane ν} (hp : p.Full) {x y w h : Nat} (hx : x + w ≤ p.width)
    (hy : y + h ≤ p.height) :
    ((Integral.ofPlane p : Integral ω).sums.window? x y w h =
        some ((Integral.ofPlane p : Integral ω).sums.window x y w h) ∧
      (Integral.ofPlane p : Integral ω).squares.window? x y w h =
        some ((Integral.ofPlane p : Integral ω).squares.window x y w h)) ∧
    ∃ total totalSquares : ℝ,
      (total = ∑ j ∈ range h, ∑ i ∈ range w, p.level (x + i) (y + j) ∧
        totalSquares = ∑ j ∈ range h, ∑ i ∈ range w, p.level (x + i) (y + j) ^ 2) ∧
      (Is ((Integral.ofPlane p : Integral ω).sums.window x y w h) total ∧
        Is (p.walk (Widening.widen : ν → ω) x y w h) total) ∧
      Is ((Integral.ofPlane p : Integral ω).squares.window x y w h) totalSquares ∧
        Is (p.walk (fun v => Scalar.sq (Widening.widen v : ω)) x y w h) totalSquares := by
  obtain ⟨hsums, hsquares⟩ := Integral.grid_ofPlane (ω := ω) hp.grid
  obtain ⟨htotal, htotalSquares⟩ := Integral.is_window (ω := ω) hp hx hy
  refine ⟨⟨hsums.window? hx hy, hsquares.window? hx hy⟩, _, _, ⟨rfl, rfl⟩, ⟨htotal, ?_⟩, htotalSquares, ?_⟩
  · exact hp.is_walk (g := id) (fun v r => Lossless.widen) x y w h
  · refine hp.is_walk (g := (· ^ 2)) (fun v r hv => ?_) x y w h
    rw [sq]
    exact (Lossless.widen hv).mul (Lossless.widen hv)

/-- Nought to five in two rows of three. -/
def ramp : Plane ℚ := Plane.ofFn 3 2 fun x y => Scalar.ofNat (3 * y + x)

/-- The last two columns: one, two, four and five. -/
theorem Integral.window_walked_ramp : ramp.Full ∧ 1 + 2 ≤ ramp.width ∧ 0 + 2 ≤ ramp.height ∧
    (Integral.ofPlane ramp : Integral ℚ).sums.window? 1 0 2 2 = some 12 ∧
    (Integral.ofPlane ramp : Integral ℚ).squares.window? 1 0 2 2 = some 46 ∧
    ∃ total, Is ((Integral.ofPlane ramp : Integral ℚ).sums.window 1 0 2 2) total ∧
      Is (ramp.walk (Widening.widen : ℚ → ℚ) 1 0 2 2) total := by
  have hfull : ramp.Full := ⟨grid_ofFn 3 2 _, fun _ _ _ _ => rfl⟩
  have hx : 1 + 2 ≤ ramp.width := by decide
  have hy : 0 + 2 ≤ ramp.height := by decide
  obtain ⟨⟨hsums, hsquares⟩, total, -, -, htotal, -⟩ := Integral.window_walked (ω := ℚ) hfull hx hy
  exact ⟨hfull, hx, hy, hsums.trans (by decide +kernel), hsquares.trans (by decide +kernel), total, htotal⟩

end Match
end Pinpoint
