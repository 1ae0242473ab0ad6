import Pinpoint.Proofs.Match.Peaks
/-!
# Neighbours — the places around a place

A grid of `w` columns and `h` rows is kept row after row, so that the cell at `(x, y)` is number `y * w + x`: every place of
the grid has a cell (`cell_lt`) and no two have the same (`cell_inj`).  A window around a place is walked row after row
and ends at the edges of the grid; what it holds are the places of the grid that are near the one in the middle
(`mem_neighbours_iff`).
-/
namespace Pinpoint
namespace Match

variable {w h x y u v : Nat}

/-! ## Cells -/

theorem cell_lt (hx : x < w) (hy : y < h) : y * w + x < w * h := by
  have hrow : (y + 1) * w ≤ h * w := Nat.mul_le_mul_right w hy
  rw [Nat.succ_mul, Nat.mul_comm h] at hrow
  omega

theorem cell_mod (hx : x < w) : (y * w + x) % w = x := by
  rw [Nat.add_comm, Nat.add_mul_mod_self_right, Nat.mod_eq_of_lt hx]

theorem cell_div (hx : x < w) : (y * w + x) / w = y := by
  rw [Nat.add_comm, Nat.add_mul_div_right _ _ (Nat.zero_lt_of_lt hx), Nat.div_eq_of_lt hx, Nat.zero_add]

/-- **Places have cells of their own.** -/
theorem cell_inj (hx : x < w) (hu : u < w) (h : y * w + x = v * w + u) : x = u ∧ y = v := by
  constructor
  · rw [← cell_mod hx (y := y), h, cell_mod hu]
  · rw [← cell_div hx (y := y), h, cell_div hu]

/-- Every cell is the cell of a place. -/
theorem cell_mod_div (w i : Nat) : i / w * w + i % w = i := by
  rw [Nat.mul_comm, Nat.div_add_mod]

/-! ## Windows -/

/-- **The places around `(x, y)`**, up to `rx` columns and `ry` rows away, as far as the grid goes; row after row. -/
def neighbours (w h rx ry x y : Nat) : List (Nat × Nat) :=
  (List.range' (y - ry) (min (y + ry) (h - 1) + 1 - (y - ry))).flatMap fun j =>
    (List.range' (x - rx) (min (x + rx) (w - 1) + 1 - (x - rx))).map fun i => (i, j)

/-- **A window holds the places of the grid that are near its middle.** -/
theorem mem_neighbours_iff {rx ry i j : Nat} (hx : x < w) (hy : y < h) :
    (i, j) ∈ neighbours w h rx ry x y ↔ (i < w ∧ j < h) ∧ Peak.near rx ry i j x y = true := by
  have hcolumns : i ∈ List.range' (x - rx) (min (x + rx) (w - 1) + 1 - (x - rx)) ↔
      i < w ∧ i ≤ x + rx ∧ x ≤ i + rx := by
    rw [List.mem_range'_1]
    omega
  have hrows : j ∈ List.range' (y - ry) (min (y + ry) (h - 1) + 1 - (y - ry)) ↔
      j < h ∧ j ≤ y + ry ∧ y ≤ j + ry := by
    rw [List.mem_range'_1]
    omega
  have hplace : (i, j) ∈ neighbours w h rx ry x y ↔
      (j < h ∧ j ≤ y + ry ∧ y ≤ j + ry) ∧ i < w ∧ i ≤ x + rx ∧ x ≤ i + rx := by
    rw [← hcolumns, ← hrows]
    simp only [neighbours, List.mem_flatMap, List.mem_map, Prod.mk.injEq]
    constructor
    · rintro ⟨j, hj, i, hi, rfl, rfl⟩
      exact ⟨hj, hi⟩
    · rintro ⟨hj, hi⟩
      exact ⟨j, hj, i, hi, rfl, rfl⟩
  rw [hplace, Peak.near_iff]
  omega

end Match
end Pinpoint
