import Mathlib.Data.Int.ConditionallyCompleteOrder
import Mathlib.Data.Int.Interval
import Pinpoint.Proofs.Box.Pixels
import Pinpoint.Proofs.Scalar.Exact
/-!
# Area — how many pixels boxes have and share

A box has as many pixels as its area says (`card_points`), so the overlap of two boxes is the number of pixels they share
over the number that either of them has (`is_iou`).  An area fits into 64 bits, and as long as the sum of the two areas
does, no step on the way leaves them: the overlap that is given up there is never given up (`iou?_eq`).
-/
namespace Pinpoint
namespace Box

open Scalar (Is)

/-! ## Overlap in 64 bits -/

/-- A whole number, if 64 bits hold it. -/
def word? (n : Int) : Option Nat := if 0 ≤ n ∧ n < 2 ^ 64 then some n.toNat else none

def areaWord? (b : Box) : Option Nat := word? (b.width.toNat * b.height.toNat)

def sharedWord? (a b : Box) : Option Nat :=
  match a.inter? b with
  | some c => c.areaWord?
  | none   => some 0

/-- **The overlap that gives up** where the area of a box, the sum of two areas or what is left of it leaves 64 bits. -/
def iou? {α : Type} [Scalar α] (a b : Box) : Option α := do
  let first ← a.areaWord?
  let second ← b.areaWord?
  let shared ← a.sharedWord? b
  let sum ← word? (first + second)
  let either ← word? (sum - shared)
  return if either = 0 then Scalar.ofInt 0 else Scalar.ratio shared either

/-! ## Pixels of boxes -/

/-- The pixels of a box, to be counted. -/
noncomputable def points (b : Box) : Finset (Int × Int) := Finset.Ico b.left b.right ×ˢ Finset.Ico b.top b.bottom

/-- The number of pixels of the shared region. -/
def shared (a b : Box) : Nat := ((a.inter? b).map area).getD 0

variable {a b c : Box} {p : Int × Int}

theorem mem_points : p ∈ b.points ↔ p ∈ b := by
  simp only [points, Finset.mem_product, Finset.mem_Ico, mem_iff, and_assoc]

/-- **The area of a box is the number of its pixels.** -/
theorem card_points (b : Box) : b.points.card = b.area := by
  rw [points, Finset.card_product, Int.card_Ico, Int.card_Ico, right, bottom, add_sub_cancel_left, add_sub_cancel_left,
    Int.toNat_natCast, Int.toNat_natCast, area]

theorem area_lt (b : Box) : b.area < 2 ^ 64 := by
  have hw := b.width.toNat_lt
  have hh := b.height.toNat_lt
  calc b.area ≤ (2 ^ 32 - 1) * (2 ^ 32 - 1) := Nat.mul_le_mul (by omega) (by omega)
    _ < 2 ^ 64 := by norm_num

theorem inter?_eq_none_iff_disjoint (a b : Box) : a.inter? b = none ↔ Disjoint a.points b.points := by
  rw [inter?_eq_none_iff, Finset.disjoint_left]
  simp only [mem_points, not_and]

theorem points_of_inter? (h : a.inter? b = some c) : c.points = a.points ∩ b.points := by
  ext p
  rw [Finset.mem_inter, mem_points, mem_points, mem_points]
  exact mem_of_inter? h p

theorem shared_eq (a b : Box) : a.shared b = (a.points ∩ b.points).card := by
  unfold shared
  cases h : a.inter? b with
  | none => rw [Finset.disjoint_iff_inter_eq_empty.1 ((inter?_eq_none_iff_disjoint a b).1 h)]; rfl
  | some c => rw [Option.map_some, Option.getD_some, ← points_of_inter? h, card_points]

theorem shared_le (a b : Box) : a.shared b ≤ a.area := by
  rw [shared_eq, ← card_points]
  exact Finset.card_le_card Finset.inter_subset_left

/-- **What the areas have beyond the shared one** is the number of pixels of either box. -/
theorem card_either (a b : Box) : a.area + b.area - a.shared b = (a.points ∪ b.points).card := by
  rw [shared_eq, ← card_points, ← card_points, Finset.card_union]

/-- The pixels of a box that has any are its own. -/
theorem eq_of_points (h : a.isEmpty = false) (hab : a.points = b.points) : a = b := by
  have hmem : ∀ p, p ∈ a ↔ p ∈ b := fun p => by rw [← mem_points, hab, mem_points]
  obtain ⟨hx, hy⟩ := (isEmpty_eq_false_iff a).1 h
  have hfirst := (hmem (a.left, a.top)).1 (corner_mem h)
  have hlast := (hmem (a.right - 1, a.bottom - 1)).1 ⟨by omega, by omega, by omega, by omega⟩
  simp only [mem_iff] at hfirst hlast
  have hfirst' := (hmem (b.left, b.top)).2 ⟨by omega, by omega, by omega, by omega⟩
  have hlast' := (hmem (b.right - 1, b.bottom - 1)).2 ⟨by omega, by omega, by omega, by omega⟩
  simp only [mem_iff] at hfirst' hlast'
  exact ext_edges (by omega) (by omega) (by omega) (by omega)

theorem inter_eq_union_iff (a b : Box) : a.points ∩ b.points = a.points ∪ b.points ↔ a.points = b.points := by
  constructor
  · intro h
    refine Finset.Subset.antisymm (fun p hp => ?_) fun p hp => ?_
    · exact (Finset.mem_inter.1 (h ▸ Finset.mem_union_left _ hp)).2
    · exact (Finset.mem_inter.1 (h ▸ Finset.mem_union_right _ hp)).1
  · intro h
    rw [h, Finset.inter_self, Finset.union_self]

/-! ## Overlap -/

section Overlap

/-- The pixels that two boxes share over those that either has; nothing over nothing is nothing. -/
noncomputable def overlap (a b : Box) : ℝ := (a.points ∩ b.points).card / (a.points ∪ b.points).card

theorem overlap_nonneg (a b : Box) : 0 ≤ a.overlap b := div_nonneg (Nat.cast_nonneg _) (Nat.cast_nonneg _)

theorem card_inter_le_union (a b : Box) : (a.points ∩ b.points).card ≤ (a.points ∪ b.points).card :=
  Finset.card_le_card (Finset.inter_subset_left.trans Finset.subset_union_left)

theorem overlap_le_one (a b : Box) : a.overlap b ≤ 1 :=
  div_le_one_of_le₀ (Nat.cast_le.2 (card_inter_le_union a b)) (Nat.cast_nonneg _)

theorem overlap_eq_zero_iff (a b : Box) : a.overlap b = 0 ↔ Disjoint a.points b.points := by
  rw [overlap, div_eq_zero_iff, Nat.cast_eq_zero, Nat.cast_eq_zero, Finset.card_eq_zero,
    ← Finset.disjoint_iff_inter_eq_empty]
  refine or_iff_left_of_imp fun h => ?_
  have := card_inter_le_union a b
  rw [Finset.disjoint_iff_inter_eq_empty, ← Finset.card_eq_zero]
  omega

theorem overlap_eq_one_iff (a b : Box) : a.overlap b = 1 ↔ a = b ∧ a.isEmpty = false := by
  constructor
  · intro h
    have hne : (a.points ∪ b.points).card ≠ 0 := by
      intro hzero
      rw [overlap, hzero, Nat.cast_zero, div_zero] at h
      exact zero_ne_one h
    rw [overlap, div_eq_one_iff_eq (Nat.cast_ne_zero.2 hne), Nat.cast_inj] at h
    -- a subset with as many pixels is the whole
    have hsame := (inter_eq_union_iff a b).1
      (Finset.eq_of_subset_of_card_le (Finset.inter_subset_left.trans Finset.subset_union_left) h.ge)
    rw [← hsame, Finset.union_self] at hne
    obtain ⟨p, hp⟩ := Finset.card_pos.1 (Nat.pos_of_ne_zero hne)
    have hempty : a.isEmpty = false := by
      have := mem_points.1 hp
      rw [mem_iff] at this
      rw [isEmpty_eq_false_iff]
      omega
    exact ⟨eq_of_points hempty hsame, hempty⟩
  · rintro ⟨rfl, hempty⟩
    have hcard : a.points.card ≠ 0 := Finset.card_ne_zero_of_mem (mem_points.2 (corner_mem hempty))
    rw [overlap, Finset.inter_self, Finset.union_self, div_self (Nat.cast_ne_zero.2 hcard)]

variable {α : Type} [Scalar α]

theorem iou_comm (a b : Box) : (a.iou b : α) = b.iou a := by
  unfold iou
  rw [inter?_comm a b, Nat.add_comm a.area b.area]

/-- **Overlap is the share of common pixels.** -/
theorem is_iou [Scalar.Exact α] (a b : Box) : Is (a.iou b : α) (a.overlap b) := by
  have hshared : ((a.inter? b).map area).getD 0 = a.shared b := rfl
  unfold iou
  rw [hshared]
  dsimp only
  rw [overlap, ← shared_eq, ← card_either]
  split
  · rename_i h
    rw [h, Nat.cast_zero, div_zero]
    exact Is.zero
  · rename_i h
    exact Is.ratio _ h

theorem word?_natCast {n : Nat} (h : n < 2 ^ 64) : word? n = some n := by
  rw [word?, if_pos (by omega), Int.toNat_natCast]

theorem areaWord?_eq (b : Box) : b.areaWord? = some b.area := by
  rw [areaWord?, ← Nat.cast_mul]
  exact word?_natCast b.area_lt

theorem sharedWord?_eq (a b : Box) : a.sharedWord? b = some (a.shared b) := by
  unfold sharedWord? shared
  cases a.inter? b with
  | none => rfl
  | some c => exact areaWord?_eq c

/-- **In 64 bits nothing overflows**, neither upwards nor downwards, as long as the sum of the areas does not. -/
theorem iou?_eq (h : a.area + b.area < 2 ^ 64) : (a.iou? b : Option α) = some (a.iou b) := by
  have hle := shared_le a b
  have hsum : word? (a.area + b.area) = some (a.area + b.area) := by
    rw [← Nat.cast_add]
    exact word?_natCast h
  have heither : word? ((a.area + b.area : Nat) - a.shared b) = some (a.area + b.area - a.shared b) := by
    rw [← Nat.cast_sub (by omega)]
    exact word?_natCast (by omega)
  unfold iou?
  refine Option.bind_eq_some_iff.2 ⟨_, a.areaWord?_eq, ?_⟩
  refine Option.bind_eq_some_iff.2 ⟨_, b.areaWord?_eq, ?_⟩
  refine Option.bind_eq_some_iff.2 ⟨_, sharedWord?_eq a b, ?_⟩
  exact Option.bind_eq_some_iff.2 ⟨_, hsum, Option.bind_eq_some_iff.2 ⟨_, heither, rfl⟩⟩

/-- **Regions, areas and overlaps count pixels.**  Two boxes share a region exactly if they have a pixel in common, and then
it covers the common ones; an area is a number of pixels; and their overlap, for which 64 bits are enough, is the number of
pixels they share over the number that either has: the same both ways, between nothing where they share none and one where
they are one box with area. -/
theorem iou_counts [Scalar.Exact α] (a b : Box) (h : a.area + b.area < 2 ^ 64) :
    (a.inter? b = none ↔ Disjoint a.points b.points) ∧
    (∀ c, a.inter? b = some c → c.points = a.points ∩ b.points) ∧
    (∀ c : Box, c.area = c.points.card) ∧
    (a.iou? b : Option α) = some (a.iou b) ∧ (a.iou b : α) = b.iou a ∧
    Is (a.iou b : α) (a.overlap b) ∧
    (a.points ∪ b.points = ∅ → a.overlap b = 0) ∧
    (0 ≤ a.overlap b ∧ a.overlap b ≤ 1) ∧
    (a.overlap b = 0 ↔ Disjoint a.points b.points) ∧
    (a.overlap b = 1 ↔ a = b ∧ a.isEmpty = false) := by
  refine ⟨inter?_eq_none_iff_disjoint a b, fun c hc => points_of_inter? hc, fun c => (card_points c).symm, iou?_eq h,
    iou_comm a b, is_iou a b, fun hnone => ?_, ⟨overlap_nonneg a b, overlap_le_one a b⟩, overlap_eq_zero_iff a b,
    overlap_eq_one_iff a b⟩
  rw [overlap, hnone, Finset.card_empty, Nat.cast_zero, div_zero]

/-- Two boxes with a corner of each in the other: four pixels of twenty. -/
theorem iou_counts_corners : (⟨-2, -1, 4, 3⟩ : Box).area + (⟨0, 0, 4, 3⟩ : Box).area < 2 ^ 64 ∧
    (iou? ⟨-2, -1, 4, 3⟩ ⟨0, 0, 4, 3⟩ : Option ℚ) = some (1 / 5) ∧
    Is (iou ⟨-2, -1, 4, 3⟩ ⟨0, 0, 4, 3⟩ : ℚ) (overlap ⟨-2, -1, 4, 3⟩ ⟨0, 0, 4, 3⟩) := by
  have harea : (⟨-2, -1, 4, 3⟩ : Box).area + (⟨0, 0, 4, 3⟩ : Box).area < 2 ^ 64 := by decide
  obtain ⟨-, -, -, hwords, -, hshare, -⟩ := iou_counts (α := ℚ) ⟨-2, -1, 4, 3⟩ ⟨0, 0, 4, 3⟩ harea
  exact ⟨harea, hwords.trans (by decide +kernel), hshare⟩

end Overlap
end Box
end Pinpoint
