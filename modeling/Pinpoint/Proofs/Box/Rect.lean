import Mathlib.Data.Int.ConditionallyCompleteOrder
import Pinpoint.Proofs.Box.Bounds
/-!
# Rect — rectangles that no number of bits bounds

Edges are computed as whole numbers of any size, and a box holds 32 bits of its near corner and of each extent.  A
rectangle that fits, its edges in order, keeps them (`Fits.edges_toBox`); of any other the box is moved by a multiple of
`2 ^ 32` on each axis, and so much is cut off its extents, which 64 bits were kept of before (`mem_toBox`).
-/
namespace Pinpoint

/-- A rectangle by its edges; edges in the wrong order span nothing. -/
structure Rect where
  left   : Int
  top    : Int
  right  : Int
  bottom : Int
  deriving DecidableEq, Repr

namespace Rect

variable {r : Rect} {b : Box} {q : Int × Int} {f g f' g' : Int → Int}

instance : Membership (Int × Int) Rect :=
  ⟨fun r q => r.left ≤ q.1 ∧ q.1 < r.right ∧ r.top ≤ q.2 ∧ q.2 < r.bottom⟩

theorem mem_iff : q ∈ r ↔ r.left ≤ q.1 ∧ q.1 < r.right ∧ r.top ≤ q.2 ∧ q.2 < r.bottom := Iff.rfl

/-- The rectangle to which the edges of a box are taken, axis by axis. -/
def ofEdges (f g : Int → Int) (b : Box) : Rect := ⟨f b.left, g b.top, f b.right, g b.bottom⟩

/-- What a box holds of a rectangle. -/
def toBox (r : Rect) : Box := Box.ofCorners r.left r.top r.right r.bottom

/-- **A box can hold the rectangle**: 32 bits are enough for the near corner and for each extent. -/
structure Fits (r : Rect) : Prop where
  left   : -2 ^ 31 ≤ r.left ∧ r.left < 2 ^ 31
  top    : -2 ^ 31 ≤ r.top ∧ r.top < 2 ^ 31
  width  : r.right - r.left < 2 ^ 32
  height : r.bottom - r.top < 2 ^ 32

/-- The rectangle that is left of a rectangle: 32 bits of its near corner and, by way of 64, of its extents. -/
def wrap (r : Rect) : Rect where
  left   := r.left.bmod (2 ^ 32)
  top    := r.top.bmod (2 ^ 32)
  right  := r.left.bmod (2 ^ 32) + (((r.right - r.left).bmod (2 ^ 64)).toNat % 2 ^ 32 : Nat)
  bottom := r.top.bmod (2 ^ 32) + (((r.bottom - r.top).bmod (2 ^ 64)).toNat % 2 ^ 32 : Nat)

/-! ## What a box holds -/

/-- A corner past 31 bits turns up on the other side of zero. -/
theorem bmod_neg {v : Int} (h : 2 ^ 31 ≤ v) (h' : v < 2 ^ 32) : v.bmod (2 ^ 32) < 0 := by
  rw [Int.bmod_def]
  push_cast
  split_ifs <;> omega

theorem edges_toBox (r : Rect) : r.toBox.left = r.wrap.left ∧ r.toBox.top = r.wrap.top ∧
    r.toBox.right = r.wrap.right ∧ r.toBox.bottom = r.wrap.bottom := by
  have hl : r.toBox.left = r.left.bmod (2 ^ 32) := Int32.toInt_ofInt
  have ht : r.toBox.top = r.top.bmod (2 ^ 32) := Int32.toInt_ofInt
  have hw : r.toBox.width.toNat = ((r.right - r.left).bmod (2 ^ 64)).toNat % 2 ^ 32 := Box.toNat_extent ..
  have hh : r.toBox.height.toNat = ((r.bottom - r.top).bmod (2 ^ 64)).toNat % 2 ^ 32 := Box.toNat_extent ..
  refine ⟨hl, ht, ?_, ?_⟩
  · rw [Box.right, hl, hw]
    rfl
  · rw [Box.bottom, ht, hh]
    rfl

/-- **What a box keeps of a rectangle.** -/
theorem mem_toBox : q ∈ r.toBox ↔ q ∈ r.wrap := by
  obtain ⟨hl, ht, hr, hb⟩ := r.edges_toBox
  rw [Box.mem_iff, mem_iff, hl, ht, hr, hb]

/-- **The box of a rectangle that fits** has its edges, if they are in order. -/
theorem Fits.edges_toBox (h : r.Fits) (hlr : r.left ≤ r.right) (htb : r.top ≤ r.bottom) :
    r.toBox.left = r.left ∧ r.toBox.top = r.top ∧ r.toBox.right = r.right ∧ r.toBox.bottom = r.bottom := by
  have hw := h.width
  have hh := h.height
  obtain ⟨hl, ht, hr, hb⟩ := Box.edges_ofCorners r.left r.top r.right r.bottom h.left h.top (by omega) (by omega)
  exact ⟨hl, ht, hr.trans (max_eq_right hlr), hb.trans (max_eq_right htb)⟩

theorem Fits.mem_toBox (h : r.Fits) (hlr : r.left ≤ r.right) (htb : r.top ≤ r.bottom) : q ∈ r.toBox ↔ q ∈ r := by
  obtain ⟨hl, ht, hr, hb⟩ := h.edges_toBox hlr htb
  rw [Box.mem_iff, mem_iff, hl, ht, hr, hb]

/-- Edges that are never in the wrong order come through. -/
theorem Fits.edges_ofEdges (hf : Monotone f) (hg : Monotone g) (h : (ofEdges f g b).Fits) :
    (ofEdges f g b).toBox.left = f b.left ∧ (ofEdges f g b).toBox.top = g b.top ∧
      (ofEdges f g b).toBox.right = f b.right ∧ (ofEdges f g b).toBox.bottom = g b.bottom :=
  h.edges_toBox (hf b.left_le_right) (hg b.top_le_bottom)

/-- **A box comes back** if every edge does and the rectangle on the way fits. -/
theorem Fits.toBox_ofEdges (hf : Monotone f) (hg : Monotone g) (hff' : ∀ v, f' (f v) = v) (hgg' : ∀ v, g' (g v) = v)
    (h : (ofEdges f g b).Fits) : (ofEdges f' g' (ofEdges f g b).toBox).toBox = b := by
  have hb : (⟨b.left, b.top, b.right, b.bottom⟩ : Rect).Fits :=
    ⟨⟨b.le_left, b.left_lt⟩, ⟨b.le_top, b.top_lt⟩, b.right_sub_left_lt, b.bottom_sub_top_lt⟩
  obtain ⟨hl, ht, hr, hbt⟩ := h.edges_ofEdges hf hg
  obtain ⟨hl', ht', hr', hbt'⟩ := hb.edges_toBox b.left_le_right b.top_le_bottom
  rw [ofEdges, hl, ht, hr, hbt, hff', hgg', hff', hgg']
  exact Box.ext_edges hl' ht' hr' hbt'

end Rect
end Pinpoint
