import Mathlib.Data.List.Basic
import Pinpoint.Picture.Annotate
/-!
# Strokes — what drawing leaves on a pixel

A stroke changes the four bytes of one pixel and no others, so a byte of a drawn picture is the byte of the picture
before, taken through the strokes at its pixel in the order in which they are drawn (`byte_paint`).
-/
namespace Pinpoint
namespace Annotate

/-- What an ink makes of the byte of a channel. -/
def Ink.on (c : Nat) : Ink → UInt8 → UInt8
  | .over colour cover, v =>
    if c = 0 then mix cover v colour.red else if c = 1 then mix cover v colour.green
    else if c = 2 then mix cover v colour.blue else 255
  | .shade, v => if c < 3 then Annotate.shade v else 255

/-- The stroke is at a pixel. -/
def Stroke.isAt (x y : Nat) (s : Stroke) : Bool := s.x == x && s.y == y

theorem Stroke.isAt_iff {x y : Nat} {s : Stroke} : s.isAt x y = true ↔ s.x = x ∧ s.y = y := by
  rw [isAt, Bool.and_eq_true, beq_iff_eq, beq_iff_eq]

/-- **A touch changes the four bytes of a pixel**, each in its way. -/
theorem getElem?_touch (ink : Ink) (data : Array UInt8) (i k : Nat) :
    (touch ink data i)[k]? = if i ≤ k ∧ k < i + 4 then data[k]?.map (ink.on (k - i)) else data[k]? := by
  by_cases hk : i ≤ k ∧ k < i + 4
  · rw [if_pos hk]
    obtain rfl | rfl | rfl | rfl : k = i ∨ k = i + 1 ∨ k = i + 2 ∨ k = i + 3 := by omega
    all_goals
      cases ink
      · simp [touch, Array.getElem?_modify]
        rfl
      · simp [touch, Array.getElem?_modify]
        rfl
  · rw [if_neg hk]
    have h0 : i ≠ k := by omega
    have h1 : i + 1 ≠ k := by omega
    have h2 : i + 2 ≠ k := by omega
    have h3 : i + 3 ≠ k := by omega
    cases ink <;> simp [touch, Array.getElem?_modify, h0, h1, h2, h3]

/-- Pixels of one picture have no byte in common. -/
theorem index_inj {w x y u v k : Nat} (hx : x < w) (hu : u < w) (h : (y * w + x) * 4 ≤ k)
    (h' : k < (y * w + x) * 4 + 4) (hk : (v * w + u) * 4 ≤ k) (hk' : k < (v * w + u) * 4 + 4) : x = u ∧ y = v := by
  have hplace : x + w * y = u + w * v := by rw [Nat.mul_comm w, Nat.mul_comm w]; omega
  have hmod := congrArg (· % w) hplace
  have hdiv := congrArg (· / w) hplace
  have hw : 0 < w := Nat.zero_lt_of_lt hx
  simp only [Nat.add_mul_mod_self_left, Nat.mod_eq_of_lt hx, Nat.mod_eq_of_lt hu] at hmod
  simp only [Nat.add_mul_div_left _ _ hw, Nat.div_eq_of_lt hx, Nat.div_eq_of_lt hu] at hdiv
  exact ⟨hmod, by omega⟩

variable {w h x y c : Nat}

/-- **A stroke changes the pixel that it is at**, and no other. -/
theorem getElem?_apply (hx : x < w) (hy : y < h) (hc : c < 4) (data : Array UInt8) (s : Stroke) :
    (apply w h data s)[(y * w + x) * 4 + c]? =
      if s.isAt x y then data[(y * w + x) * 4 + c]?.map (s.ink.on c) else data[(y * w + x) * 4 + c]? := by
  unfold apply
  by_cases hat : s.isAt x y = true
  · obtain ⟨hsx, hsy⟩ := Stroke.isAt_iff.1 hat
    rw [if_pos hat, if_pos ⟨by omega, by omega, by omega, by omega⟩, hsx, hsy, Int.toNat_natCast, Int.toNat_natCast,
      getElem?_touch, if_pos ⟨by omega, by omega⟩, Nat.add_sub_cancel_left]
  · rw [if_neg hat]
    split
    · rename_i hin
      rw [getElem?_touch, if_neg]
      rintro ⟨hlo, hhi⟩
      obtain ⟨hx', hy'⟩ := index_inj (y := s.y.toNat) (v := y) (by omega) hx hlo hhi (by omega) (by omega)
      exact hat (Stroke.isAt_iff.2 ⟨by omega, by omega⟩)
    · rfl

/-- What strokes at one pixel make of one of its bytes. -/
def layered (c : Nat) (l : List Stroke) (v : UInt8) : UInt8 := l.foldl (fun v s => s.ink.on c v) v

theorem getElem?_foldl_apply (hx : x < w) (hy : y < h) (hc : c < 4) (l : List Stroke) (data : Array UInt8) :
    (l.foldl (apply w h) data)[(y * w + x) * 4 + c]? =
      data[(y * w + x) * 4 + c]?.map (layered c (l.filter (Stroke.isAt x y))) := by
  induction l generalizing data with
  | nil => exact (Option.map_id' (x := data[(y * w + x) * 4 + c]?)).symm
  | cons s l ih =>
    rw [List.foldl_cons, ih, getElem?_apply hx hy hc, List.filter_cons]
    split
    · rw [Option.map_map]
      rfl
    · rfl

/-- **A byte of a drawn picture** is the byte before, taken through the strokes at its pixel. -/
theorem byte_paint {p : Picture} (hmode : p.mode = .rgba) (hx : x < p.w) (hy : y < p.h) (hc : c < 4) (l : List Stroke) :
    (paint p l).byte x y c = layered c (l.filter (Stroke.isAt x y)) (p.byte x y c) := by
  have hbytes : p.mode.bytes = 4 := by rw [hmode]; rfl
  have hindex : p.index x y c = (y * p.w + x) * 4 + c := by rw [Picture.index, hbytes]
  have hindex' : (paint p l).index x y c = (y * p.w + x) * 4 + c := hindex
  have hsize : p.data.size = p.w * p.h * 4 := by rw [p.size_data, hbytes]; rfl
  have hlt : (y * p.w + x) * 4 + c < p.data.size := by
    have : (y + 1) * p.w ≤ p.h * p.w := Nat.mul_le_mul_right p.w hy
    rw [hsize, Nat.mul_comm p.w]
    rw [Nat.add_mul] at this
    omega
  have hdrawn := getElem?_foldl_apply hx hy hc l p.data
  rw [Array.getElem?_eq_getElem hlt, Option.map_some] at hdrawn
  rw [Picture.byte, Picture.byte, hindex, hindex', Array.getD_eq_getD_getElem?, Array.getD_eq_getD_getElem?,
    Array.getElem?_eq_getElem hlt, Option.getD_some]
  exact congrArg (Option.getD · 0) hdrawn

end Annotate
end Pinpoint
