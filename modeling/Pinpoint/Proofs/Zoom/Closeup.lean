import Pinpoint.Zoom
import Pinpoint.Proofs.Box.Bounds
import Pinpoint.Proofs.Picture.Sizes
/-!
# Closeup — what a closer look shows, and the way back

A closer look at a chosen region succeeds only if the region is a part of the picture, and then shows it stretched on
each axis by the quotient of two whole numbers of pixels, never shrunk and never beyond the size of the whole
(`Shows`).  On the way back the edges of a box are divided by these quotients and rounded one by one, so that they stay
in the region (`Shows.toWhole_mem`).  Two edges may round to the same one: the box keeps area exactly if they do not
(`Shows.toWhole_nonempty_iff`).
-/
namespace Pinpoint

open Scalar (Is nearest)

variable {α : Type} [Scalar α]

/-! ## What a closeup shows -/

/-- **A closeup shows a part of a picture**, on each axis as far stretched as its size says. -/
structure Closeup.Shows (part : Closeup α) (p : Picture) (region : Box) : Prop where
  isPart     : Box.IsPart p.width p.height region
  cropWidth  : part.cropWidth = region.width
  cropHeight : part.cropHeight = region.height
  originX    : part.lens.originX = region.left
  originY    : part.lens.originY = region.top
  factorX    : part.lens.factorX = Scalar.ratio part.picture.w region.width.toNat
  factorY    : part.lens.factorY = Scalar.ratio part.picture.h region.height.toNat
  width_mem  : region.width.toNat ≤ part.picture.w ∧ part.picture.w ≤ p.w
  height_mem : region.height.toNat ≤ part.picture.h ∧ part.picture.h ≤ p.h

namespace Zoom

/-- The factor is held between one and what fills the picture, whatever limit is set. -/
theorem exists_factor [Scalar.Exact α] (maxUpscale : α) {region : Box} {w h : UInt32} (hr : Box.IsPart w h region) :
    ∃ r, Is (factor maxUpscale region w h) r ∧ 1 ≤ r ∧ region.width.toNat * r ≤ w.toNat ∧
      region.height.toNat * r ≤ h.toNat := by
  obtain ⟨hx, hx', hy, hy'⟩ := hr.within
  have hlr := hr.left_lt_right
  have htb := hr.top_lt_bottom
  unfold Box.right at hx' hlr
  unfold Box.bottom at hy' htb
  have hw : (0 : ℝ) < region.width.toNat := Nat.cast_pos.2 (by omega)
  have hh : (0 : ℝ) < region.height.toNat := Nat.cast_pos.2 (by omega)
  have hww : (region.width.toNat : ℝ) ≤ w.toNat := Nat.cast_le.2 (by omega)
  have hhh : (region.height.toNat : ℝ) ≤ h.toNat := Nat.cast_le.2 (by omega)
  have hfill := (Is.ratio (α := α) w.toNat (q := region.width.toNat) (by omega)).min
    (Is.ratio h.toNat (q := region.height.toNat) (by omega))
  have h1le := le_min ((one_le_div hw).2 hww) ((one_le_div hh).2 hhh)
  obtain ⟨r, hir, h1r, hle⟩ := Is.one.exists_max_min hfill h1le maxUpscale
  rw [le_min_iff, le_div_iff₀' hw, le_div_iff₀' hh] at hle
  refine ⟨r, ?_, h1r, hle⟩
  unfold factor
  rwa [hr.nonempty, if_neg Bool.false_ne_true]

/-- **What is cut out**: as much of the region as is on the picture, with its sides scaled by what the factor comes to. -/
theorem cut_eq_ok {p : Picture} {region : Box} {f : α} {part : Closeup α} (h : cut p region f = .ok part) :
    ∃ crop, region.clip? p.width p.height = some crop ∧ part.cropWidth = crop.width ∧ part.cropHeight = crop.height ∧
      part.lens = ⟨crop.left, crop.top, Scalar.ratio part.picture.w crop.width.toNat,
        Scalar.ratio part.picture.h crop.height.toNat⟩ ∧
      part.picture.width = Picture.scaledSide crop.width (atLeastOne f) ∧
      part.picture.height = Picture.scaledSide crop.height (atLeastOne f) := by
  -- the part is enlarged only where that changes its size
  have hsize : ∀ (w h : UInt32) (crop : Box) (q : Picture), q.width = crop.width → q.height = crop.height →
      (if w = crop.width ∧ h = crop.height then q else Resample.resize .lanczos q w h).width = w ∧
      (if w = crop.width ∧ h = crop.height then q else Resample.resize .lanczos q w h).height = h := by
    intro w h crop q hqw hqh
    split
    · rename_i hs
      exact ⟨hqw.trans hs.1.symm, hqh.trans hs.2.symm⟩
    · exact ⟨Picture.width_resize .., Picture.height_resize ..⟩
  unfold cut at h
  split at h
  · cases h
  · rename_i crop hcrop
    obtain rfl := Except.ok.inj h
    obtain ⟨hpw, hph⟩ := hsize (Picture.scaledSide crop.width (atLeastOne f))
      (Picture.scaledSide crop.height (atLeastOne f)) crop
      (p.crop crop.left.toNat crop.top.toNat crop.width crop.height) rfl rfl
    refine ⟨crop, hcrop, rfl, rfl, ?_, hpw, hph⟩
    dsimp only [Picture.w, Picture.h]
    rw [hpw, hph]

/-- **A closer look at a part of a picture shows it.** -/
theorem look_shows [Scalar.Exact α] {s : ZoomSettings α} {p : Picture} {region : Box} {part : Closeup α}
    (hr : Box.IsPart p.width p.height region) (h : look s p region = .ok part) : part.Shows p region := by
  obtain ⟨r, hf, h1, hw, hh⟩ := exists_factor s.maxUpscale hr
  have hone : Is (atLeastOne (factor s.maxUpscale region p.width p.height)) r := by
    unfold atLeastOne
    rw [if_pos hf.1]
    have := hf.max Is.one
    rwa [max_eq_left h1] at this
  have hlr := hr.left_lt_right
  have htb := hr.top_lt_bottom
  unfold Box.right at hlr
  unfold Box.bottom at htb
  obtain ⟨crop, hcrop, hcw, hch, hlens, hpw, hph⟩ := cut_eq_ok h
  obtain rfl : region = crop := Option.some.inj (hr.clip?.symm.trans hcrop)
  refine ⟨hr, hcw, hch, by rw [hlens], by rw [hlens], by rw [hlens], by rw [hlens], ?_, ?_⟩
  · rw [Picture.w, hpw]
    exact Picture.scaledSide_mem hone h1 hw (by omega)
  · rw [Picture.h, hph]
    exact Picture.scaledSide_mem hone h1 hh (by omega)

/-- The region chosen around a coarse box is a part of the picture if it can be looked at. -/
theorem extend_isPart_of_look {s : ZoomSettings α} {p : Picture} {margin : α} {coarse : Box}
    {reference : Option (UInt32 × UInt32)} {part : Closeup α}
    (h : look s p (extend margin coarse reference p.width p.height) = .ok part) :
    Box.IsPart p.width p.height (extend margin coarse reference p.width p.height) := by
  unfold look cut at h
  split at h
  · cases h
  · rename_i c hc
    unfold extend at hc ⊢
    dsimp only at hc ⊢
    cases hclip : Box.clip? _ p.width p.height with
    | none =>
      rw [hclip] at hc
      cases hclip.symm.trans hc
    | some d => exact Box.isPart_of_clip? hclip

end Zoom

/-! ## The way back -/

namespace Closeup

/-- The edge of the region, counted from its corner, to which an edge of the closeup comes back. -/
def back (shown own : Nat) (v : Int) : Int := nearest (v * own / shown : ℚ)

theorem back_mem {shown : Nat} (own : Nat) {v : Int} (h0 : 0 ≤ v) (hv : v ≤ shown) :
    0 ≤ back shown own v ∧ back shown own v ≤ own := by
  have h0 : (0 : ℚ) ≤ v := by exact_mod_cast h0
  have hv : (v : ℚ) ≤ shown := by exact_mod_cast hv
  constructor
  · refine Scalar.le_nearest ?_
    rw [Int.cast_zero]
    positivity
  · refine Scalar.nearest_le (div_le_of_le_mul₀ (Nat.cast_nonneg _) (by simp) ?_)
    rw [Int.cast_natCast, mul_comm]
    exact mul_le_mul_of_nonneg_left hv (Nat.cast_nonneg _)

theorem back_le_back (shown own : Nat) {v v' : Int} (h : v ≤ v') : back shown own v ≤ back shown own v' := by
  have h : (v : ℚ) ≤ v' := by exact_mod_cast h
  refine Scalar.nearest_mono (div_le_div_of_nonneg_right ?_ (Nat.cast_nonneg _))
  exact mul_le_mul_of_nonneg_right h (Nat.cast_nonneg _)

/-- **Both pairs of edges stay apart** on the way back. -/
def Keeps (part : Closeup α) (b : Box) : Prop :=
  back part.picture.w part.cropWidth.toNat b.left < back part.picture.w part.cropWidth.toNat b.right ∧
    back part.picture.h part.cropHeight.toNat b.top < back part.picture.h part.cropHeight.toNat b.bottom

theorem nearest_div_ratio (shown own : Nat) (v : Int) : nearest ((v : ℝ) / (shown / own)) = back shown own v := by
  rw [back, ← Scalar.nearest_ratCast, div_div_eq_mul_div]
  push_cast
  rfl

variable {part : Closeup α} {p : Picture} {region b : Box}

theorem Shows.cropWidth_mem (hs : part.Shows p region) :
    0 < part.cropWidth.toNat ∧ part.cropWidth.toNat ≤ part.picture.w := by
  have := hs.isPart.left_lt_right
  unfold Box.right at this
  rw [hs.cropWidth]
  exact ⟨by omega, hs.width_mem.1⟩

theorem Shows.cropHeight_mem (hs : part.Shows p region) :
    0 < part.cropHeight.toNat ∧ part.cropHeight.toNat ≤ part.picture.h := by
  have := hs.isPart.top_lt_bottom
  unfold Box.bottom at this
  rw [hs.cropHeight]
  exact ⟨by omega, hs.height_mem.1⟩

theorem Shows.addressable (hs : part.Shows p region) (hp : p.Addressable) : part.picture.Addressable :=
  ⟨lt_of_le_of_lt hs.width_mem.2 hp.1, lt_of_le_of_lt hs.height_mem.2 hp.2⟩

theorem Shows.back_edges (hs : part.Shows p region) (hb : Box.IsPart part.picture.width part.picture.height b) :
    (0 ≤ back part.picture.w part.cropWidth.toNat b.left ∧
      back part.picture.w part.cropWidth.toNat b.left ≤ back part.picture.w part.cropWidth.toNat b.right ∧
      back part.picture.w part.cropWidth.toNat b.right + region.left ≤ region.right) ∧
    (0 ≤ back part.picture.h part.cropHeight.toNat b.top ∧
      back part.picture.h part.cropHeight.toNat b.top ≤ back part.picture.h part.cropHeight.toNat b.bottom ∧
      back part.picture.h part.cropHeight.toNat b.bottom + region.top ≤ region.bottom) := by
  obtain ⟨hl, hr, ht, hbt⟩ := hb.within
  have hlr := hb.left_lt_right.le
  have htb := hb.top_lt_bottom.le
  have hcw : region.right = region.left + part.cropWidth.toNat := by rw [hs.cropWidth]; rfl
  have hch : region.bottom = region.top + part.cropHeight.toNat := by rw [hs.cropHeight]; rfl
  have bl := back_mem part.cropWidth.toNat hl (hlr.trans hr)
  have br := back_mem part.cropWidth.toNat (hl.trans hlr) hr
  have bt := back_mem part.cropHeight.toNat ht (htb.trans hbt)
  have bb := back_mem part.cropHeight.toNat (ht.trans htb) hbt
  refine ⟨⟨bl.1, back_le_back _ _ hlr, ?_⟩, ⟨bt.1, back_le_back _ _ htb, ?_⟩⟩
  · unfold Picture.w
    omega
  · unfold Picture.h
    omega

variable [Scalar.Exact α]

theorem roundInt_div {shown own : Nat} (ho : 0 < own) (hso : own ≤ shown) {v : Int} (hv : -2 ^ 31 ≤ v)
    (hv' : v < 2 ^ 33) :
    Scalar.roundInt (Scalar.ofInt v / Scalar.ratio shown own : α) = back shown own v := by
  have hone : (1 : ℝ) ≤ shown / own := (one_le_div (Nat.cast_pos.2 ho)).2 (Nat.cast_le.2 hso)
  rw [(Is.ratio shown (by omega)).roundInt_div hone (by omega) (by omega), nearest_div_ratio]

theorem Shows.toWhole_eq (hs : part.Shows p region) (b : Box) : part.lens.toWhole b = Box.ofCorners
    (back part.picture.w part.cropWidth.toNat b.left + region.left)
    (back part.picture.h part.cropHeight.toNat b.top + region.top)
    (back part.picture.w part.cropWidth.toNat b.right + region.left)
    (back part.picture.h part.cropHeight.toNat b.bottom + region.top) := by
  obtain ⟨hw, hw'⟩ := hs.cropWidth_mem
  obtain ⟨hh, hh'⟩ := hs.cropHeight_mem
  obtain ⟨⟨hl, hlr, hr⟩, ⟨ht, htb, hb⟩⟩ := b.edges_mem
  simp only [Lens.toWhole, hs.originX, hs.originY, hs.factorX, hs.factorY, ← hs.cropWidth, ← hs.cropHeight]
  rw [roundInt_div hw hw' (by omega) (by omega), roundInt_div hh hh' (by omega) (by omega),
    roundInt_div hw hw' (by omega) (by omega), roundInt_div hh hh' (by omega) (by omega)]

theorem Shows.edges_toWhole (hs : part.Shows p region) (hp : p.Addressable)
    (hb : Box.IsPart part.picture.width part.picture.height b) :
    (part.lens.toWhole b).left = back part.picture.w part.cropWidth.toNat b.left + region.left ∧
    (part.lens.toWhole b).top = back part.picture.h part.cropHeight.toNat b.top + region.top ∧
    (part.lens.toWhole b).right = back part.picture.w part.cropWidth.toNat b.right + region.left ∧
    (part.lens.toWhole b).bottom = back part.picture.h part.cropHeight.toNat b.bottom + region.top := by
  obtain ⟨hx, hx', hy, hy'⟩ := hs.isPart.within
  obtain ⟨⟨hl, hlr, hr⟩, ⟨ht, htb, hbt⟩⟩ := hs.back_edges hb
  obtain ⟨hw, hh⟩ := hp
  unfold Picture.w at hw
  unfold Picture.h at hh
  obtain ⟨el, et, er, eb⟩ := Box.edges_ofCorners (back part.picture.w part.cropWidth.toNat b.left + region.left)
    (back part.picture.h part.cropHeight.toNat b.top + region.top)
    (back part.picture.w part.cropWidth.toNat b.right + region.left)
    (back part.picture.h part.cropHeight.toNat b.bottom + region.top) (by omega) (by omega) (by omega) (by omega)
  rw [hs.toWhole_eq, el, et, er, eb]
  exact ⟨rfl, rfl, by omega, by omega⟩

/-- **A part of the closeup comes back into the region**, and so onto the picture. -/
theorem Shows.toWhole_mem (hs : part.Shows p region) (hp : p.Addressable)
    (hb : Box.IsPart part.picture.width part.picture.height b) :
    region.left ≤ (part.lens.toWhole b).left ∧ (part.lens.toWhole b).right ≤ region.right ∧
      region.top ≤ (part.lens.toWhole b).top ∧ (part.lens.toWhole b).bottom ≤ region.bottom := by
  obtain ⟨⟨hl, -, hr⟩, ⟨ht, -, hbt⟩⟩ := hs.back_edges hb
  obtain ⟨el, et, er, eb⟩ := hs.edges_toWhole hp hb
  exact ⟨by omega, by omega, by omega, by omega⟩

theorem Shows.toWhole_within (hs : part.Shows p region) (hp : p.Addressable)
    (hb : Box.IsPart part.picture.width part.picture.height b) : (part.lens.toWhole b).Within p.width p.height := by
  obtain ⟨hl, hr, ht, hbt⟩ := hs.toWhole_mem hp hb
  obtain ⟨hx, hx', hy, hy'⟩ := hs.isPart.within
  exact ⟨hx.trans hl, hr.trans hx', hy.trans ht, hbt.trans hy'⟩

/-- **What is left of its area**: a part of the closeup keeps some exactly if both pairs of edges stay apart. -/
theorem Shows.toWhole_nonempty_iff (hs : part.Shows p region) (hp : p.Addressable)
    (hb : Box.IsPart part.picture.width part.picture.height b) :
    (part.lens.toWhole b).isEmpty = false ↔ part.Keeps b := by
  obtain ⟨hl, ht, hr, hbt⟩ := hs.edges_toWhole hp hb
  rw [Box.isEmpty_eq_false_iff, hl, ht, hr, hbt, Keeps, add_lt_add_iff_right, add_lt_add_iff_right]

end Closeup
end Pinpoint
