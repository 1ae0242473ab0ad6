import Pinpoint.Proofs.Box.Rect
import Pinpoint.Proofs.Search.Parts
/-!
# Placed — what is kept of the boxes of an answer

A model may answer with any finite numbers, and each box spans a rectangle once its corners are put in order, scaled and
rounded (`spanned`).  As long as that rectangle fits a box, what is kept of it is what it shares with the picture.  Of any
other the edges are held to 64 bits first, and the box then takes 32 bits of the near corner and, of 64 bits, the extents;
so something else may be on the picture (`place_isRegion_iff`): a rectangle far off it may be moved onto it (`place_moved`).
-/
namespace Pinpoint

open Scalar (Is nearest)

/-- **A result that is a set of pixels**: it covers them, and it is missing exactly if there are none. -/
def IsRegion (o : Option Box) (s : Set (Int × Int)) : Prop := Box.pixels o.toList = s ∧ (o = none ↔ s = ∅)

theorem IsRegion.eq {o : Option Box} {s t : Set (Int × Int)} (hs : IsRegion o s) (ht : IsRegion o t) : s = t :=
  hs.1.symm.trans ht.1

theorem Box.isRegion_clip? (b : Box) (w h : UInt32) : IsRegion (b.clip? w h) {q | q ∈ b ∧ q ∈ ofSize w h} := by
  have hnone := inter?_eq_none_iff b (ofSize w h)
  cases hc : b.clip? w h with
  | none =>
    have hempty : {q | q ∈ b ∧ q ∈ ofSize w h} = ∅ := Set.eq_empty_of_forall_notMem (hnone.1 hc)
    exact ⟨pixels_nil.trans hempty.symm, iff_of_true rfl hempty⟩
  | some c =>
    have hcover : pixels [c] = {q | q ∈ b ∧ q ∈ ofSize w h} := by
      ext q
      rw [mem_pixels]
      simp only [List.mem_singleton, exists_eq_left, mem_of_inter? hc, Set.mem_ofPred_eq]
    have hcorner : (c.left, c.top) ∈ pixels [c] := ⟨c, List.mem_singleton_self c, corner_mem (isPart_of_clip? hc).nonempty⟩
    refine ⟨hcover, iff_of_false (Option.some_ne_none c) fun hempty => ?_⟩
    rw [hcover, hempty] at hcorner
    exact hcorner

namespace Rect

/-- What 64 bits hold of a number. -/
def hold (v : Int) : Int := max (-2 ^ 63) (min (2 ^ 63 - 1) v)

/-- A rectangle as far as 64 bits hold its edges. -/
def held (r : Rect) : Rect := ⟨hold r.left, hold r.top, hold r.right, hold r.bottom⟩

theorem Fits.held_eq {r : Rect} (h : r.Fits) (hlr : r.left ≤ r.right) (htb : r.top ≤ r.bottom) : r.held = r := by
  obtain ⟨⟨hl, hl'⟩, ⟨ht, ht'⟩, hw, hh⟩ := h
  have hhold : ∀ v : Int, -2 ^ 31 ≤ v → v < 2 ^ 33 → hold v = v := fun v h h' => by
    unfold hold
    omega
  rw [held, hhold _ hl (by omega), hhold _ ht (by omega), hhold _ (by omega) (by omega), hhold _ (by omega) (by omega)]

end Rect

variable {α : Type} [Scalar α] [Scalar.Exact α]

namespace Normalized

/-- **The rectangle that a box of an answer spans**: its corners in order, scaled and rounded. -/
noncomputable def spanned (b : Normalized α) (fx fy : ℝ) : Rect where
  left   := nearest (min (Scalar.Exact.val b.xMin) (Scalar.Exact.val b.xMax) * fx)
  top    := nearest (min (Scalar.Exact.val b.yMin) (Scalar.Exact.val b.yMax) * fy)
  right  := nearest (max (Scalar.Exact.val b.xMin) (Scalar.Exact.val b.xMax) * fx)
  bottom := nearest (max (Scalar.Exact.val b.yMin) (Scalar.Exact.val b.yMax) * fy)

theorem spanned_ordered (b : Normalized α) {fx fy : ℝ} (hx : 0 ≤ fx) (hy : 0 ≤ fy) :
    (b.spanned fx fy).left ≤ (b.spanned fx fy).right ∧ (b.spanned fx fy).top ≤ (b.spanned fx fy).bottom :=
  ⟨Scalar.nearest_mono (mul_le_mul_of_nonneg_right min_le_max hx),
    Scalar.nearest_mono (mul_le_mul_of_nonneg_right min_le_max hy)⟩

variable {b : Normalized α} {scale ratio : α} {σ ρ : ℝ}

/-- **A box in pixels** is what a box keeps of the held rectangle that it spans; one without area is dropped. -/
theorem toPixels_eq (hb : b.isFinite = true) (hs : Is scale σ) (hr : Is ratio ρ) (h0 : 0 < σ) (h0' : 0 < ρ)
    (sentWidth sentHeight : UInt32) :
    b.toPixels scale sentWidth sentHeight ratio =
      if (b.spanned (sentWidth.toNat / σ / ρ) (sentHeight.toNat / σ / ρ)).held.toBox.isEmpty then none
      else some (b.spanned (sentWidth.toNat / σ / ρ) (sentHeight.toNat / σ / ρ)).held.toBox := by
  simp only [isFinite, Bool.and_eq_true] at hb
  obtain ⟨⟨⟨hx, hy⟩, hx'⟩, hy'⟩ := hb
  have hxmin : Is b.xMin (Scalar.Exact.val b.xMin) := ⟨hx, rfl⟩
  have hymin : Is b.yMin (Scalar.Exact.val b.yMin) := ⟨hy, rfl⟩
  have hxmax : Is b.xMax (Scalar.Exact.val b.xMax) := ⟨hx', rfl⟩
  have hymax : Is b.yMax (Scalar.Exact.val b.yMax) := ⟨hy', rfl⟩
  have hfactor : ∀ n : UInt32, Is (Scalar.ofNat n.toNat / scale / ratio) (n.toNat / σ / ρ) := fun n =>
    ((Is.ofNat n.toNat).div hs h0.ne').div hr h0'.ne'
  have hround : ∀ {a : α} {r : ℝ}, Is a r → Scalar.roundInt a = Rect.hold (nearest r) := fun ha => ha.toInt_round _ _
  have hpos : ¬ (scale ≤ Scalar.ofInt 0 ∨ ratio ≤ Scalar.ofInt 0) := by
    rw [hs.le (Is.ofInt 0), hr.le (Is.ofInt 0), Int.cast_zero, not_or, not_le, not_le]
    exact ⟨h0, h0'⟩
  unfold toPixels
  rw [if_neg hpos]
  dsimp only
  rw [hround ((hxmin.min hxmax).mul (hfactor sentWidth)), hround ((hymin.min hymax).mul (hfactor sentHeight)),
    hround ((hxmin.max hxmax).mul (hfactor sentWidth)), hround ((hymin.max hymax).mul (hfactor sentHeight))]
  rfl

end Normalized

namespace Grounding

variable {s : GroundingSettings α} {q : Question α} {p : Picture} {b : Normalized α} {σ ρ : ℝ}

/-- The rectangle on the picture that a box of an answer spans. -/
noncomputable def spannedAt (q : Question α) (σ ρ : ℝ) (b : Normalized α) : Rect :=
  b.spanned (q.poll.picture.w / σ / ρ) (q.poll.picture.h / σ / ρ)

/-- The pixels of a rectangle that are on a picture. -/
def onPicture (r : Rect) (p : Picture) : Set (Int × Int) := {x | x ∈ r ∧ x ∈ Box.ofSize p.width p.height}

theorem place_eq (hb : b.isFinite = true) (hs : Is s.scale σ) (hr : Is q.ratio ρ) (h0 : 0 < σ) (h0' : 0 < ρ)
    (p : Picture) : place s q p b = (spannedAt q σ ρ b).held.toBox.clip? p.width p.height := by
  rw [place_eq_bind, Normalized.toPixels_eq hb hs hr h0 h0']
  split
  · rename_i hempty
    exact (Box.clip?_of_isEmpty hempty).symm
  · rfl

/-- **What is kept of any box** is what the picture shares with the rectangle that is left of the held one. -/
theorem place_isRegion (hb : b.isFinite = true) (hs : Is s.scale σ) (hr : Is q.ratio ρ) (h0 : 0 < σ) (h0' : 0 < ρ)
    (p : Picture) : IsRegion (place s q p b) (onPicture (spannedAt q σ ρ b).held.wrap p) := by
  have hregion := (spannedAt q σ ρ b).held.toBox.isRegion_clip? p.width p.height
  simp only [Rect.mem_toBox] at hregion
  rw [place_eq hb hs hr h0 h0']
  exact hregion

theorem place_isRegion_of_fits (hb : b.isFinite = true) (hs : Is s.scale σ) (hr : Is q.ratio ρ) (h0 : 0 < σ)
    (h0' : 0 < ρ) (p : Picture) (hfit : (spannedAt q σ ρ b).Fits) :
    IsRegion (place s q p b) (onPicture (spannedAt q σ ρ b) p) := by
  have hx : 0 ≤ q.poll.picture.w / σ / ρ := by positivity
  have hy : 0 ≤ q.poll.picture.h / σ / ρ := by positivity
  obtain ⟨hlr, htb⟩ := b.spanned_ordered hx hy
  have hregion := (spannedAt q σ ρ b).toBox.isRegion_clip? p.width p.height
  simp only [hfit.mem_toBox hlr htb] at hregion
  rw [place_eq hb hs hr h0 h0', hfit.held_eq hlr htb]
  exact hregion

/-- **What is kept of the boxes of an accepted answer.**  If the rectangle that a box spans fits, it is what that
rectangle shares with the picture, and nothing if that is nothing.  Of any rectangle it is what the wrapped one shares
with the picture; so it is what it should be exactly if wrapping changes no pixel of the picture. -/
theorem place_isRegion_iff {l : List (Normalized α)} (hl : Reply.flawOfBoxes l = none) (hb : b ∈ l) (hs : Is s.scale σ)
    (hr : Is q.ratio ρ) (h0 : 0 < σ) (h0' : 0 < ρ) (p : Picture) :
    ((spannedAt q σ ρ b).Fits → IsRegion (place s q p b) (onPicture (spannedAt q σ ρ b) p)) ∧
    IsRegion (place s q p b) (onPicture (spannedAt q σ ρ b).held.wrap p) ∧
    (IsRegion (place s q p b) (onPicture (spannedAt q σ ρ b) p) ↔
      ∀ x ∈ Box.ofSize p.width p.height, x ∈ (spannedAt q σ ρ b).held.wrap ↔ x ∈ spannedAt q σ ρ b) := by
  have hfinite : b.isFinite = true := by
    unfold Reply.flawOfBoxes at hl
    split at hl
    · rename_i hall
      exact List.all_eq_true.1 hall b hb
    · cases hl
  have hkept := place_isRegion hfinite hs hr h0 h0' p
  refine ⟨place_isRegion_of_fits hfinite hs hr h0 h0' p, hkept, fun h x hx => ?_, fun h => ?_⟩
  · have hsame := Set.ext_iff.1 (hkept.eq h) x
    exact ⟨fun hw => (hsame.1 ⟨hw, hx⟩).1, fun hw => (hsame.2 ⟨hw, hx⟩).1⟩
  · have hsame : onPicture (spannedAt q σ ρ b).held.wrap p = onPicture (spannedAt q σ ρ b) p :=
      Set.ext fun x => and_congr_left fun hx => h x hx
    exact hsame ▸ hkept

/-! Two boxes on a picture that is sent as it is: one with its corners in the wrong order that reaches beyond three edges,
and one that is four billion pixels to the right. -/

def plainScreen : Picture := Picture.ofFn 100 80 .luma fun _ _ _ => 240

def plainQuestion : Question ℚ := ⟨⟨.grounding, "", plainScreen, 1⟩, 1⟩

def turned : Normalized ℚ := ⟨600, 1200, -20, -50⟩

def farOff : Normalized ℚ := ⟨42949673100, 100, 42949673600, 300⟩

theorem spannedAt_plain (b : Normalized ℚ) : spannedAt plainQuestion ((1000 : ℚ) : ℝ) ((1 : ℚ) : ℝ) b =
    ⟨nearest (min b.xMin b.xMax * (1 / 10)), nearest (min b.yMin b.yMax * (2 / 25)),
      nearest (max b.xMin b.xMax * (1 / 10)), nearest (max b.yMin b.yMax * (2 / 25))⟩ := by
  have hw : ((plainQuestion.poll.picture.w : Nat) : ℝ) / ((1000 : ℚ) : ℝ) / ((1 : ℚ) : ℝ) = ((1 / 10 : ℚ) : ℝ) := by
    have : plainQuestion.poll.picture.w = 100 := rfl
    rw [this]
    norm_num
  have hh : ((plainQuestion.poll.picture.h : Nat) : ℝ) / ((1000 : ℚ) : ℝ) / ((1 : ℚ) : ℝ) = ((2 / 25 : ℚ) : ℝ) := by
    have : plainQuestion.poll.picture.h = 80 := rfl
    rw [this]
    norm_num
  unfold spannedAt Normalized.spanned
  rw [hw, hh]
  simp only [Scalar.Exact.val, ← Rat.cast_min, ← Rat.cast_max, ← Rat.cast_mul, Scalar.nearest_ratCast]

theorem place_isRegion_iff_turned : Reply.flawOfBoxes [turned] = none ∧ turned ∈ [turned] ∧
    Is (({} : GroundingSettings ℚ)).scale ((1000 : ℚ) : ℝ) ∧ Is plainQuestion.ratio ((1 : ℚ) : ℝ) ∧
    0 < ((1000 : ℚ) : ℝ) ∧ 0 < ((1 : ℚ) : ℝ) ∧
    spannedAt plainQuestion ((1000 : ℚ) : ℝ) ((1 : ℚ) : ℝ) turned = ⟨-2, -4, 60, 96⟩ ∧
    place {} plainQuestion plainScreen turned = some ⟨0, 0, 60, 80⟩ ∧
    IsRegion (some ⟨0, 0, 60, 80⟩)
      (onPicture (spannedAt plainQuestion ((1000 : ℚ) : ℝ) ((1 : ℚ) : ℝ) turned) plainScreen) := by
  have hflaw : Reply.flawOfBoxes [turned] = none := by decide +kernel
  have hs : Is (({} : GroundingSettings ℚ)).scale ((1000 : ℚ) : ℝ) := ⟨rfl, rfl⟩
  have hr : Is plainQuestion.ratio ((1 : ℚ) : ℝ) := ⟨rfl, rfl⟩
  have h0 : 0 < ((1000 : ℚ) : ℝ) := by norm_num
  have h0' : 0 < ((1 : ℚ) : ℝ) := by norm_num
  have hrect : spannedAt plainQuestion ((1000 : ℚ) : ℝ) ((1 : ℚ) : ℝ) turned = ⟨-2, -4, 60, 96⟩ := by
    rw [spannedAt_plain]
    decide +kernel
  have hplaced : place {} plainQuestion plainScreen turned = some ⟨0, 0, 60, 80⟩ := by decide +kernel
  have hregion := (place_isRegion_iff hflaw (List.mem_singleton_self turned) hs hr h0 h0' plainScreen).1
    (by rw [hrect]; exact ⟨by decide, by decide, by decide, by decide⟩)
  rw [hplaced] at hregion
  exact ⟨hflaw, List.mem_singleton_self turned, hs, hr, h0, h0', hrect, hplaced, hregion⟩

/-- **A box from far off is moved onto the picture**, where nothing of it is. -/
theorem place_moved : Reply.flawOfBoxes [farOff] = none ∧
    spannedAt plainQuestion ((1000 : ℚ) : ℝ) ((1 : ℚ) : ℝ) farOff = ⟨4294967310, 8, 4294967360, 24⟩ ∧
    onPicture (spannedAt plainQuestion ((1000 : ℚ) : ℝ) ((1 : ℚ) : ℝ) farOff) plainScreen = ∅ ∧
    place {} plainQuestion plainScreen farOff = some ⟨14, 8, 50, 16⟩ ∧
    ¬ IsRegion (place {} plainQuestion plainScreen farOff)
      (onPicture (spannedAt plainQuestion ((1000 : ℚ) : ℝ) ((1 : ℚ) : ℝ) farOff) plainScreen) := by
  have hrect : spannedAt plainQuestion ((1000 : ℚ) : ℝ) ((1 : ℚ) : ℝ) farOff = ⟨4294967310, 8, 4294967360, 24⟩ := by
    rw [spannedAt_plain]
    decide +kernel
  -- The rectangle begins 2 ^ 32 + 14 pixels from the left, and the picture ends after 100.
  have hempty : onPicture (spannedAt plainQuestion ((1000 : ℚ) : ℝ) ((1 : ℚ) : ℝ) farOff) plainScreen = ∅ := by
    refine Set.eq_empty_of_forall_notMem fun x hx => ?_
    rw [hrect] at hx
    obtain ⟨⟨hleft, -⟩, -, hright, -⟩ := hx
    have hwidth : (Box.ofSize plainScreen.width plainScreen.height).right = 100 := rfl
    rw [hwidth] at hright
    exact absurd (hleft.trans_lt hright) (by decide)
  have hplaced : place {} plainQuestion plainScreen farOff = some ⟨14, 8, 50, 16⟩ := by decide +kernel
  refine ⟨by decide +kernel, hrect, hempty, hplaced, fun hregion => ?_⟩
  rw [hplaced, hempty] at hregion
  exact Option.some_ne_none _ (hregion.2.2 rfl)

end Grounding
end Pinpoint
