import Pinpoint.Proofs.Box.Merge
import Pinpoint.Proofs.Box.Rect
import Pinpoint.Proofs.Zoom.Closeup
/-!
# RoundTrip — boxes through a lens and back

A lens never shrinks, so that a pixel of the whole is at least a pixel wide on the part, and the half pixel lost where an
edge is rounded there is at most half a pixel of the whole: the edge comes back to where it was, ties and negative edges
included (`Lens.toWhole_toPart`).  The other way round a box of the closeup comes back into the part that was cut out,
exactly if its edges can be those of a box there (`Closeup.Cuts.inside_iff_fits`); both hold of every closeup that is cut
out of a picture (`Zoom.lens_round_trip`).
-/
namespace Pinpoint

open Scalar (Is nearest)

variable {α : Type} [Scalar α]

namespace Lens

/-! ## Where the edges go -/

/-- The edges of a box as the part shows them. -/
noncomputable def partRect (s : Lens α) (fx fy : ℝ) (b : Box) : Rect :=
  Rect.ofEdges (fun v => nearest ((v - s.originX : Int) * fx)) (fun v => nearest ((v - s.originY : Int) * fy)) b

/-- The edges of a box of the part on the whole. -/
noncomputable def wholeRect (s : Lens α) (fx fy : ℝ) (b : Box) : Rect :=
  Rect.ofEdges (fun v => nearest (v / fx) + s.originX) (fun v => nearest (v / fy) + s.originY) b

theorem monotone_stretched (o : Int) {f : ℝ} (hf : 0 ≤ f) : Monotone fun v : Int => nearest ((v - o : Int) * f) := by
  intro v v' h
  refine Scalar.nearest_mono (mul_le_mul_of_nonneg_right ?_ hf)
  exact Int.cast_le.2 (Int.sub_le_sub_right h o)

variable [Scalar.Exact α] {s : Lens α} {fx fy : ℝ}

theorem toWhole_eq (hx : Is s.factorX fx) (hy : Is s.factorY fy) (h1x : 1 ≤ fx) (h1y : 1 ≤ fy) (b : Box) :
    s.toWhole b = (s.wholeRect fx fy b).toBox := by
  obtain ⟨⟨hl, hlr, hr⟩, ⟨ht, htb, hb⟩⟩ := b.edges_mem
  unfold toWhole
  dsimp only
  rw [hx.roundInt_div h1x (by omega) (by omega), hy.roundInt_div h1y (by omega) (by omega),
    hx.roundInt_div h1x (by omega) (by omega), hy.roundInt_div h1y (by omega) (by omega)]
  rfl

theorem toPart_eq (hx : Is s.factorX fx) (hy : Is s.factorY fy) (h1x : 1 ≤ fx) (h1y : 1 ≤ fy) {b : Box}
    (hfit : (s.partRect fx fy b).Fits) : s.toPart b = (s.partRect fx fy b).toBox := by
  have hlr := monotone_stretched s.originX (zero_le_one.trans h1x) b.left_le_right
  have htb := monotone_stretched s.originY (zero_le_one.trans h1y) b.top_le_bottom
  obtain ⟨⟨hl, hl'⟩, ⟨ht, ht'⟩, hw, hh⟩ := hfit
  dsimp only [partRect, Rect.ofEdges] at hl hl' ht ht' hw hh hlr htb
  -- The far edges are at most an extent beyond the near ones, and so within 33 bits.
  have hround : ∀ {f : α} {r : ℝ}, Is f r → ∀ v o : Int, -2 ^ 31 ≤ nearest ((v - o : Int) * r) →
      nearest ((v - o : Int) * r) < 2 ^ 33 →
      Scalar.roundInt (Scalar.ofInt (v - o) * f) = nearest ((v - o : Int) * r) := fun hf v o h h' =>
    ((Is.ofInt (v - o)).mul hf).roundInt (by omega) (by omega)
  unfold toPart
  dsimp only
  rw [hround hx _ _ hl (by omega), hround hy _ _ ht (by omega), hround hx _ _ (by omega) (by omega),
    hround hy _ _ (by omega) (by omega)]
  rfl

/-- **A box comes back from the part**, if the part can hold it. -/
theorem toWhole_toPart (hx : Is s.factorX fx) (hy : Is s.factorY fy) (h1x : 1 ≤ fx) (h1y : 1 ≤ fy) {b : Box}
    (hfit : (s.partRect fx fy b).Fits) : s.toWhole (s.toPart b) = b := by
  have hback : ∀ {f : ℝ}, 1 ≤ f → ∀ o v : Int, nearest ((nearest ((v - o : Int) * f) : ℝ) / f) + o = v := by
    intro f hf o v
    rw [Scalar.nearest_nearest_mul_div hf, Int.sub_add_cancel]
  rw [toPart_eq hx hy h1x h1y hfit, toWhole_eq hx hy h1x h1y]
  exact hfit.toBox_ofEdges (monotone_stretched _ (zero_le_one.trans h1x)) (monotone_stretched _ (zero_le_one.trans h1y))
    (hback h1x _) (hback h1y _)

end Lens

/-! ## Closeups -/

namespace Closeup

/-- **A closeup of the part of a picture in a box**: never smaller, and each axis stretched as far as its sizes say. -/
structure Cuts [Scalar.Exact α] (part : Closeup α) (p : Picture) (crop : Box) : Prop where
  isPart    : Box.IsPart p.width p.height crop
  originX   : part.lens.originX = crop.left
  originY   : part.lens.originY = crop.top
  factorX   : Is part.lens.factorX (part.picture.w / crop.width.toNat)
  factorY   : Is part.lens.factorY (part.picture.h / crop.height.toNat)
  width_le  : crop.width.toNat ≤ part.picture.w
  height_le : crop.height.toNat ≤ part.picture.h

/-- Where the edges of a box of the closeup come back to. -/
noncomputable def backRect (part : Closeup α) (crop b : Box) : Rect :=
  part.lens.wholeRect (part.picture.w / crop.width.toNat) (part.picture.h / crop.height.toNat) b

variable [Scalar.Exact α] {part : Closeup α} {p : Picture} {crop b : Box}

theorem Cuts.factors (hc : part.Cuts p crop) :
    (1 : ℝ) ≤ part.picture.w / crop.width.toNat ∧ (1 : ℝ) ≤ part.picture.h / crop.height.toNat := by
  have hlr := hc.isPart.left_lt_right
  have htb := hc.isPart.top_lt_bottom
  unfold Box.right at hlr
  unfold Box.bottom at htb
  constructor
  · rw [one_le_div (Nat.cast_pos.2 (by omega))]
    exact Nat.cast_le.2 hc.width_le
  · rw [one_le_div (Nat.cast_pos.2 (by omega))]
    exact Nat.cast_le.2 hc.height_le

theorem Cuts.toWhole_eq (hc : part.Cuts p crop) (b : Box) : part.lens.toWhole b = (part.backRect crop b).toBox :=
  Lens.toWhole_eq hc.factorX hc.factorY hc.factors.1 hc.factors.2 b

/-- **The edges come back between those of the crop**, and in their order. -/
theorem Cuts.backRect_mem (hc : part.Cuts p crop) (hb : b.Within part.picture.width part.picture.height) :
    (crop.left ≤ (part.backRect crop b).left ∧ (part.backRect crop b).left ≤ (part.backRect crop b).right ∧
      (part.backRect crop b).right ≤ crop.right) ∧
    (crop.top ≤ (part.backRect crop b).top ∧ (part.backRect crop b).top ≤ (part.backRect crop b).bottom ∧
      (part.backRect crop b).bottom ≤ crop.bottom) := by
  obtain ⟨hl, hr, ht, hbt⟩ := hb
  have hlr := b.left_le_right
  have htb := b.top_le_bottom
  dsimp only [backRect, Lens.wholeRect, Rect.ofEdges]
  simp only [nearest_div_ratio, hc.originX, hc.originY]
  have bl := back_mem crop.width.toNat hl (hlr.trans hr)
  have br := back_mem crop.width.toNat (hl.trans hlr) hr
  have bt := back_mem crop.height.toNat ht (htb.trans hbt)
  have bb := back_mem crop.height.toNat (ht.trans htb) hbt
  have horder := back_le_back part.picture.w crop.width.toNat hlr
  have horder' := back_le_back part.picture.h crop.height.toNat htb
  have hcw : crop.right = crop.left + crop.width.toNat := rfl
  have hch : crop.bottom = crop.top + crop.height.toNat := rfl
  unfold Picture.w Picture.h at *
  omega

/-- **A box of the closeup comes back into the crop** exactly if a box can hold its edges there. -/
theorem Cuts.inside_iff_fits (hc : part.Cuts p crop) (hb : b.Within part.picture.width part.picture.height) :
    (part.lens.toWhole b).Inside crop ↔ (part.backRect crop b).Fits := by
  obtain ⟨⟨hl, hlr, hr⟩, ⟨ht, htb, hbt⟩⟩ := hc.backRect_mem hb
  obtain ⟨hcl, hcr, hct, hcb⟩ := hc.isPart.within
  have hw := p.width.toNat_lt
  have hh := p.height.toNat_lt
  rw [hc.toWhole_eq]
  constructor
  · rintro ⟨il, -, it, -⟩
    obtain ⟨el, et, -, -⟩ := (part.backRect crop b).edges_toBox
    rw [el] at il
    rw [et] at it
    -- A near corner that does not fit would come back on the other side of zero, and no crop begins there.
    have hx : (part.backRect crop b).left < 2 ^ 31 := by
      by_contra hx
      exact absurd (Rect.bmod_neg (not_lt.1 hx) (by omega)) (not_lt.2 (hcl.trans il))
    have hy : (part.backRect crop b).top < 2 ^ 31 := by
      by_contra hy
      exact absurd (Rect.bmod_neg (not_lt.1 hy) (by omega)) (not_lt.2 (hct.trans it))
    exact ⟨⟨by omega, hx⟩, ⟨by omega, hy⟩, by omega, by omega⟩
  · intro hfit
    obtain ⟨el, et, er, eb⟩ := hfit.edges_toBox hlr htb
    exact ⟨by omega, by omega, by omega, by omega⟩

theorem Cuts.fits_of_addressable (hc : part.Cuts p crop) (hp : p.Addressable)
    (hb : b.Within part.picture.width part.picture.height) : (part.backRect crop b).Fits := by
  obtain ⟨⟨hl, hlr, hr⟩, ⟨ht, htb, hbt⟩⟩ := hc.backRect_mem hb
  obtain ⟨hcl, hcr, hct, hcb⟩ := hc.isPart.within
  obtain ⟨hw, hh⟩ := hp
  unfold Picture.w at hw
  unfold Picture.h at hh
  exact ⟨⟨by omega, by omega⟩, ⟨by omega, by omega⟩, by omega, by omega⟩

end Closeup

namespace Zoom

variable [Scalar.Exact α]

theorem exists_atLeastOne (f : α) : ∃ r, Is (atLeastOne f) r ∧ 1 ≤ r := by
  unfold atLeastOne
  split
  · rename_i hf
    exact ⟨_, (show Is f (Scalar.Exact.val f) from ⟨hf, rfl⟩).max Is.one, le_max_right _ _⟩
  · exact ⟨1, Is.one, le_rfl⟩

/-- **Whatever is cut out is a closeup of what the region shares with the picture**, whatever the factor. -/
theorem cuts_of_cut {p : Picture} {region : Box} {f : α} {part : Closeup α} (h : cut p region f = .ok part) :
    ∃ crop, region.clip? p.width p.height = some crop ∧ part.Cuts p crop := by
  obtain ⟨crop, hcrop, -, -, hlens, hpw, hph⟩ := cut_eq_ok h
  have hpart := Box.isPart_of_clip? hcrop
  have hlr := hpart.left_lt_right
  have htb := hpart.top_lt_bottom
  unfold Box.right at hlr
  unfold Box.bottom at htb
  obtain ⟨r, hr, h1⟩ := exists_atLeastOne f
  refine ⟨crop, hcrop, hpart, by rw [hlens], by rw [hlens], ?_, ?_, ?_, ?_⟩
  · rw [hlens]
    exact Is.ratio _ (by omega)
  · rw [hlens]
    exact Is.ratio _ (by omega)
  · rw [Picture.w, hpw]
    exact Picture.le_scaledSide hr h1 _
  · rw [Picture.h, hph]
    exact Picture.le_scaledSide hr h1 _

/-- **Through a lens and back.**  A box that is stretched comes back as it was, for all factors from one on and wherever
the origin is, as long as a box can hold the stretched edges.  Whatever is cut out of a picture and enlarged, a box of the
closeup comes back into the part that was cut out, exactly if a box can hold its edges there; so it always does where
every pixel of the picture can be the corner of a box. -/
theorem lens_round_trip :
    (∀ (s : Lens α) (fx fy : ℝ), Is s.factorX fx → Is s.factorY fy → 1 ≤ fx → 1 ≤ fy →
      ∀ b : Box, (s.partRect fx fy b).Fits → s.toWhole (s.toPart b) = b) ∧
    ∀ (p : Picture) (region : Box) (f : α) (part : Closeup α), cut p region f = .ok part →
      ∃ crop, region.clip? p.width p.height = some crop ∧ part.Cuts p crop ∧
        ∀ b : Box, b.Within part.picture.width part.picture.height →
          ((part.lens.toWhole b).Inside crop ↔ (part.backRect crop b).Fits) ∧
          (p.Addressable → (part.lens.toWhole b).Inside crop) := by
  constructor
  · intro s fx fy hx hy h1x h1y b hfit
    exact Lens.toWhole_toPart hx hy h1x h1y hfit
  · intro p region f part h
    obtain ⟨crop, hcrop, hc⟩ := cuts_of_cut h
    refine ⟨crop, hcrop, hc, fun b hb => ⟨hc.inside_iff_fits hb, fun hp => ?_⟩⟩
    exact (hc.inside_iff_fits hb).2 (hc.fits_of_addressable hp hb)

/-! A box that begins left of and above the corner of the lens, on one axis with every edge half way between two pixels;
and a region that reaches beyond a picture on two sides. -/

def wideLens : Lens ℚ := ⟨40, 30, 3 / 2, 237 / 100⟩

def smallScreen : Picture := Picture.ofFn 20 10 .luma fun _ _ _ => 240

theorem lens_round_trip_over_the_corner :
    (Is wideLens.factorX ((3 / 2 : ℚ) : ℝ) ∧ Is wideLens.factorY ((237 / 100 : ℚ) : ℝ) ∧
      1 ≤ ((3 / 2 : ℚ) : ℝ) ∧ 1 ≤ ((237 / 100 : ℚ) : ℝ) ∧
      (wideLens.partRect ((3 / 2 : ℚ) : ℝ) ((237 / 100 : ℚ) : ℝ) ⟨13, 7, 50, 21⟩).Fits ∧
      wideLens.toPart ⟨13, 7, 50, 21⟩ = ⟨-41, -55, 76, 50⟩ ∧
      wideLens.toWhole ⟨-41, -55, 76, 50⟩ = ⟨13, 7, 50, 21⟩) ∧
    ∃ part, cut smallScreen ⟨-2, 3, 7, 20⟩ (7 / 3 : ℚ) = .ok part ∧ part.picture.width = 12 ∧ part.picture.height = 16 ∧
      Box.Within part.picture.width part.picture.height ⟨1, 5, 11, 11⟩ ∧ smallScreen.Addressable ∧
      (part.lens.toWhole ⟨1, 5, 11, 11⟩).Inside ⟨0, 3, 5, 7⟩ := by
  obtain ⟨hthere, hback⟩ := lens_round_trip (α := ℚ)
  constructor
  · have hx : Is wideLens.factorX ((3 / 2 : ℚ) : ℝ) := ⟨rfl, rfl⟩
    have hy : Is wideLens.factorY ((237 / 100 : ℚ) : ℝ) := ⟨rfl, rfl⟩
    have h1x : 1 ≤ ((3 / 2 : ℚ) : ℝ) := by norm_num
    have h1y : 1 ≤ ((237 / 100 : ℚ) : ℝ) := by norm_num
    have hrect : wideLens.partRect ((3 / 2 : ℚ) : ℝ) ((237 / 100 : ℚ) : ℝ) ⟨13, 7, 50, 21⟩ = ⟨-41, -55, 35, -5⟩ := by
      unfold Lens.partRect Rect.ofEdges
      simp only [← Rat.cast_intCast (α := ℝ), ← Rat.cast_mul, Scalar.nearest_ratCast]
      decide +kernel
    have hfit : (wideLens.partRect ((3 / 2 : ℚ) : ℝ) ((237 / 100 : ℚ) : ℝ) ⟨13, 7, 50, 21⟩).Fits := by
      rw [hrect]
      exact ⟨by decide, by decide, by decide, by decide⟩
    have hpart : wideLens.toPart ⟨13, 7, 50, 21⟩ = ⟨-41, -55, 76, 50⟩ := by decide +kernel
    have hwhole := hthere wideLens _ _ hx hy h1x h1y ⟨13, 7, 50, 21⟩ hfit
    rw [hpart] at hwhole
    exact ⟨hx, hy, h1x, h1y, hfit, hpart, hwhole⟩
  · have hclip : Box.clip? ⟨-2, 3, 7, 20⟩ smallScreen.width smallScreen.height = some ⟨0, 3, 5, 7⟩ := by decide +kernel
    have hcut : ∃ part, cut smallScreen ⟨-2, 3, 7, 20⟩ (7 / 3 : ℚ) = .ok part := by
      unfold cut
      rw [hclip]
      exact ⟨_, rfl⟩
    obtain ⟨part, hcut⟩ := hcut
    obtain ⟨crop, hcrop, -, -, -, hw, hh⟩ := cut_eq_ok hcut
    obtain rfl : ⟨0, 3, 5, 7⟩ = crop := Option.some.inj (hclip.symm.trans hcrop)
    have hw : part.picture.width = 12 := hw.trans (by decide +kernel)
    have hh : part.picture.height = 16 := hh.trans (by decide +kernel)
    have hin : Box.Within part.picture.width part.picture.height ⟨1, 5, 11, 11⟩ := by
      rw [hw, hh]
      decide
    have haddr : smallScreen.Addressable := ⟨by decide, by decide⟩
    obtain ⟨_, hcrop', -, hall⟩ := hback _ _ _ _ hcut
    obtain rfl := Option.some.inj (hcrop.symm.trans hcrop')
    exact ⟨part, hcut, hw, hh, hin, haddr, (hall _ hin).2 haddr⟩

end Zoom
end Pinpoint
