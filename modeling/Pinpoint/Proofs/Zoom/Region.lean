import Pinpoint.Proofs.Box.Merge
import Pinpoint.Proofs.Zoom.Closeup
/-!
# Region — the part of a picture around a coarse box

A side of the region holds as many widths of the element as the margin says, but no more than half the picture, and
never less than the coarse box (`side_eq`).  Placing it around the middle of the box and moving it onto the picture
leaves no column of the box out, whichever way a half pixel is rounded: the nearest pixel to a number between two whole
numbers is between them as well (`start_around`).  So the region is a part of the picture that can always be cut out
(`extend_around`).
-/
namespace Pinpoint
namespace Zoom

open Scalar (Is nearest)

variable {α : Type} [Scalar α] [Scalar.Exact α] {margin : α} {r : ℝ} {coarse : Box} {w h : UInt32}

/-! ## How large -/

/-- The width of the element as growth takes it: that of its picture, or of the coarse box, and at least one pixel. -/
def elementWidth (coarse : Box) (reference : Option (UInt32 × UInt32)) : Nat :=
  max ((reference.map (·.1.toNat)).getD coarse.width.toNat) 1

theorem is_growth (hm : Is margin r) (coarse : Box) (hw : coarse.width.toNat ≠ 0) (reference : Option (UInt32 × UInt32)) :
    Is (growth margin coarse reference) (elementWidth coarse reference * r / coarse.width.toNat) := by
  have hown : max coarse.width.toNat 1 = coarse.width.toNat := by omega
  unfold growth elementWidth
  dsimp only
  rw [hown]
  exact ((Is.ofNat _).mul hm).div (Is.ofNat _) (Nat.cast_ne_zero.2 hw)

theorem nearest_half_le (n : Nat) : nearest ((n : ℝ) / 2) ≤ n :=
  Scalar.nearest_le (by rw [Int.cast_natCast]; exact half_le_self (Nat.cast_nonneg _))

/-- **A side of the region**: grown, up to half the picture, and never less than the side of the box. -/
theorem side_eq {g : α} (hg : Is g r) {own whole : UInt32} (h : own.toNat ≤ whole.toNat) :
    side g own whole =
      max (own.toNat : Int) (min (nearest (own.toNat * r)) (nearest ((whole.toNat : ℝ) / 2))) := by
  have hown : Is (Scalar.ofNat own.toNat : α) own.toNat := Is.ofNat _
  have hwhole : Is (Scalar.ofNat whole.toNat : α) whole.toNat := Is.ofNat _
  have hgrown : Is (if Scalar.ofInt 1 < g then Scalar.ofNat own.toNat * g else Scalar.ofNat own.toNat)
      (max (own.toNat : ℝ) (own.toNat * r)) := by
    split
    · rename_i hlt
      have hle := le_mul_of_one_le_right (Nat.cast_nonneg (α := ℝ) own.toNat) ((Is.one.lt hg).1 hlt).le
      rw [max_eq_right hle]
      exact hown.mul hg
    · rename_i hlt
      have hle := mul_le_of_le_one_right (Nat.cast_nonneg (α := ℝ) own.toNat) (not_lt.1 ((Is.one.lt hg).not.1 hlt))
      rwa [max_eq_left hle]
  have hside := (hgrown.min ((hwhole.div Is.two two_ne_zero).max hown)).min hwhole
  have hhalf := nearest_half_le whole.toNat
  have hbound := whole.toNat_lt
  rw [side, hside.roundInt] <;>
    rw [Scalar.nearest_min, Scalar.nearest_min, Scalar.nearest_max, Scalar.nearest_max, Scalar.nearest_natCast,
      Scalar.nearest_natCast] <;>
    omega

theorem side_mem {g : α} (hg : Is g r) (own whole : UInt32) (h : own.toNat ≤ whole.toNat) :
    (own.toNat : Int) ≤ side g own whole ∧ side g own whole ≤ whole.toNat := by
  have hhalf := nearest_half_le whole.toNat
  rw [side_eq hg h]
  omega

/-! ## Where -/

/-- **A side placed around the middle of a shorter one holds it**, and stays on the picture. -/
theorem start_around {c : α} {lo len n : Int} {whole : UInt32} (hc : Is c (lo + len / 2)) (hlo : 0 ≤ lo)
    (hpos : 0 ≤ len) (hlen : len ≤ n) (hfit : lo + len ≤ whole.toNat) (hn : n ≤ whole.toNat) :
    0 ≤ start c n whole ∧ start c n whole ≤ lo ∧ lo + len ≤ start c n whole + n ∧
      start c n whole + n ≤ whole.toNat := by
  have hmiddle := hc.sub ((Is.ofInt n).div Is.two two_ne_zero)
  have hlen' : (len : ℝ) ≤ n := Int.cast_le.2 hlen
  have hle : nearest ((lo : ℝ) + len / 2 - n / 2) ≤ lo := Scalar.nearest_le (by linarith)
  have hge : lo + len - n ≤ nearest ((lo : ℝ) + len / 2 - n / 2) :=
    Scalar.le_nearest (by push_cast; linarith)
  have hbound := whole.toNat_lt
  rw [start, hmiddle.roundInt (by omega) (by omega)]
  omega

/-- Sides that hold a part, and stay on the picture, are those of a part that holds it. -/
theorem around {x y n m : Int} (hc : Box.IsPart w h coarse)
    (hx : 0 ≤ x ∧ x ≤ coarse.left ∧ coarse.right ≤ x + n ∧ x + n ≤ w.toNat)
    (hy : 0 ≤ y ∧ y ≤ coarse.top ∧ coarse.bottom ≤ y + m ∧ y + m ≤ h.toNat) :
    Box.IsPart w h (Box.ofCorners x y (x + n) (y + m)) ∧ coarse.Inside (Box.ofCorners x y (x + n) (y + m)) ∧
      ((Box.ofCorners x y (x + n) (y + m)).width.toNat : Int) = n ∧
      ((Box.ofCorners x y (x + n) (y + m)).height.toNat : Int) = m := by
  have hlr := hc.left_lt_right
  have htb := hc.top_lt_bottom
  have hleft := coarse.left_lt
  have htop := coarse.top_lt
  have hwb := w.toNat_lt
  have hhb := h.toNat_lt
  obtain ⟨el, et, er, eb⟩ := Box.edges_ofCorners x y (x + n) (y + m) (by omega) (by omega) (by omega) (by omega)
  refine ⟨Box.isPart_ofCorners hx.1 (by omega) hy.1 (by omega) (by omega) (by omega) hx.2.2.2 hy.2.2.2,
    ⟨by omega, by omega, by omega, by omega⟩, ?_, ?_⟩
  · unfold Box.right at er
    omega
  · unfold Box.bottom at eb
    omega

theorem eq_of_inside {region : Box} (hin : coarse.Inside region) (hw : region.width.toNat ≤ coarse.width.toNat)
    (hh : region.height.toNat ≤ coarse.height.toNat) : region = coarse := by
  obtain ⟨hl, hr, ht, hb⟩ := hin
  unfold Box.right at hr
  unfold Box.bottom at hb
  refine Box.ext_edges (by omega) (by omega) ?_ ?_
  · unfold Box.right
    omega
  · unfold Box.bottom
    omega

/-- **The region is a part of the picture around the coarse box**, with the sides it should have. -/
theorem extend_spans (hm : Is margin r) (hc : Box.IsPart w h coarse) (reference : Option (UInt32 × UInt32)) :
    Box.IsPart w h (extend margin coarse reference w h) ∧ coarse.Inside (extend margin coarse reference w h) ∧
      ((extend margin coarse reference w h).width.toNat : Int) = side (growth margin coarse reference) coarse.width w ∧
      ((extend margin coarse reference w h).height.toNat : Int) =
        side (growth margin coarse reference) coarse.height h := by
  obtain ⟨hl, hr, ht, hb⟩ := hc.within
  have hlr := hc.left_lt_right
  unfold Box.right at hr hlr
  unfold Box.bottom at hb
  have hg := is_growth hm coarse (by omega) reference
  obtain ⟨hw, hw'⟩ := side_mem hg coarse.width w (by omega)
  obtain ⟨hh, hh'⟩ := side_mem hg coarse.height h (by omega)
  have hcx : Is (coarse.center (α := α)).1 (coarse.left + ((coarse.width.toNat : Int) : ℝ) / 2) :=
    (Is.ofInt _).add ((Is.ofInt _).div Is.two two_ne_zero)
  have hcy : Is (coarse.center (α := α)).2 (coarse.top + ((coarse.height.toNat : Int) : ℝ) / 2) :=
    (Is.ofInt _).add ((Is.ofInt _).div Is.two two_ne_zero)
  have hspans := around hc (start_around hcx hl (Int.natCast_nonneg _) hw hr hw')
    (start_around hcy ht (Int.natCast_nonneg _) hh hb hh')
  unfold extend
  dsimp only
  rw [Box.clip?_getD hspans.1.within]
  exact hspans

/-- **A region around a coarse box**, as large as the element asks for: it is a part of the picture that holds the box,
each side is the grown one held to half the picture and never less than the box's own, it is the box itself where the
element leaves no more room than that, and cutting it out of any picture of that size succeeds. -/
theorem extend_around (hm : Is margin r) (hc : Box.IsPart w h coarse) (reference : Option (UInt32 × UInt32)) :
    Box.IsPart w h (extend margin coarse reference w h) ∧ coarse.Inside (extend margin coarse reference w h) ∧
      ((extend margin coarse reference w h).width.toNat : Int) =
        max (coarse.width.toNat : Int) (min (nearest (elementWidth coarse reference * r)) (nearest ((w.toNat : ℝ) / 2))) ∧
      ((extend margin coarse reference w h).height.toNat : Int) =
        max (coarse.height.toNat : Int)
          (min (nearest (coarse.height.toNat * (elementWidth coarse reference * r / coarse.width.toNat)))
            (nearest ((h.toNat : ℝ) / 2))) ∧
      ((extend margin coarse reference w h).width.toNat : Int) ≤
        max (coarse.width.toNat : Int) (nearest ((w.toNat : ℝ) / 2)) ∧
      ((extend margin coarse reference w h).height.toNat : Int) ≤
        max (coarse.height.toNat : Int) (nearest ((h.toNat : ℝ) / 2)) ∧
      (elementWidth coarse reference * r ≤ coarse.width.toNat → extend margin coarse reference w h = coarse) ∧
      ∀ p : Picture, p.width = w → p.height = h → ∀ factor : α,
        ∃ part, cut p (extend margin coarse reference w h) factor = .ok part := by
  obtain ⟨hpart, hin, hwidth, hheight⟩ := extend_spans hm hc reference
  obtain ⟨hl, hr, ht, hb⟩ := hc.within
  have hlr := hc.left_lt_right
  unfold Box.right at hr hlr
  unfold Box.bottom at hb
  have hpos : (0 : ℝ) < coarse.width.toNat := Nat.cast_pos.2 (by omega)
  have hg := is_growth hm coarse (by omega) reference
  rw [side_eq hg (by omega), mul_div_cancel₀ _ hpos.ne'] at hwidth
  rw [side_eq hg (by omega)] at hheight
  refine ⟨hpart, hin, hwidth, hheight, by omega, by omega, fun hsmall => ?_, ?_⟩
  · have hgrown : nearest ((elementWidth coarse reference : ℝ) * r) ≤ coarse.width.toNat :=
      Scalar.nearest_le (by rwa [Int.cast_natCast])
    have hkept : nearest (coarse.height.toNat * (elementWidth coarse reference * r / coarse.width.toNat)) ≤
        coarse.height.toNat := by
      refine Scalar.nearest_le ?_
      rw [Int.cast_natCast]
      exact mul_le_of_le_one_right (Nat.cast_nonneg _) ((div_le_one hpos).2 hsmall)
    exact eq_of_inside hin (by omega) (by omega)
  · rintro p rfl rfl factor
    unfold cut
    rw [hpart.clip?]
    exact ⟨_, rfl⟩

/-- On a wide picture a tight box grows to four widths of the element, and a wide one stays as it is. -/
theorem extend_around_button :
    Is (4 : ℚ) 4 ∧ Box.IsPart 1920 1080 ⟨500, 300, 40, 20⟩ ∧ Box.IsPart 1920 1080 ⟨100, 100, 400, 100⟩ ∧
      extend (4 : ℚ) ⟨500, 300, 40, 20⟩ (some (40, 20)) 1920 1080 = ⟨440, 270, 160, 80⟩ ∧
      Box.IsPart 1920 1080 ⟨440, 270, 160, 80⟩ ∧ Box.Inside ⟨500, 300, 40, 20⟩ ⟨440, 270, 160, 80⟩ ∧
      (160 : Int) ≤ max 40 (nearest ((1920 : ℝ) / 2)) ∧ (80 : Int) ≤ max 20 (nearest ((1080 : ℝ) / 2)) ∧
      (elementWidth ⟨100, 100, 400, 100⟩ (some (40, 20)) * 4 : ℝ) ≤ (400 : Nat) ∧
      extend (4 : ℚ) ⟨100, 100, 400, 100⟩ (some (40, 20)) 1920 1080 = ⟨100, 100, 400, 100⟩ := by
  have hm : Is (4 : ℚ) 4 := ⟨rfl, by norm_num [Scalar.Exact.val]⟩
  have hc : Box.IsPart 1920 1080 ⟨500, 300, 40, 20⟩ := ⟨by decide, by decide⟩
  have hwide : Box.IsPart 1920 1080 ⟨100, 100, 400, 100⟩ := ⟨by decide, by decide⟩
  have hsmall : (elementWidth ⟨100, 100, 400, 100⟩ (some (40, 20)) * 4 : ℝ) ≤ (400 : Nat) := by
    have : elementWidth ⟨100, 100, 400, 100⟩ (some (40, 20)) = 40 := by decide
    rw [this]
    norm_num
  have hgrown : extend (4 : ℚ) ⟨500, 300, 40, 20⟩ (some (40, 20)) 1920 1080 = ⟨440, 270, 160, 80⟩ := by
    decide +kernel
  obtain ⟨hpart, hin, -, -, hw, hh, -⟩ := extend_around hm hc (some (40, 20))
  rw [hgrown] at hpart hin hw hh
  exact ⟨hm, hc, hwide, hgrown, hpart, hin, hw, hh, hsmall,
    (extend_around hm hwide (some (40, 20))).2.2.2.2.2.2.1 hsmall⟩

/-- An element without width counts as one pixel wide, so that a box narrower than the margin grows all the same. -/
theorem extend_of_no_width : Box.IsPart 100 100 ⟨10, 10, 1, 1⟩ ∧
    ((0 : UInt32).toNat : ℚ) * 4 ≤ (1 : UInt32).toNat ∧
    extend (4 : ℚ) ⟨10, 10, 1, 1⟩ (some (0, 0)) 100 100 = ⟨9, 9, 4, 4⟩ ∧
    extend (4 : ℚ) ⟨10, 10, 1, 1⟩ (some (0, 0)) 100 100 ≠ ⟨10, 10, 1, 1⟩ := by
  have hgrown : extend (4 : ℚ) ⟨10, 10, 1, 1⟩ (some (0, 0)) 100 100 = ⟨9, 9, 4, 4⟩ := by decide +kernel
  refine ⟨⟨by decide, by decide⟩, by decide +kernel, hgrown, ?_⟩
  rw [hgrown]
  decide

end Zoom
end Pinpoint
