import Pinpoint.Proofs.Picture.Sizes
import Pinpoint.Proofs.Scalar.Roots
/-!
# Ceilings — pictures that have to be made smaller

Were sides real numbers, the picture that is shrunk by `shrinkage` would pass neither ceiling: the linear ratio holds both
sides, the root holds their product.  Rounding a side to the nearest pixel keeps it below the longest side, which is a
whole number, and keeps no product: two sides that are both rounded up are up to half a row and half a column too many
(`fit_conforms_iff`), and a side that is kept at one pixel leaves the other as long as it was going to be.
-/
namespace Pinpoint
namespace Picture

open Scalar (Is nearest)

/-- **Neither ceiling is passed**; zero is no ceiling. -/
def Respects (p : Picture) (maxSide maxPixels : Nat) : Prop :=
  (maxSide = 0 ∨ max p.w p.h ≤ maxSide) ∧ (maxPixels = 0 ∨ p.w * p.h ≤ maxPixels)

/-! ## How far a picture has to shrink -/

/-- The ratio that makes the longest side as long as it may be. -/
noncomputable def bySide (p : Picture) (maxSide : Nat) : ℝ := if maxSide = 0 then 1 else maxSide / (max p.w p.h : Nat)

/-- The ratio that leaves as many pixels as there may be. -/
noncomputable def byPixels (p : Picture) (maxPixels : Nat) : ℝ :=
  if maxPixels = 0 then 1 else Real.sqrt (maxPixels / (p.w * p.h))

/-- **The largest ratio up to one that respects both ceilings**, but for rounding. -/
noncomputable def shrinkage (p : Picture) (maxSide maxPixels : Nat) : ℝ :=
  min (min 1 (p.bySide maxSide)) (p.byPixels maxPixels)

section
variable {p : Picture} {maxSide maxPixels : Nat}

theorem shrinkage_le_one : p.shrinkage maxSide maxPixels ≤ 1 := (min_le_left _ _).trans (min_le_left _ _)

theorem shrinkage_nonneg : 0 ≤ p.shrinkage maxSide maxPixels := by
  unfold shrinkage bySide byPixels
  refine le_min (le_min zero_le_one ?_) ?_ <;> split <;> positivity

theorem mul_shrinkage_nonneg (n : Nat) : 0 ≤ n * p.shrinkage maxSide maxPixels :=
  mul_nonneg (Nat.cast_nonneg n) shrinkage_nonneg

theorem one_le_bySide_iff (hw : 0 < p.w) : 1 ≤ p.bySide maxSide ↔ maxSide = 0 ∨ max p.w p.h ≤ maxSide := by
  have hlongest : 0 < ((max p.w p.h : Nat) : ℝ) := Nat.cast_pos.2 (by omega)
  unfold bySide
  split
  · rename_i h0
    exact iff_of_true le_rfl (.inl h0)
  · rename_i h0
    rw [one_le_div hlongest, Nat.cast_le, or_iff_right h0]

theorem one_le_byPixels_iff (hw : 0 < p.w) (hh : 0 < p.h) :
    1 ≤ p.byPixels maxPixels ↔ maxPixels = 0 ∨ p.w * p.h ≤ maxPixels := by
  have harea : 0 < ((p.w * p.h : Nat) : ℝ) := Nat.cast_pos.2 (Nat.mul_pos hw hh)
  unfold byPixels
  split
  · rename_i h0
    exact iff_of_true le_rfl (.inl h0)
  · rename_i h0
    rw [Real.one_le_sqrt, ← Nat.cast_mul, one_le_div harea, Nat.cast_le, or_iff_right h0]

theorem one_le_shrinkage_iff (hw : 0 < p.w) (hh : 0 < p.h) :
    1 ≤ p.shrinkage maxSide maxPixels ↔ p.Respects maxSide maxPixels := by
  unfold shrinkage
  rw [le_min_iff, le_min_iff, one_le_bySide_iff hw, one_le_byPixels_iff hw hh]
  exact and_congr_left' (and_iff_right le_rfl)

theorem mul_shrinkage_le (h0 : maxSide ≠ 0) {n : Nat} (hn : 0 < n) (hle : n ≤ max p.w p.h) :
    n * p.shrinkage maxSide maxPixels ≤ maxSide := by
  have hlongest : 0 < ((max p.w p.h : Nat) : ℝ) := Nat.cast_pos.2 (by omega)
  have hratio : p.shrinkage maxSide maxPixels ≤ p.bySide maxSide := (min_le_left _ _).trans (min_le_right _ _)
  calc n * p.shrinkage maxSide maxPixels
      ≤ (max p.w p.h : Nat) * p.bySide maxSide := mul_le_mul (Nat.cast_le.2 hle) hratio shrinkage_nonneg hlongest.le
    _ = maxSide := by rw [bySide, if_neg h0, mul_div_cancel₀ _ hlongest.ne']

/-- The two sides together hold no more pixels than there may be. -/
theorem mul_shrinkage_mul_le (hw : 0 < p.w) (hh : 0 < p.h) (h0 : maxPixels ≠ 0) :
    p.w * p.shrinkage maxSide maxPixels * (p.h * p.shrinkage maxSide maxPixels) ≤ maxPixels := by
  have harea : 0 < (p.w * p.h : ℝ) := mul_pos (Nat.cast_pos.2 hw) (Nat.cast_pos.2 hh)
  have hratio : p.shrinkage maxSide maxPixels ≤ p.byPixels maxPixels := min_le_right _ _
  rw [byPixels, if_neg h0, Real.le_sqrt shrinkage_nonneg (by positivity), le_div_iff₀ harea] at hratio
  calc p.w * p.shrinkage maxSide maxPixels * (p.h * p.shrinkage maxSide maxPixels)
      = p.shrinkage maxSide maxPixels ^ 2 * (p.w * p.h) := by ring
    _ ≤ maxPixels := hratio

end

variable {α : Type} [Scalar α]

theorem is_fitRatio [Scalar.Exact α] [Scalar.ExactRoots α] {p : Picture} (hw : 0 < p.w) (hh : 0 < p.h)
    (maxSide maxPixels : Nat) : Is (fitRatio p.w p.h maxSide maxPixels : α) (p.shrinkage maxSide maxPixels) := by
  -- A ceiling that is not passed is left out, and its ratio would be at least one: no minimum changes.
  have hlongest : ((max p.w p.h : Nat) : ℝ) ≠ 0 := Nat.cast_ne_zero.2 (by omega)
  have harea : Is (Scalar.ofNat p.w * Scalar.ofNat p.h : α) (p.w * p.h) := (Is.ofNat p.w).mul (Is.ofNat p.h)
  have harea0 : (0 : ℝ) < p.w * p.h := mul_pos (Nat.cast_pos.2 hw) (Nat.cast_pos.2 hh)
  have hside : Is (if 0 < maxSide ∧ maxSide < max p.w p.h then
      Scalar.min (Scalar.ofInt 1) (Scalar.ofNat maxSide / Scalar.ofNat (max p.w p.h)) else (Scalar.ofInt 1 : α))
      (min 1 (p.bySide maxSide)) := by
    refine Is.one.ite_min (fun hc => ?_) fun hc => (one_le_bySide_iff hw).2 (by omega)
    rw [bySide, if_neg hc.1.ne']
    exact (Is.ofNat maxSide).div (Is.ofNat _) hlongest
  refine hside.ite_min (fun hc => ?_) fun hc => ?_
  · rw [byPixels, if_neg hc.1.ne']
    exact Scalar.ExactRoots.sqrt ((Is.ofNat maxPixels).div harea harea0.ne') (by positivity)
  · rw [(Is.ofNat maxPixels).lt harea, ← Nat.cast_mul, Nat.cast_lt] at hc
    exact (min_le_left _ _).trans ((one_le_byPixels_iff hw hh).2 (by omega))

/-! ## How long a side comes out -/

/-- **A side in whole pixels**: the nearest number of them, and one where that is none. -/
noncomputable def shrunk (n : Nat) (r : ℝ) : Nat := max 1 (nearest (n * r)).toNat

theorem one_le_shrunk (n : Nat) (r : ℝ) : 1 ≤ shrunk n r := le_max_left _ _

theorem shrunk_one {n : Nat} (hn : 0 < n) : shrunk n 1 = n := by
  rw [shrunk, mul_one, Scalar.nearest_natCast]
  omega

theorem shrunk_le {n limit : Nat} {r : ℝ} (hl : 0 < limit) (h : n * r ≤ limit) : shrunk n r ≤ limit := by
  have hle : nearest (n * r) ≤ limit := Scalar.nearest_le (by rwa [Int.cast_natCast])
  unfold shrunk
  omega

/-- A side of half a pixel and more is rounded up by at most half a pixel. -/
theorem shrunk_sub_half_le {n : Nat} {r : ℝ} (h : 1 / 2 ≤ n * r) : (shrunk n r : ℝ) - 1 / 2 ≤ n * r := by
  -- Only from half a pixel on is it the rounding that decides, and not the one pixel that is always left.
  have hone : 1 ≤ nearest (n * r) := by
    rw [Scalar.nearest_of_nonneg (by linarith)]
    exact Int.le_floor.2 (by push_cast; linarith)
  have hcast : ((shrunk n r : Nat) : ℝ) = (nearest (n * r) : Int) := by
    rw [← Int.cast_natCast, shrunk]
    congr 1
    omega
  rw [hcast]
  linarith [(abs_le.1 (Scalar.abs_nearest_sub_le (n * r))).2]

/-- How long a side is on the picture that is sent. -/
def sentSide (ratio : α) (n : UInt32) : UInt32 := if Scalar.ofInt 1 ≤ ratio then n else scaledSide n ratio

theorem sentSide_pos (ratio : α) {n : UInt32} (hn : 0 < n.toNat) : 0 < (sentSide ratio n).toNat := by
  unfold sentSide
  split
  · exact hn
  · rw [toNat_scaledSide]
    omega

theorem width_fit (p : Picture) (maxSide maxPixels : Nat) :
    (p.fit maxSide maxPixels : Fitted α).picture.width =
      sentSide (fitRatio p.w p.h maxSide maxPixels : α) p.width := by
  unfold fit sentSide
  dsimp only
  split
  · rfl
  · exact width_resize ..

theorem height_fit (p : Picture) (maxSide maxPixels : Nat) :
    (p.fit maxSide maxPixels : Fitted α).picture.height =
      sentSide (fitRatio p.w p.h maxSide maxPixels : α) p.height := by
  unfold fit sentSide
  dsimp only
  split
  · rfl
  · exact height_resize ..

theorem fitRatio_of_respects [Scalar.Exact α] {p : Picture} {maxSide maxPixels : Nat}
    (h : p.Respects maxSide maxPixels) : (fitRatio p.w p.h maxSide maxPixels : α) = Scalar.ofInt 1 := by
  obtain ⟨hside, hpixels⟩ := h
  unfold fitRatio
  dsimp only
  rw [if_neg, if_neg]
  · omega
  · rintro ⟨hpos, hlt⟩
    rw [(Scalar.Is.ofNat maxPixels).lt ((Scalar.Is.ofNat p.w).mul (Scalar.Is.ofNat p.h)), ← Nat.cast_mul,
      Nat.cast_lt] at hlt
    omega

theorem sentSide_of_respects [Scalar.Exact α] {p : Picture} {maxSide maxPixels : Nat}
    (h : p.Respects maxSide maxPixels) (n : UInt32) : sentSide (fitRatio p.w p.h maxSide maxPixels : α) n = n := by
  have hone : Scalar.ofInt 1 ≤ (Scalar.ofInt 1 : α) := ((Scalar.Is.ofInt 1).le (Scalar.Is.ofInt 1)).2 le_rfl
  rw [sentSide, fitRatio_of_respects h, if_pos hone]

theorem toNat_sentSide [Scalar.Exact α] {f : α} {r : ℝ} (hf : Is f r) (h0 : 0 ≤ r) (h1 : r ≤ 1) {n : UInt32}
    (hn : 0 < n.toNat) : (sentSide f n).toNat = shrunk n.toNat r := by
  have hlt := n.toNat_lt
  unfold sentSide
  split
  · rename_i hle
    rw [Is.one.le hf] at hle
    rw [le_antisymm h1 hle, shrunk_one hn]
  · have hlo : 0 ≤ nearest (n.toNat * r) := Scalar.le_nearest (by rw [Int.cast_zero]; positivity)
    have hhi : nearest (n.toNat * r) ≤ n.toNat :=
      Scalar.nearest_le (by rw [Int.cast_natCast]; exact mul_le_of_le_one_right (Nat.cast_nonneg _) h1)
    rw [toNat_scaledSide, ((Is.ofNat n.toNat).mul hf).roundUInt32 hlo (by omega), shrunk, max_comm]

/-! ## What is sent -/

/-- **A picture as it should come out**: neither ceiling is passed, and what passed neither is left as it was. -/
def Conforms (p : Picture) (maxSide maxPixels : Nat) (f : Fitted α) : Prop :=
  f.picture.Respects maxSide maxPixels ∧ (p.Respects maxSide maxPixels → f = ⟨p, Scalar.ofInt 1, true⟩)

theorem fit_of_respects [Scalar.Exact α] {p : Picture} {maxSide maxPixels : Nat} (h : p.Respects maxSide maxPixels) :
    (p.fit maxSide maxPixels : Fitted α) = ⟨p, Scalar.ofInt 1, true⟩ := by
  have hone : Scalar.ofInt 1 ≤ (Scalar.ofInt 1 : α) := (Is.one.le Is.one).2 le_rfl
  unfold fit
  dsimp only
  rw [fitRatio_of_respects h, if_pos hone]

section
variable [Scalar.Exact α] [Scalar.ExactRoots α] {p : Picture}

theorem w_fit (hp : p.isEmpty = false) (maxSide maxPixels : Nat) :
    (p.fit maxSide maxPixels : Fitted α).picture.w = shrunk p.w (p.shrinkage maxSide maxPixels) := by
  obtain ⟨hw, hh⟩ := isEmpty_eq_false_iff.1 hp
  rw [w, width_fit]
  exact toNat_sentSide (is_fitRatio hw hh _ _) shrinkage_nonneg shrinkage_le_one hw

theorem h_fit (hp : p.isEmpty = false) (maxSide maxPixels : Nat) :
    (p.fit maxSide maxPixels : Fitted α).picture.h = shrunk p.h (p.shrinkage maxSide maxPixels) := by
  obtain ⟨hw, hh⟩ := isEmpty_eq_false_iff.1 hp
  rw [h, height_fit]
  exact toNat_sentSide (is_fitRatio hw hh _ _) shrinkage_nonneg shrinkage_le_one hh

theorem max_fit_le (hp : p.isEmpty = false) (maxSide maxPixels : Nat) (h0 : maxSide ≠ 0) :
    max (p.fit maxSide maxPixels : Fitted α).picture.w (p.fit maxSide maxPixels : Fitted α).picture.h ≤ maxSide := by
  obtain ⟨hw, hh⟩ := isEmpty_eq_false_iff.1 hp
  have hpos := Nat.pos_of_ne_zero h0
  rw [w_fit hp, h_fit hp]
  exact max_le (shrunk_le hpos (mul_shrinkage_le h0 hw (le_max_left _ _)))
    (shrunk_le hpos (mul_shrinkage_le h0 hh (le_max_right _ _)))

theorem same_fit_iff (hp : p.isEmpty = false) (maxSide maxPixels : Nat) :
    (p.fit maxSide maxPixels : Fitted α).same = true ↔ p.Respects maxSide maxPixels := by
  obtain ⟨hw, hh⟩ := isEmpty_eq_false_iff.1 hp
  have hratio := Is.one.le (is_fitRatio (α := α) hw hh maxSide maxPixels)
  rw [one_le_shrinkage_iff hw hh] at hratio
  unfold fit
  dsimp only
  split
  · rename_i hle
    exact iff_of_true rfl (hratio.1 hle)
  · rename_i hlt
    exact iff_of_false Bool.false_ne_true fun hle => hlt (hratio.2 hle)

theorem conforms_fit_iff (hp : p.isEmpty = false) (maxSide maxPixels : Nat) :
    Conforms p maxSide maxPixels (p.fit maxSide maxPixels : Fitted α) ↔
      maxPixels = 0 ∨
        shrunk p.w (p.shrinkage maxSide maxPixels) * shrunk p.h (p.shrinkage maxSide maxPixels) ≤ maxPixels := by
  have hside := or_iff_not_imp_left.2 (max_fit_le (α := α) hp maxSide maxPixels)
  unfold Conforms
  rw [and_iff_left fit_of_respects, Respects, and_iff_right hside, w_fit hp, h_fit hp]

theorem conforms_fit_of_le (hp : p.isEmpty = false) {maxSide maxPixels : Nat}
    (hx : (shrunk p.w (p.shrinkage maxSide maxPixels) : ℝ) ≤ p.w * p.shrinkage maxSide maxPixels)
    (hy : (shrunk p.h (p.shrinkage maxSide maxPixels) : ℝ) ≤ p.h * p.shrinkage maxSide maxPixels) :
    Conforms p maxSide maxPixels (p.fit maxSide maxPixels : Fitted α) := by
  obtain ⟨hw, hh⟩ := isEmpty_eq_false_iff.1 hp
  refine (conforms_fit_iff hp maxSide maxPixels).2 (or_iff_not_imp_left.2 fun h0 => ?_)
  have hprod := (mul_le_mul hx hy (Nat.cast_nonneg _) (mul_shrinkage_nonneg _)).trans (mul_shrinkage_mul_le hw hh h0)
  exact_mod_cast hprod

/-- Half a row and half a column are what rounding adds at most. -/
theorem sub_half_mul_sub_half_le (hp : p.isEmpty = false) {maxSide maxPixels : Nat} (h0 : maxPixels ≠ 0)
    (hx : 1 / 2 ≤ p.w * p.shrinkage maxSide maxPixels) (hy : 1 / 2 ≤ p.h * p.shrinkage maxSide maxPixels) :
    ((p.fit maxSide maxPixels : Fitted α).picture.w - 1 / 2 : ℝ) *
      ((p.fit maxSide maxPixels : Fitted α).picture.h - 1 / 2) ≤ maxPixels := by
  obtain ⟨hw, hh⟩ := isEmpty_eq_false_iff.1 hp
  have hone : (1 : ℝ) ≤ shrunk p.h (p.shrinkage maxSide maxPixels) := by exact_mod_cast one_le_shrunk _ _
  rw [w_fit hp, h_fit hp]
  exact (mul_le_mul (shrunk_sub_half_le hx) (shrunk_sub_half_le hy) (by linarith) (by linarith)).trans
    (mul_shrinkage_mul_le hw hh h0)

/-- **A picture made small enough.**  What respects both ceilings is sent as it is, and only that.  The longest side is
always respected, and the number of pixels exactly if the rounded sides respect it: so it is if neither side is rounded
up, and if neither was below half a pixel it is passed by less than half a row and half a column. -/
theorem fit_conforms_iff (hp : p.isEmpty = false) (maxSide maxPixels : Nat) :
    ((p.fit maxSide maxPixels : Fitted α).same = true ↔ p.Respects maxSide maxPixels) ∧
    (p.Respects maxSide maxPixels → (p.fit maxSide maxPixels : Fitted α) = ⟨p, Scalar.ofInt 1, true⟩) ∧
    (maxSide ≠ 0 →
      max (p.fit maxSide maxPixels : Fitted α).picture.w (p.fit maxSide maxPixels : Fitted α).picture.h ≤ maxSide) ∧
    (Conforms p maxSide maxPixels (p.fit maxSide maxPixels : Fitted α) ↔
      maxPixels = 0 ∨
        shrunk p.w (p.shrinkage maxSide maxPixels) * shrunk p.h (p.shrinkage maxSide maxPixels) ≤ maxPixels) ∧
    ((shrunk p.w (p.shrinkage maxSide maxPixels) : ℝ) ≤ p.w * p.shrinkage maxSide maxPixels →
      (shrunk p.h (p.shrinkage maxSide maxPixels) : ℝ) ≤ p.h * p.shrinkage maxSide maxPixels →
      Conforms p maxSide maxPixels (p.fit maxSide maxPixels : Fitted α)) ∧
    (maxPixels ≠ 0 → 1 / 2 ≤ p.w * p.shrinkage maxSide maxPixels → 1 / 2 ≤ p.h * p.shrinkage maxSide maxPixels →
      ((p.fit maxSide maxPixels : Fitted α).picture.w - 1 / 2 : ℝ) *
        ((p.fit maxSide maxPixels : Fitted α).picture.h - 1 / 2) ≤ maxPixels) :=
  ⟨same_fit_iff hp maxSide maxPixels, fit_of_respects, max_fit_le hp maxSide maxPixels,
    conforms_fit_iff hp maxSide maxPixels, conforms_fit_of_le hp, sub_half_mul_sub_half_le hp⟩

end

/-! Two pictures with a ceiling on their pixels whose root is rational: one whose sides come out whole, and one whose sides
are both rounded up, from 3.75 to 4 and from 6.67 to 7. -/

def even : Picture := Picture.ofFn 8 18 .luma fun _ _ _ => 240

def tall : Picture := Picture.ofFn 9 16 .luma fun _ _ _ => 240

theorem sides_even : even.w = 8 ∧ even.h = 18 := ⟨rfl, rfl⟩

theorem sides_tall : tall.w = 9 ∧ tall.h = 16 := ⟨rfl, rfl⟩

theorem byPixels_of_sq {p : Picture} {maxPixels : Nat} {r : ℝ} (h0 : maxPixels ≠ 0) (hr : 0 ≤ r)
    (h : (maxPixels / (p.w * p.h) : ℝ) = r ^ 2) : p.byPixels maxPixels = r := by
  rw [byPixels, if_neg h0, h, Real.sqrt_sq hr]

theorem shrinkage_even : even.shrinkage 10 36 = 1 / 2 := by
  obtain ⟨hw, hh⟩ := sides_even
  have hside : even.bySide 10 = 5 / 9 := by
    rw [bySide, hw, hh]
    norm_num
  have hpixels : even.byPixels 36 = 1 / 2 := by
    refine byPixels_of_sq (by decide) (by norm_num) ?_
    rw [hw, hh]
    norm_num
  rw [shrinkage, hside, hpixels]
  norm_num

theorem shrinkage_tall : tall.shrinkage 0 25 = 5 / 12 := by
  obtain ⟨hw, hh⟩ := sides_tall
  have hpixels : tall.byPixels 25 = 5 / 12 := by
    refine byPixels_of_sq (by decide) (by norm_num) ?_
    rw [hw, hh]
    norm_num
  rw [shrinkage, bySide, if_pos rfl, hpixels]
  norm_num

theorem shrunk_eq {n m : Nat} {r : ℝ} (hm : 0 < m) (h : |n * r - m| < 1 / 2) : shrunk n r = m := by
  rw [shrunk, Scalar.nearest_eq_of_abs_lt (k := m) (by rwa [Int.cast_natCast])]
  omega

theorem fit_conforms_iff_even : even.isEmpty = false ∧ ¬ even.Respects 10 36 ∧
    (even.fit 10 36 : Fitted Scalar.Precise).same = false ∧
    Conforms even 10 36 (even.fit 10 36 : Fitted Scalar.Precise) := by
  obtain ⟨hw, hh⟩ := sides_even
  have hp : even.isEmpty = false := rfl
  have hbeyond : ¬ even.Respects 10 36 := by
    rintro ⟨-, h | h⟩ <;> exact absurd h (by decide)
  have hw' : shrunk even.w (even.shrinkage 10 36) = 4 := by
    rw [shrinkage_even, hw]
    exact shrunk_eq (by decide) (by norm_num)
  have hh' : shrunk even.h (even.shrinkage 10 36) = 9 := by
    rw [shrinkage_even, hh]
    exact shrunk_eq (by decide) (by norm_num)
  obtain ⟨hsame, -, -, -, hconforms, -⟩ := fit_conforms_iff (α := Scalar.Precise) hp 10 36
  refine ⟨hp, hbeyond, Bool.eq_false_iff.2 (hsame.not.2 hbeyond), hconforms ?_ ?_⟩
  · rw [hw', shrinkage_even, hw]
    norm_num
  · rw [hh', shrinkage_even, hh]
    norm_num

/-- **A picture of 28 pixels where there may be 25.** -/
theorem fit_beyond : tall.isEmpty = false ∧ (tall.fit 0 25 : Fitted Scalar.Precise).picture.w = 4 ∧
    (tall.fit 0 25 : Fitted Scalar.Precise).picture.h = 7 ∧
    ¬ Conforms tall 0 25 (tall.fit 0 25 : Fitted Scalar.Precise) := by
  obtain ⟨hw, hh⟩ := sides_tall
  have hp : tall.isEmpty = false := rfl
  have hw' : (tall.fit 0 25 : Fitted Scalar.Precise).picture.w = 4 := by
    rw [w_fit hp, shrinkage_tall, hw]
    exact shrunk_eq (by decide) (by norm_num [abs_lt])
  have hh' : (tall.fit 0 25 : Fitted Scalar.Precise).picture.h = 7 := by
    rw [h_fit hp, shrinkage_tall, hh]
    exact shrunk_eq (by decide) (by norm_num [abs_lt])
  refine ⟨hp, hw', hh', fun hconforms => ?_⟩
  obtain ⟨⟨-, hpixels⟩, -⟩ := hconforms
  rw [hw', hh'] at hpixels
  exact absurd hpixels (by decide)

end Picture
end Pinpoint
