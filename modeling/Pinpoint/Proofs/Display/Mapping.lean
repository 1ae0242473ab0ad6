import Pinpoint.Display
import Pinpoint.Proofs.Box.Rect
/-!
# Mapping — captured pixels to logical pixels and back

A captured point comes back from the logical grid up to half a logical pixel, which is `s / 2` captured ones, and the half
pixel of the second rounding.  The other way round nothing is lost where logical pixels are the larger ones: points and
boxes come back as they were (`scaling_round_trip`).  The near corner of a box is held to 32 bits on its way and the far
one is not; the two ways agree on every box that fits.
-/
namespace Pinpoint
namespace Scaling

open Scalar (Is nearest)

variable {α : Type} [Scalar α]

/-- A point of which 32 bits hold both coordinates. -/
def InRange (q : Int × Int) : Prop := (-2 ^ 31 ≤ q.1 ∧ q.1 < 2 ^ 31) ∧ -2 ^ 31 ≤ q.2 ∧ q.2 < 2 ^ 31

instance (q : Int × Int) : Decidable (InRange q) := inferInstanceAs (Decidable (_ ∧ _))

/-- The logical point of a captured one, wherever it is. -/
noncomputable def logicalPoint (sx sy : ℝ) (q : Int × Int) : Int × Int := (nearest (q.1 / sx), nearest (q.2 / sy))

/-- The captured point of a logical one, wherever it is. -/
noncomputable def physicalPoint (sx sy : ℝ) (q : Int × Int) : Int × Int := (nearest (q.1 * sx), nearest (q.2 * sy))

/-- The captured edges of a logical box. -/
noncomputable def physicalRect (sx sy : ℝ) (b : Box) : Rect :=
  Rect.ofEdges (fun v => nearest (v * sx)) (fun v => nearest (v * sy)) b

theorem monotone_scaled {s : ℝ} (hs : 0 ≤ s) : Monotone fun v : Int => nearest (v * s : ℝ) := fun _ _ h =>
  Scalar.nearest_mono (mul_le_mul_of_nonneg_right (Int.cast_le.2 h) hs)

variable [Scalar.Exact α] {a x y : α} {r sx sy : ℝ} {q : Int × Int} {b : Box}

theorem sane_eq (hx : Is x sx) (h0 : 0 < sx) : sane x = x := by
  have hpos : Scalar.ofInt 0 < x := ((Is.ofInt 0).lt hx).2 (by rwa [Int.cast_zero])
  exact if_pos ⟨hx.1, hpos⟩

theorem make_eq (hx : Is x sx) (hy : Is y sy) (h0x : 0 < sx) (h0y : 0 < sy) : make x y = ⟨x, y⟩ := by
  rw [make, sane_eq hx h0x, sane_eq hy h0y]

theorem nearest32_eq (ha : Is a r) : nearest32 a = max (-2 ^ 31) (min (2 ^ 31 - 1) (nearest r)) := ha.toInt_round _ _

theorem nearest32_of_mem (ha : Is a r) (h : -2 ^ 31 ≤ nearest r) (h' : nearest r < 2 ^ 31) :
    nearest32 a = nearest r := by
  rw [nearest32_eq ha]
  omega

/-! ## Points -/

/-- **A captured coordinate comes back** up to half a logical pixel and half a captured one. -/
theorem abs_back_sub_le (ha : Is a r) (h0 : 0 < r) {v : Int} (hv : -2 ^ 31 ≤ v) (hv' : v < 2 ^ 31)
    (hl : -2 ^ 31 ≤ nearest (v / r)) (hl' : nearest (v / r) < 2 ^ 31) :
    |((nearest32 (Scalar.ofInt (nearest32 (Scalar.ofInt v / a)) * a) : Int) : ℝ) - v| ≤ r / 2 + 1 / 2 := by
  rw [nearest32_of_mem ((Is.ofInt v).div ha h0.ne') hl hl', nearest32_eq ((Is.ofInt _).mul ha)]
  generalize hw : nearest ((nearest (v / r) : Int) * r : ℝ) = w
  -- The way back may be held to 32 bits, which only brings it nearer to where the point was.
  have hheld : |max (-2 ^ 31) (min (2 ^ 31 - 1) w) - v| ≤ |w - v| := by
    rw [Int.abs_eq_natAbs, Int.abs_eq_natAbs]
    omega
  calc |((max (-2 ^ 31) (min (2 ^ 31 - 1) w) : Int) : ℝ) - v| ≤ |(w : ℝ) - v| := by exact_mod_cast hheld
    _ ≤ r / 2 + 1 / 2 := by
      rw [← hw]
      exact Scalar.abs_nearest_nearest_div_mul_sub_le h0 v

theorem toLogical_toPhysical (hx : Is x sx) (hy : Is y sy) (h1x : 1 ≤ sx) (h1y : 1 ≤ sy)
    (hq : InRange (physicalPoint sx sy q)) :
    toLogical ⟨x, y⟩ (toPhysical ⟨x, y⟩ q) = q := by
  have hback : ∀ {f : α} {r : ℝ}, Is f r → 1 ≤ r → ∀ v : Int, -2 ^ 31 ≤ nearest (v * r) → nearest (v * r) < 2 ^ 31 →
      nearest32 (Scalar.ofInt (nearest32 (Scalar.ofInt v * f)) / f) = v := by
    intro f r hf h1 v h h'
    have hmem := Scalar.nearest_div_between h1 (nearest (v * r))
    rw [nearest32_of_mem ((Is.ofInt v).mul hf) h h',
      nearest32_of_mem ((Is.ofInt _).div hf (zero_lt_one.trans_le h1).ne') (by omega) (by omega),
      Scalar.nearest_nearest_mul_div h1]
  obtain ⟨⟨h1, h1'⟩, h2, h2'⟩ := hq
  exact Prod.ext (hback hx h1x _ h1 h1') (hback hy h1y _ h2 h2')

/-! ## Boxes -/

theorem boxToPhysical_eq (hx : Is x sx) (hy : Is y sy) (h0x : 0 ≤ sx) (h0y : 0 ≤ sy)
    (hfit : (physicalRect sx sy b).Fits) :
    boxToPhysical ⟨x, y⟩ b = (physicalRect sx sy b).toBox := by
  have hlr := monotone_scaled h0x b.left_le_right
  have htb := monotone_scaled h0y b.top_le_bottom
  obtain ⟨⟨hl, hl'⟩, ⟨ht, ht'⟩, hw, hh⟩ := hfit
  dsimp only [physicalRect, Rect.ofEdges] at hl hl' ht ht' hw hh hlr htb
  -- The near corner is held to 32 bits and the far one to 64: neither changes what fits.
  unfold boxToPhysical toPhysical
  dsimp only
  rw [nearest32_of_mem ((Is.ofInt _).mul hx) hl hl', nearest32_of_mem ((Is.ofInt _).mul hy) ht ht',
    ((Is.ofInt _).mul hx).roundInt (by omega) (by omega), ((Is.ofInt _).mul hy).roundInt (by omega) (by omega)]
  rfl

theorem boxToLogical_eq (hx : Is x sx) (hy : Is y sy) (h1x : 1 ≤ sx) (h1y : 1 ≤ sy) (b : Box) :
    boxToLogical ⟨x, y⟩ b =
      (Rect.ofEdges (fun v => nearest (v / sx)) (fun v => nearest (v / sy)) b).toBox := by
  obtain ⟨⟨hl, hlr, hr⟩, ⟨ht, htb, hbt⟩⟩ := b.edges_mem
  have hl' := b.left_lt
  have ht' := b.top_lt
  have hmx := Scalar.nearest_div_between h1x b.left
  have hmy := Scalar.nearest_div_between h1y b.top
  unfold boxToLogical toLogical
  dsimp only
  rw [nearest32_of_mem ((Is.ofInt _).div hx (zero_lt_one.trans_le h1x).ne') (by omega) (by omega),
    nearest32_of_mem ((Is.ofInt _).div hy (zero_lt_one.trans_le h1y).ne') (by omega) (by omega),
    hx.roundInt_div h1x (by omega) (by omega), hy.roundInt_div h1y (by omega) (by omega)]
  rfl

theorem boxToLogical_boxToPhysical (hx : Is x sx) (hy : Is y sy) (h1x : 1 ≤ sx) (h1y : 1 ≤ sy)
    (hfit : (physicalRect sx sy b).Fits) : boxToLogical ⟨x, y⟩ (boxToPhysical ⟨x, y⟩ b) = b := by
  rw [boxToPhysical_eq hx hy (zero_le_one.trans h1x) (zero_le_one.trans h1y) hfit, boxToLogical_eq hx hy h1x h1y]
  exact hfit.toBox_ofEdges (monotone_scaled (zero_le_one.trans h1x)) (monotone_scaled (zero_le_one.trans h1y))
    (Scalar.nearest_nearest_mul_div h1x) (Scalar.nearest_nearest_mul_div h1y)

/-! ## There and back -/

/-- **Captured and logical pixels.**  A captured point whose logical one is in range comes back up to half a logical pixel
and half a captured one on each axis.  With both scales from one on, a logical point whose captured one is in range comes
back as it was, and so does a logical box whose captured edges fit a box. -/
theorem scaling_round_trip (hx : Is x sx) (hy : Is y sy) (h0x : 0 < sx) (h0y : 0 < sy) :
    (∀ q, InRange q → InRange (logicalPoint sx sy q) →
      |((((make x y).toPhysical ((make x y).toLogical q)).1 : Int) : ℝ) - q.1| ≤ sx / 2 + 1 / 2 ∧
      |((((make x y).toPhysical ((make x y).toLogical q)).2 : Int) : ℝ) - q.2| ≤ sy / 2 + 1 / 2) ∧
    (1 ≤ sx → 1 ≤ sy →
      (∀ q, InRange (physicalPoint sx sy q) → (make x y).toLogical ((make x y).toPhysical q) = q) ∧
      ∀ b, (physicalRect sx sy b).Fits → (make x y).boxToLogical ((make x y).boxToPhysical b) = b) := by
  rw [make_eq hx hy h0x h0y]
  constructor
  · rintro q ⟨⟨h1, h1'⟩, h2, h2'⟩ ⟨⟨hl1, hl1'⟩, hl2, hl2'⟩
    exact ⟨abs_back_sub_le hx h0x h1 h1' hl1 hl1', abs_back_sub_le hy h0y h2 h2' hl2 hl2'⟩
  · intro h1x h1y
    exact ⟨fun q hq => toLogical_toPhysical hx hy h1x h1y hq,
      fun b hb => boxToLogical_boxToPhysical hx hy h1x h1y hb⟩

/-! Scales of one and a half and of three: a captured point that comes back a pixel off on both axes, and a logical point
and box left of the origin whose captured edges lie half way between two pixels. -/

def uneven : Scaling ℚ := make (3 / 2) 3

theorem scaling_round_trip_uneven :
    (Is (3 / 2 : ℚ) ((3 / 2 : ℚ) : ℝ) ∧ Is (3 : ℚ) ((3 : ℚ) : ℝ) ∧ 0 < ((3 / 2 : ℚ) : ℝ) ∧ 0 < ((3 : ℚ) : ℝ)) ∧
    (InRange (1, -40) ∧ InRange (logicalPoint ((3 / 2 : ℚ) : ℝ) ((3 : ℚ) : ℝ) (1, -40)) ∧
      uneven.toPhysical (uneven.toLogical (1, -40)) = (2, -39) ∧
      |((2 : Int) : ℝ) - (1 : Int)| ≤ ((3 / 2 : ℚ) : ℝ) / 2 + 1 / 2 ∧
      |((-39 : Int) : ℝ) - (-40 : Int)| ≤ ((3 : ℚ) : ℝ) / 2 + 1 / 2) ∧
    (1 ≤ ((3 / 2 : ℚ) : ℝ) ∧ 1 ≤ ((3 : ℚ) : ℝ)) ∧
    (InRange (physicalPoint ((3 / 2 : ℚ) : ℝ) ((3 : ℚ) : ℝ) (-27, 23)) ∧ uneven.toPhysical (-27, 23) = (-41, 69) ∧
      uneven.toLogical (-41, 69) = (-27, 23)) ∧
    (physicalRect ((3 / 2 : ℚ) : ℝ) ((3 : ℚ) : ℝ) ⟨-27, 7, 50, 21⟩).Fits ∧
      uneven.boxToPhysical ⟨-27, 7, 50, 21⟩ = ⟨-41, 21, 76, 63⟩ ∧
      uneven.boxToLogical ⟨-41, 21, 76, 63⟩ = ⟨-27, 7, 50, 21⟩ := by
  have hx : Is (3 / 2 : ℚ) ((3 / 2 : ℚ) : ℝ) := ⟨rfl, rfl⟩
  have hy : Is (3 : ℚ) ((3 : ℚ) : ℝ) := ⟨rfl, rfl⟩
  have h1x : 1 ≤ ((3 / 2 : ℚ) : ℝ) := by norm_num
  have h1y : 1 ≤ ((3 : ℚ) : ℝ) := by norm_num
  have h0x := zero_lt_one.trans_le h1x
  have h0y := zero_lt_one.trans_le h1y
  obtain ⟨hnear, hexact⟩ := scaling_round_trip hx hy h0x h0y
  obtain ⟨hpoint, hbox⟩ := hexact h1x h1y
  have hq : InRange (1, -40) := by decide
  have hlogical : InRange (logicalPoint ((3 / 2 : ℚ) : ℝ) ((3 : ℚ) : ℝ) (1, -40)) := by
    unfold logicalPoint
    simp only [← Rat.cast_intCast (α := ℝ), ← Rat.cast_div, Scalar.nearest_ratCast]
    decide +kernel
  have hphysical : InRange (physicalPoint ((3 / 2 : ℚ) : ℝ) ((3 : ℚ) : ℝ) (-27, 23)) := by
    unfold physicalPoint
    simp only [← Rat.cast_intCast (α := ℝ), ← Rat.cast_mul, Scalar.nearest_ratCast]
    decide +kernel
  have hrect : physicalRect ((3 / 2 : ℚ) : ℝ) ((3 : ℚ) : ℝ) ⟨-27, 7, 50, 21⟩ = ⟨-41, 21, 35, 84⟩ := by
    unfold physicalRect Rect.ofEdges
    simp only [← Rat.cast_intCast (α := ℝ), ← Rat.cast_mul, Scalar.nearest_ratCast]
    decide +kernel
  have hfit : (physicalRect ((3 / 2 : ℚ) : ℝ) ((3 : ℚ) : ℝ) ⟨-27, 7, 50, 21⟩).Fits := by
    rw [hrect]
    exact ⟨by decide, by decide, by decide, by decide⟩
  have hthere : uneven.toPhysical (uneven.toLogical (1, -40)) = (2, -39) := by decide +kernel
  have hout : uneven.toPhysical (-27, 23) = (-41, 69) := by decide +kernel
  have hedges : uneven.boxToPhysical ⟨-27, 7, 50, 21⟩ = ⟨-41, 21, 76, 63⟩ := by decide +kernel
  have hoff := hnear (1, -40) hq hlogical
  have hin := hpoint (-27, 23) hphysical
  have hown := hbox ⟨-27, 7, 50, 21⟩ hfit
  change |(((uneven.toPhysical (uneven.toLogical (1, -40))).1 : Int) : ℝ) - _| ≤ _ ∧
    |(((uneven.toPhysical (uneven.toLogical (1, -40))).2 : Int) : ℝ) - _| ≤ _ at hoff
  change uneven.toLogical (uneven.toPhysical (-27, 23)) = _ at hin
  change uneven.boxToLogical (uneven.boxToPhysical ⟨-27, 7, 50, 21⟩) = _ at hown
  rw [hthere] at hoff
  rw [hout] at hin
  rw [hedges] at hown
  exact ⟨⟨hx, hy, h0x, h0y⟩, ⟨hq, hlogical, hthere, hoff.1, hoff.2⟩, ⟨h1x, h1y⟩, ⟨hphysical, hout, hin⟩, hfit, hedges,
    hown⟩

end Scaling
end Pinpoint
