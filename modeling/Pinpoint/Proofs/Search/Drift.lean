import Pinpoint.Proofs.Picture.Ceilings
import Pinpoint.Proofs.Search.Placed
import Pinpoint.Proofs.Search.Steps
/-!
# Drift — how far from where it was meant a box comes to lie

The picture that is sent has whole sides, each rounded on its own, and one ratio that is not rounded.  A coordinate of
an answer is stretched to the side that was sent and then divided by the ratio, so that the half pixel a side may have
gained or lost comes back as half a pixel over the ratio, and rounding at the end adds half a pixel.  No edge goes
further than that, whatever the sides, the ratio and the scale (`coordinates_drift`), and edges keep their order.
-/
namespace Pinpoint

open Scalar (Is nearest)

namespace Picture

/-- A side of half a pixel and more is rounded by at most half a pixel. -/
theorem abs_shrunk_sub_le {n : Nat} {r : ℝ} (h : 1 / 2 ≤ n * r) : |(shrunk n r : ℝ) - n * r| ≤ 1 / 2 := by
  have hup := shrunk_sub_half_le h
  have hnear := (abs_le.1 (Scalar.abs_nearest_sub_le (n * r))).1
  have hle : nearest (n * r) ≤ (shrunk n r : Int) := by
    unfold shrunk
    omega
  have hle : (nearest (n * r) : ℝ) ≤ shrunk n r := by exact_mod_cast hle
  rw [abs_le]
  constructor <;> linarith

variable {α : Type} [Scalar α] [Scalar.Exact α]

/-- **What is sent has the sides that its ratio says**, also where nothing was shrunk. -/
theorem sides_fit (p : Picture) (maxSide maxPixels : Nat) :
    (p.fit maxSide maxPixels : Fitted α).picture.width =
        sentSide (p.fit maxSide maxPixels : Fitted α).ratio p.width ∧
      (p.fit maxSide maxPixels : Fitted α).picture.height =
        sentSide (p.fit maxSide maxPixels : Fitted α).ratio p.height := by
  have hone : Scalar.ofInt 1 ≤ (Scalar.ofInt 1 : α) := (Is.one.le Is.one).2 le_rfl
  rw [width_fit, height_fit]
  unfold fit sentSide
  dsimp only
  by_cases h : Scalar.ofInt 1 ≤ (fitRatio p.w p.h maxSide maxPixels : α)
  · simp only [if_pos h, if_pos hone, and_self]
  · simp only [if_neg h, and_self]

end Picture

/-! ## Where a coordinate lands -/

/-- The pixel that a coordinate comes to, from a frame of size `σ` over a side of `sent` pixels. -/
noncomputable def landing (sent : Nat) (σ ρ t : ℝ) : Int := nearest (t * (sent / σ / ρ))

section
variable {n : Nat} {σ ρ t u : ℝ}

theorem pos_of_half_le (hn : 1 / 2 ≤ n * ρ) : 0 < n := by
  by_contra h
  rw [Nat.eq_zero_of_not_pos h, Nat.cast_zero, zero_mul] at hn
  linarith

theorem landing_mono (hσ : 0 < σ) (h0 : 0 < ρ) (sent : Nat) (h : t ≤ u) :
    landing sent σ ρ t ≤ landing sent σ ρ u :=
  Scalar.nearest_mono (mul_le_mul_of_nonneg_right h (by positivity))

/-- **No coordinate drifts further** than half a pixel of the picture that was sent and half a pixel of its own. -/
theorem abs_landing_sub_le (hσ : 0 < σ) (h0 : 0 < ρ) (hn : 1 / 2 ≤ n * ρ) (ht : 0 ≤ t) (ht' : t ≤ σ) :
    |(landing (Picture.shrunk n ρ) σ ρ t : ℝ) - t * n / σ| ≤ 1 / (2 * ρ) + 1 / 2 := by
  have hside := Picture.abs_shrunk_sub_le hn
  generalize Picture.shrunk n ρ = sent at hside ⊢
  have hpart : t / σ ≤ 1 := (div_le_one hσ).2 ht'
  -- Before it is rounded, a coordinate is off by its part of what the side is off.
  have hoff : |t * (sent / σ / ρ) - t * n / σ| ≤ 1 / (2 * ρ) := by
    calc |t * (sent / σ / ρ) - t * n / σ| = |t / σ * ((sent - n * ρ) / ρ)| := by
          congr 1
          field_simp
      _ = t / σ * (|sent - n * ρ| / ρ) := by
          rw [abs_mul, abs_of_nonneg (div_nonneg ht hσ.le), abs_div, abs_of_pos h0]
      _ ≤ 1 * (1 / 2 / ρ) := by gcongr
      _ = 1 / (2 * ρ) := by rw [one_mul, div_div]
  have hround := Scalar.abs_nearest_sub_le (t * (sent / σ / ρ))
  have htriangle := abs_sub_le (nearest (t * (sent / σ / ρ)) : ℝ) (t * (sent / σ / ρ)) (t * n / σ)
  unfold landing
  linarith

/-- A side of half a pixel and more comes back as at most twice as many pixels. -/
theorem landing_mem (hσ : 0 < σ) (h0 : 0 < ρ) (hn : 1 / 2 ≤ n * ρ) (ht : 0 ≤ t) (ht' : t ≤ σ) :
    0 ≤ landing (Picture.shrunk n ρ) σ ρ t ∧ landing (Picture.shrunk n ρ) σ ρ t ≤ 2 * n := by
  have hside := (abs_le.1 (Picture.abs_shrunk_sub_le hn)).2
  have hle : t * (Picture.shrunk n ρ / σ / ρ) ≤ 2 * n := by
    calc t * (Picture.shrunk n ρ / σ / ρ) = t / σ * (Picture.shrunk n ρ / ρ) := by field_simp
      _ ≤ 1 * (2 * n) := by
        refine mul_le_mul ((div_le_one hσ).2 ht') ?_ (by positivity) zero_le_one
        rw [div_le_iff₀ h0]
        linarith
      _ = 2 * n := one_mul _
  constructor
  · exact Scalar.le_nearest (by rw [Int.cast_zero]; positivity)
  · exact Scalar.nearest_le (by push_cast; exact hle)

end

/-! ## Boxes of an answer -/

variable {α : Type} [Scalar α]

namespace Normalized

/-- The pixel that a coordinate of an answer is taken to. -/
def edge (scale ratio : α) (sent : UInt32) (u : α) : Int :=
  Scalar.roundInt (u * (Scalar.ofNat sent.toNat / scale / ratio))

/-- The pixels that the corners of a box are taken to, once they are in order. -/
def edges (b : Normalized α) (scale ratio : α) (sentWidth sentHeight : UInt32) : Rect where
  left   := edge scale ratio sentWidth (Scalar.min b.xMin b.xMax)
  top    := edge scale ratio sentHeight (Scalar.min b.yMin b.yMax)
  right  := edge scale ratio sentWidth (Scalar.max b.xMin b.xMax)
  bottom := edge scale ratio sentHeight (Scalar.max b.yMin b.yMax)

variable [Scalar.Exact α]

/-- The value is a coordinate of the frame. -/
def Framed (σ : ℝ) (u : α) : Prop := ∃ t, Is u t ∧ 0 ≤ t ∧ t ≤ σ

/-- **A box of the frame**, with its corners in any order. -/
structure InFrame (σ : ℝ) (b : Normalized α) : Prop where
  xMin : Framed σ b.xMin
  yMin : Framed σ b.yMin
  xMax : Framed σ b.xMax
  yMax : Framed σ b.yMax

variable {scale ratio u v : α} {σ ρ t : ℝ} {side : UInt32} {b : Normalized α}

theorem toPixels_eq_edges (hs : Is scale σ) (hr : Is ratio ρ) (hσ : 0 < σ) (h0 : 0 < ρ) (b : Normalized α)
    (w h : UInt32) : b.toPixels scale w h ratio =
      if (b.edges scale ratio w h).toBox.isEmpty then none else some (b.edges scale ratio w h).toBox := by
  have hpos : ¬ (scale ≤ Scalar.ofInt 0 ∨ ratio ≤ Scalar.ofInt 0) := by
    rw [hs.le (Is.ofInt 0), hr.le (Is.ofInt 0), Int.cast_zero, not_or, not_le, not_le]
    exact ⟨hσ, h0⟩
  unfold toPixels
  rw [if_neg hpos]
  rfl

theorem edge_eq (hs : Is scale σ) (hr : Is ratio ρ) (hσ : 0 < σ) (h0 : 0 < ρ) (sent : UInt32) (hu : Is u t) :
    edge scale ratio sent u = Rect.hold (landing sent.toNat σ ρ t) :=
  (hu.mul (((Is.ofNat sent.toNat).div hs hσ.ne').div hr h0.ne')).toInt_round _ _

/-- Edges keep their order, also those that 64 bits do not hold. -/
theorem edge_mono (hs : Is scale σ) (hr : Is ratio ρ) (hσ : 0 < σ) (h0 : 0 < ρ) (sent : UInt32) {t' : ℝ}
    (hu : Is u t) (hv : Is v t') (h : t ≤ t') : edge scale ratio sent u ≤ edge scale ratio sent v := by
  have hle := landing_mono hσ h0 sent.toNat h
  rw [edge_eq hs hr hσ h0 sent hu, edge_eq hs hr hσ h0 sent hv]
  unfold Rect.hold
  omega

theorem edge_sent (hs : Is scale σ) (hr : Is ratio ρ) (hσ : 0 < σ) (h0 : 0 < ρ) (h1 : ρ ≤ 1)
    (hn : 1 / 2 ≤ side.toNat * ρ) (hu : Is u t) (ht : 0 ≤ t) (ht' : t ≤ σ) :
    edge scale ratio (Picture.sentSide ratio side) u = landing (Picture.shrunk side.toNat ρ) σ ρ t ∧
      0 ≤ edge scale ratio (Picture.sentSide ratio side) u ∧
      edge scale ratio (Picture.sentSide ratio side) u ≤ 2 * side.toNat := by
  have hpos := pos_of_half_le hn
  have hlt := side.toNat_lt
  have hmem := landing_mem hσ h0 hn ht ht'
  have hedge : edge scale ratio (Picture.sentSide ratio side) u = landing (Picture.shrunk side.toNat ρ) σ ρ t := by
    rw [edge_eq hs hr hσ h0 _ hu, Picture.toNat_sentSide hr h0.le h1 hpos]
    unfold Rect.hold
    omega
  rw [hedge]
  exact ⟨rfl, hmem⟩

theorem abs_edge_sub_le (hs : Is scale σ) (hr : Is ratio ρ) (hσ : 0 < σ) (h0 : 0 < ρ) (h1 : ρ ≤ 1)
    (hn : 1 / 2 ≤ side.toNat * ρ) (hu : Is u t) (ht : 0 ≤ t) (ht' : t ≤ σ) :
    |(edge scale ratio (Picture.sentSide ratio side) u : ℝ) - t * side.toNat / σ| ≤ 1 / (2 * ρ) + 1 / 2 := by
  rw [(edge_sent hs hr hσ h0 h1 hn hu ht ht').1]
  exact abs_landing_sub_le hσ h0 hn ht ht'

/-! ## Both ends of a box -/

/-- **Each end of an extent is near where it was meant.** -/
def Near (drift : ℝ) (lo hi : Int) (t t' : ℝ) : Prop := |(lo : ℝ) - t| ≤ drift ∧ |(hi : ℝ) - t'| ≤ drift

/-- **Where a box of the frame comes to lie**: every edge near where it was meant, on each axis by itself, and in order.
On a picture with sides of 30 bits a box can hold the edges. -/
structure Lands (σ ρ : ℝ) (w h : UInt32) (b : Normalized α) (r : Rect) : Prop where
  across  : 1 / 2 ≤ w.toNat * ρ → Near (1 / (2 * ρ) + 1 / 2) r.left r.right
    (min (Scalar.Exact.val b.xMin) (Scalar.Exact.val b.xMax) * w.toNat / σ)
    (max (Scalar.Exact.val b.xMin) (Scalar.Exact.val b.xMax) * w.toNat / σ)
  down    : 1 / 2 ≤ h.toNat * ρ → Near (1 / (2 * ρ) + 1 / 2) r.top r.bottom
    (min (Scalar.Exact.val b.yMin) (Scalar.Exact.val b.yMax) * h.toNat / σ)
    (max (Scalar.Exact.val b.yMin) (Scalar.Exact.val b.yMax) * h.toNat / σ)
  ordered : r.left ≤ r.right ∧ r.top ≤ r.bottom
  held    : 1 / 2 ≤ w.toNat * ρ → 1 / 2 ≤ h.toNat * ρ → w.toNat < 2 ^ 30 → h.toNat < 2 ^ 30 →
    r.toBox.left = r.left ∧ r.toBox.top = r.top ∧ r.toBox.right = r.right ∧ r.toBox.bottom = r.bottom

/-- The ends of an extent are in order, near where they were meant, and numbers of 31 bits on a side of 30. -/
theorem extent_near (hs : Is scale σ) (hr : Is ratio ρ) (hσ : 0 < σ) (h0 : 0 < ρ) (h1 : ρ ≤ 1) (hu : Framed σ u)
    (hv : Framed σ v) (side : UInt32) :
    edge scale ratio (Picture.sentSide ratio side) (Scalar.min u v) ≤
        edge scale ratio (Picture.sentSide ratio side) (Scalar.max u v) ∧
      (1 / 2 ≤ side.toNat * ρ →
        Near (1 / (2 * ρ) + 1 / 2) (edge scale ratio (Picture.sentSide ratio side) (Scalar.min u v))
          (edge scale ratio (Picture.sentSide ratio side) (Scalar.max u v))
          (min (Scalar.Exact.val u) (Scalar.Exact.val v) * side.toNat / σ)
          (max (Scalar.Exact.val u) (Scalar.Exact.val v) * side.toNat / σ) ∧
        0 ≤ edge scale ratio (Picture.sentSide ratio side) (Scalar.min u v) ∧
        edge scale ratio (Picture.sentSide ratio side) (Scalar.max u v) ≤ 2 * side.toNat) := by
  obtain ⟨t, ⟨hu, rfl⟩, ht, ht'⟩ := hu
  obtain ⟨t', ⟨hv, rfl⟩, hv0, hv1⟩ := hv
  have hmin := (Scalar.is_val hu).min (Scalar.is_val hv)
  have hmax := (Scalar.is_val hu).max (Scalar.is_val hv)
  have hmin0 : 0 ≤ min (Scalar.Exact.val u) (Scalar.Exact.val v) := le_min ht hv0
  have hmin1 : min (Scalar.Exact.val u) (Scalar.Exact.val v) ≤ σ := (min_le_left _ _).trans ht'
  have hmax0 : 0 ≤ max (Scalar.Exact.val u) (Scalar.Exact.val v) := ht.trans (le_max_left _ _)
  have hmax1 : max (Scalar.Exact.val u) (Scalar.Exact.val v) ≤ σ := max_le ht' hv1
  refine ⟨edge_mono hs hr hσ h0 _ hmin hmax min_le_max, fun hn => ⟨⟨?_, ?_⟩, ?_, ?_⟩⟩
  · exact abs_edge_sub_le hs hr hσ h0 h1 hn hmin hmin0 hmin1
  · exact abs_edge_sub_le hs hr hσ h0 h1 hn hmax hmax0 hmax1
  · exact (edge_sent hs hr hσ h0 h1 hn hmin hmin0 hmin1).2.1
  · exact (edge_sent hs hr hσ h0 h1 hn hmax hmax0 hmax1).2.2

theorem InFrame.lands (hb : b.InFrame σ) (hs : Is scale σ) (hr : Is ratio ρ) (hσ : 0 < σ) (h0 : 0 < ρ) (h1 : ρ ≤ 1)
    (w h : UInt32) :
    b.Lands σ ρ w h (b.edges scale ratio (Picture.sentSide ratio w) (Picture.sentSide ratio h)) := by
  obtain ⟨hx, hx'⟩ := extent_near hs hr hσ h0 h1 hb.xMin hb.xMax w
  obtain ⟨hy, hy'⟩ := extent_near hs hr hσ h0 h1 hb.yMin hb.yMax h
  refine ⟨fun hw => (hx' hw).1, fun hh => (hy' hh).1, ⟨hx, hy⟩, fun hw hh hw30 hh30 => ?_⟩
  obtain ⟨-, hleft, hright⟩ := hx' hw
  obtain ⟨-, htop, hbottom⟩ := hy' hh
  have hfits : (b.edges scale ratio (Picture.sentSide ratio w) (Picture.sentSide ratio h)).Fits := by
    refine ⟨⟨?_, ?_⟩, ⟨?_, ?_⟩, ?_, ?_⟩ <;> dsimp only [edges] <;> omega
  exact hfits.edges_toBox hx hy

end Normalized

namespace Grounding

variable [Scalar.Exact α] {s : GroundingSettings α} {e : Element} {data : String} {p : Picture} {votes : Nat}
  {q : Question α}

/-- **What is sent with a question** has the sides that the ratio of the question says. -/
theorem question_sides (h : question s e data p votes = .ok q) :
    q.poll.picture.width = Picture.sentSide q.ratio p.width ∧
      q.poll.picture.height = Picture.sentSide q.ratio p.height := by
  obtain ⟨_, -, rfl⟩ := Except.map_eq_ok.1 h
  exact p.sides_fit s.maxSide s.maxPixels

end Grounding

namespace Normalized

variable [Scalar.Exact α] {scale ratio : α} {σ ρ : ℝ}

/-- **Coordinates of an answer on the picture**, for every ratio up to one and every scale.  A side of half a pixel and
more is sent as its nearest whole number of pixels, and a coordinate of the frame comes to lie at most half a pixel over
the ratio and half a pixel from where it was meant, on a side of any length.  Coordinates keep their order; the edges of
a box are coordinates that are taken so; and a question sends the sides that its ratio says. -/
theorem coordinates_drift (hs : Is scale σ) (hr : Is ratio ρ) (hσ : 0 < σ) (h0 : 0 < ρ) (h1 : ρ ≤ 1) :
    (∀ (side : UInt32) (u : α) (t : ℝ), 1 / 2 ≤ side.toNat * ρ → Is u t → 0 ≤ t → t ≤ σ →
      (Picture.sentSide ratio side).toNat = max 1 (nearest (side.toNat * ρ)).toNat ∧
      |(edge scale ratio (Picture.sentSide ratio side) u : ℝ) - t * side.toNat / σ| ≤ 1 / (2 * ρ) + 1 / 2) ∧
    (∀ (sent : UInt32) (u v : α) (t t' : ℝ), Is u t → Is v t' → t ≤ t' →
      edge scale ratio sent u ≤ edge scale ratio sent v) ∧
    (∀ (b : Normalized α) (w h : UInt32), b.toPixels scale w h ratio =
      if (b.edges scale ratio w h).toBox.isEmpty then none else some (b.edges scale ratio w h).toBox) ∧
    (∀ (b : Normalized α) (w h : UInt32), b.InFrame σ →
      b.Lands σ ρ w h (b.edges scale ratio (Picture.sentSide ratio w) (Picture.sentSide ratio h))) ∧
    ∀ (s : GroundingSettings α) (e : Element) (data : String) (p : Picture) (votes : Nat) (q : Grounding.Question α),
      Grounding.question s e data p votes = .ok q →
        q.poll.picture.width = Picture.sentSide q.ratio p.width ∧
          q.poll.picture.height = Picture.sentSide q.ratio p.height := by
  refine ⟨fun side u t hn hu ht ht' => ⟨?_, abs_edge_sub_le hs hr hσ h0 h1 hn hu ht ht'⟩,
    fun sent u v t t' hu hv h => edge_mono hs hr hσ h0 sent hu hv h, toPixels_eq_edges hs hr hσ h0,
    fun b w h hb => hb.lands hs hr hσ h0 h1 w h, fun s e data p votes q hq => Grounding.question_sides hq⟩
  exact Picture.toNat_sentSide hr h0.le h1 (pos_of_half_le hn)

/-! Ten pixels are sent as two where it should be one and a half: the far end of the frame comes to lie three pixels
beyond the picture, where almost four are allowed for. -/

theorem coordinates_drift_beyond : Is (1000 : ℚ) ((1000 : ℚ) : ℝ) ∧ Is (3 / 20 : ℚ) ((3 / 20 : ℚ) : ℝ) ∧
    0 < ((1000 : ℚ) : ℝ) ∧ 0 < ((3 / 20 : ℚ) : ℝ) ∧ ((3 / 20 : ℚ) : ℝ) ≤ 1 ∧
    1 / 2 ≤ ((10 : UInt32).toNat : ℝ) * ((3 / 20 : ℚ) : ℝ) ∧
    Picture.sentSide (3 / 20 : ℚ) 10 = 2 ∧ edge (1000 : ℚ) (3 / 20) 2 1000 = 13 ∧
    |((13 : Int) : ℝ) - ((1000 : ℚ) : ℝ) * (10 : UInt32).toNat / ((1000 : ℚ) : ℝ)| ≤
      1 / (2 * ((3 / 20 : ℚ) : ℝ)) + 1 / 2 := by
  have hs : Is (1000 : ℚ) ((1000 : ℚ) : ℝ) := ⟨rfl, rfl⟩
  have hr : Is (3 / 20 : ℚ) ((3 / 20 : ℚ) : ℝ) := ⟨rfl, rfl⟩
  have hσ : 0 < ((1000 : ℚ) : ℝ) := by norm_num
  have h0 : 0 < ((3 / 20 : ℚ) : ℝ) := by norm_num
  have h1 : ((3 / 20 : ℚ) : ℝ) ≤ 1 := by norm_num
  have hten : (10 : UInt32).toNat = 10 := rfl
  have hn : 1 / 2 ≤ ((10 : UInt32).toNat : ℝ) * ((3 / 20 : ℚ) : ℝ) := by
    rw [hten]
    norm_num
  have hsent : Picture.sentSide (3 / 20 : ℚ) 10 = 2 := by decide +kernel
  have hedge : edge (1000 : ℚ) (3 / 20) 2 1000 = 13 := by decide +kernel
  have hdrift := ((coordinates_drift hs hr hσ h0 h1).1 10 1000 _ hn hs hσ.le le_rfl).2
  rw [hsent, hedge] at hdrift
  exact ⟨hs, hr, hσ, h0, h1, hn, hsent, hedge, hdrift⟩

end Normalized
end Pinpoint
