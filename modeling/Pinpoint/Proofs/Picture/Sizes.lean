import Pinpoint.Picture.Fit
import Pinpoint.Proofs.Scalar.Exact
/-!
# Sizes — how large pictures come out

A picture in another mode is as large as before, a resized picture has the size that was asked for, and a side that is
scaled by at least one is not shrunk (`scaledSide_mem`).  Corners of boxes are signed and extents are not, so that a box
can begin at every pixel of a picture only if no side takes all 32 bits (`Addressable`).
-/
namespace Pinpoint
namespace Picture

open Scalar (Is nearest)

/-- **Every pixel can be the corner of a box.** -/
def Addressable (p : Picture) : Prop := p.w < 2 ^ 31 ∧ p.h < 2 ^ 31

theorem width_toLuma (p : Picture) : p.toLuma.width = p.width := by unfold toLuma; split <;> rfl
theorem height_toLuma (p : Picture) : p.toLuma.height = p.height := by unfold toLuma; split <;> rfl

theorem w_toLuma (p : Picture) : p.toLuma.w = p.w := congrArg UInt32.toNat p.width_toLuma
theorem h_toLuma (p : Picture) : p.toLuma.h = p.h := congrArg UInt32.toNat p.height_toLuma

theorem isEmpty_toLuma (p : Picture) : p.toLuma.isEmpty = p.isEmpty := by
  rw [isEmpty, isEmpty, p.width_toLuma, p.height_toLuma]

theorem isEmpty_eq_false_iff {p : Picture} : p.isEmpty = false ↔ 0 < p.w ∧ 0 < p.h := by
  rw [isEmpty, Bool.or_eq_false_iff, beq_eq_false_iff_ne, beq_eq_false_iff_ne, ne_eq, ne_eq, ← UInt32.toNat_inj,
    ← UInt32.toNat_inj]
  exact and_congr Nat.pos_iff_ne_zero.symm Nat.pos_iff_ne_zero.symm

theorem width_toRgba (p : Picture) : p.toRgba.width = p.width := by unfold toRgba; split <;> rfl
theorem height_toRgba (p : Picture) : p.toRgba.height = p.height := by unfold toRgba; split <;> rfl

theorem mode_toRgba (p : Picture) : p.toRgba.mode = .rgba := by
  unfold toRgba
  split
  · assumption
  · rfl

theorem Addressable.toLuma {p : Picture} (hp : p.Addressable) : p.toLuma.Addressable := by
  unfold Addressable w h
  rw [p.width_toLuma, p.height_toLuma]
  exact hp

theorem width_ofSamples (w h : UInt32) (m : PixelMode) (f : Nat → Nat → Nat → UInt16) : (ofSamples w h m f).width = w := by
  unfold ofSamples
  split <;> rfl

theorem height_ofSamples (w h : UInt32) (m : PixelMode) (f : Nat → Nat → Nat → UInt16) : (ofSamples w h m f).height = h := by
  unfold ofSamples
  split <;> rfl

theorem width_resize (k : Resample.Kernel) (p : Picture) (w h : UInt32) : (Resample.resize k p w h).width = w := by
  unfold Resample.resize
  split
  · rename_i hs
    exact hs.1.symm
  · exact width_ofSamples ..

theorem height_resize (k : Resample.Kernel) (p : Picture) (w h : UInt32) : (Resample.resize k p w h).height = h := by
  unfold Resample.resize
  split
  · rename_i hs
    exact hs.2.symm
  · exact height_ofSamples ..

/-! ## Scaled sides -/

variable {α : Type} [Scalar α]

theorem toNat_scaledSide (n : UInt32) (f : α) :
    (scaledSide n f).toNat = max (Scalar.roundUInt32 (Scalar.ofNat n.toNat * f)).toNat 1 := by
  unfold scaledSide
  generalize Scalar.roundUInt32 (Scalar.ofNat n.toNat * f) = m
  show (if m ≤ 1 then 1 else m : UInt32).toNat = _
  have h1 : (1 : UInt32).toNat = 1 := rfl
  split
  · rename_i h
    rw [UInt32.le_iff_toNat_le] at h
    omega
  · rename_i h
    rw [UInt32.le_iff_toNat_le] at h
    omega

variable [Scalar.Exact α]

/-- A side that is scaled by one or more is not shrunk, not even where 32 bits do not hold it. -/
theorem le_scaledSide {f : α} {r : ℝ} (hf : Is f r) (h1 : 1 ≤ r) (n : UInt32) : n.toNat ≤ (scaledSide n f).toNat := by
  have hn := n.toNat_lt
  have hle : (n.toNat : ℝ) ≤ n.toNat * r := le_mul_of_one_le_right (Nat.cast_nonneg _) h1
  have hlo : (n.toNat : Int) ≤ nearest (n.toNat * r) := Scalar.le_nearest (by rwa [Int.cast_natCast])
  rw [toNat_scaledSide, Scalar.roundUInt32, Scalar.toUInt32, ((Is.ofNat (α := α) n.toNat).mul hf).toInt_round,
    UInt32.toNat_ofNat']
  omega

theorem scaledSide_mem {n limit : UInt32} {f : α} {r : ℝ} (hf : Is f r) (h1 : 1 ≤ r) (hr : n.toNat * r ≤ limit.toNat)
    (hn : 0 < n.toNat) : n.toNat ≤ (scaledSide n f).toNat ∧ (scaledSide n f).toNat ≤ limit.toNat := by
  have hlim := limit.toNat_lt
  have hle : (n.toNat : ℝ) ≤ n.toNat * r := le_mul_of_one_le_right (Nat.cast_nonneg _) h1
  have hlo : (n.toNat : Int) ≤ nearest (n.toNat * r) := Scalar.le_nearest (by rwa [Int.cast_natCast])
  have hhi : nearest (n.toNat * r) ≤ (limit.toNat : Int) := Scalar.nearest_le (by rwa [Int.cast_natCast])
  have hs := ((Is.ofNat (α := α) n.toNat).mul hf).roundUInt32 (by omega) (by omega)
  rw [toNat_scaledSide, hs]
  omega

end Picture
end Pinpoint
