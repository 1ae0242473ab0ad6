import Pinpoint.Picture.Resample
/-!
# Fit — pictures small enough for a model

A model takes pictures up to a longest side and a number of pixels, either of which may be unlimited (zero).  A picture
that respects both is sent as it is; any other is shrunk by the larger of the two ratios that make it fit.
-/
namespace Pinpoint
namespace Picture

variable {α : Type} [Scalar α]

/-- The ratio by which a picture has to shrink, at most one. -/
def fitRatio (width height maxSide maxPixels : Nat) : α :=
  let longest := max width height
  let pixels : α := Scalar.ofNat width * Scalar.ofNat height
  let bySide : α :=
    if 0 < maxSide ∧ maxSide < longest then
      Scalar.min (Scalar.ofInt 1) (Scalar.ofNat maxSide / Scalar.ofNat longest)
    else Scalar.ofInt 1
  if 0 < maxPixels ∧ Scalar.ofNat maxPixels < pixels then
    Scalar.min bySide (Scalar.sqrt (Scalar.ofNat maxPixels / pixels))
  else bySide

/-- A side scaled and rounded, never below one. -/
def scaledSide (n : UInt32) (f : α) : UInt32 := max (Scalar.roundUInt32 (Scalar.ofNat n.toNat * f)) 1

/-- A picture as a model gets it, and how far it was shrunk. -/
structure Fitted (α : Type) where
  picture : Picture
  ratio   : α
  /-- Whether the picture is the one that came in. -/
  same    : Bool

def fit (p : Picture) (maxSide maxPixels : Nat) : Fitted α :=
  let ratio : α := fitRatio p.w p.h maxSide maxPixels
  if Scalar.ofInt 1 ≤ ratio then ⟨p, Scalar.ofInt 1, true⟩
  else ⟨Resample.resize .triangle p (scaledSide p.width ratio) (scaledSide p.height ratio), ratio, false⟩

end Picture
end Pinpoint
