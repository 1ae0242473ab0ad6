import Pinpoint.Box
/-!
# Normalized — boxes in the model's frame

A model answers in a frame of its own, from zero to some scale on both axes of the picture it was sent, with the corners
in any order.  `toPixels` takes such a box to pixels of the picture before it was shrunk for the model.
-/
namespace Pinpoint

structure Normalized (α : Type) where
  xMin : α
  yMin : α
  xMax : α
  yMax : α
  deriving DecidableEq, Repr, Inhabited

namespace Normalized

variable {α : Type} [Scalar α]

def isFinite (b : Normalized α) : Bool :=
  Scalar.isFinite b.xMin && Scalar.isFinite b.yMin && Scalar.isFinite b.xMax && Scalar.isFinite b.yMax

/-- The box in pixels, if it has any area. -/
def toPixels (b : Normalized α) (scale : α) (sentWidth sentHeight : UInt32) (ratio : α) : Option Box :=
  if scale ≤ Scalar.ofInt 0 ∨ ratio ≤ Scalar.ofInt 0 then none
  else
    let fx := Scalar.ofNat sentWidth.toNat / scale / ratio
    let fy := Scalar.ofNat sentHeight.toNat / scale / ratio
    let c := Box.ofCorners (Scalar.roundInt (Scalar.min b.xMin b.xMax * fx))
      (Scalar.roundInt (Scalar.min b.yMin b.yMax * fy)) (Scalar.roundInt (Scalar.max b.xMin b.xMax * fx))
      (Scalar.roundInt (Scalar.max b.yMin b.yMax * fy))
    if c.isEmpty then none else some c

end Normalized
end Pinpoint
