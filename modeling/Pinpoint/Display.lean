import Pinpoint.Box
/-!
# Display — captured pixels and logical pixels

A captured picture counts physical pixels, a pointer is placed in logical ones; on each axis a physical coordinate is a
logical one times the display scale.  A scale that makes no sense counts as one.
-/
namespace Pinpoint

/-- Sizes and scale of a captured screen. -/
structure Display (α : Type) where
  monitor        : Nat
  scaleX         : α
  scaleY         : α
  physicalWidth  : UInt32
  physicalHeight : UInt32
  logicalWidth   : UInt32
  logicalHeight  : UInt32
  deriving Repr, Inhabited

/-- The two display scales, each finite and positive. -/
structure Scaling (α : Type) where
  x : α
  y : α
  deriving Repr, Inhabited

namespace Display

variable {α : Type} [Scalar α]

def ofSize (width height : UInt32) (scale : α) : Display α :=
  let scale := if Scalar.ofInt 0 < scale then scale else Scalar.ofInt 1
  { monitor := 0, scaleX := scale, scaleY := scale, physicalWidth := width, physicalHeight := height
    logicalWidth := Scalar.roundUInt32 (Scalar.ofNat width.toNat / scale)
    logicalHeight := Scalar.roundUInt32 (Scalar.ofNat height.toNat / scale) }

end Display

namespace Scaling

variable {α : Type} [Scalar α]

def sane (s : α) : α := if Scalar.isFinite s ∧ Scalar.ofInt 0 < s then s else Scalar.ofInt 1

def make (x y : α) : Scaling α := ⟨sane x, sane y⟩

def ofDisplay (d : Display α) : Scaling α := make d.scaleX d.scaleY

def isIdentity (s : Scaling α) : Bool :=
  s.x ≤ Scalar.ofInt 1 && Scalar.ofInt 1 ≤ s.x && s.y ≤ Scalar.ofInt 1 && Scalar.ofInt 1 ≤ s.y

def nearest32 (v : α) : Int := Scalar.toInt32 (Scalar.round v)

def toLogical (s : Scaling α) (p : Int × Int) : Int × Int :=
  (nearest32 (Scalar.ofInt p.1 / s.x), nearest32 (Scalar.ofInt p.2 / s.y))

def toPhysical (s : Scaling α) (p : Int × Int) : Int × Int :=
  (nearest32 (Scalar.ofInt p.1 * s.x), nearest32 (Scalar.ofInt p.2 * s.y))

/-- The near corner is held to 32 bits before the extents are taken, the far corner is not. -/
def boxToLogical (s : Scaling α) (b : Box) : Box :=
  let p := s.toLogical (b.left, b.top)
  Box.ofCorners p.1 p.2 (Scalar.roundInt (Scalar.ofInt b.right / s.x)) (Scalar.roundInt (Scalar.ofInt b.bottom / s.y))

/-- The near corner is held to 32 bits before the extents are taken, the far corner is not. -/
def boxToPhysical (s : Scaling α) (b : Box) : Box :=
  let p := s.toPhysical (b.left, b.top)
  Box.ofCorners p.1 p.2 (Scalar.roundInt (Scalar.ofInt b.right * s.x)) (Scalar.roundInt (Scalar.ofInt b.bottom * s.y))

end Scaling
end Pinpoint
