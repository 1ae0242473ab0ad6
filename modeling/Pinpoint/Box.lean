import Pinpoint.Scalar
/-!
# Box — rectangles of whole pixels

A box has a signed corner and an unsigned extent, each of 32 bits, so it can be empty but never inverted.  Its edges
are read as unbounded integers; `ofCorners` goes back, keeping 32 bits of each corner and extent.  The extents are
differences of 64 bits, so corners that are `2 ^ 63` or more apart count as being in the wrong order.  `Mem` is the view
everything else is explained by: the set of pixels a box covers.
-/
namespace Pinpoint

structure Box where
  x      : Int32
  y      : Int32
  width  : UInt32
  height : UInt32
  deriving DecidableEq, Hashable, Repr, Inhabited

namespace Box

def left (b : Box) : Int := b.x.toInt
def top (b : Box) : Int := b.y.toInt
def right (b : Box) : Int := b.left + b.width.toNat
def bottom (b : Box) : Int := b.top + b.height.toNat

/-- **The pixels of a box.** -/
def Mem (b : Box) (p : Int × Int) : Prop := b.left ≤ p.1 ∧ p.1 < b.right ∧ b.top ≤ p.2 ∧ p.2 < b.bottom

instance : Membership (Int × Int) Box := ⟨Mem⟩

instance (b : Box) (p : Int × Int) : Decidable (p ∈ b) := inferInstanceAs (Decidable (_ ∧ _ ∧ _ ∧ _))

/-- How far it is from one edge to the other, by 64 bits of the difference; `0` if they are negative. -/
def extent (a b : Int) : UInt32 := UInt32.ofNat (Int64.ofInt (b - a)).toInt.toNat

/-- The box between two corners; corners in the wrong order span nothing. -/
def ofCorners (x1 y1 x2 y2 : Int) : Box where
  x      := Int32.ofInt x1
  y      := Int32.ofInt y1
  width  := extent x1 x2
  height := extent y1 y2

/-- The whole of a picture. -/
def ofSize (w h : UInt32) : Box := ⟨0, 0, w, h⟩

def area (b : Box) : Nat := b.width.toNat * b.height.toNat

def isEmpty (b : Box) : Bool := b.width == 0 || b.height == 0

def center {α : Type} [Scalar α] (b : Box) : α × α :=
  (Scalar.ofInt b.left + Scalar.ofNat b.width.toNat / Scalar.ofInt 2,
   Scalar.ofInt b.top + Scalar.ofNat b.height.toNat / Scalar.ofInt 2)

/-- The region two boxes share, if it has any area. -/
def inter? (a b : Box) : Option Box :=
  let c := ofCorners (max a.left b.left) (max a.top b.top) (min a.right b.right) (min a.bottom b.bottom)
  if c.isEmpty then none else some c

def overlaps (a b : Box) : Bool := (a.inter? b).isSome

/-- The smallest box around both. -/
def hull (a b : Box) : Box :=
  ofCorners (min a.left b.left) (min a.top b.top) (max a.right b.right) (max a.bottom b.bottom)

/-- The pixels of both boxes over the pixels of either; `0` when there are none. -/
def iou {α : Type} [Scalar α] (a b : Box) : α :=
  let shared := ((a.inter? b).map area).getD 0
  let either := a.area + b.area - shared
  if either = 0 then Scalar.ofInt 0 else Scalar.ratio shared either

/-- The part of a box on a picture of the given size. -/
def clip? (b : Box) (w h : UInt32) : Option Box := b.inter? (ofSize w h)

def toText (b : Box) : String := s!"({b.left}, {b.top}, {b.width}x{b.height})"

end Box
end Pinpoint
