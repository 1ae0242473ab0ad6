import Pinpoint.Picture.Fit
import Pinpoint.Settings
import Pinpoint.Fault
/-!
# Zoom — a closer look at part of a picture

A small element is looked for in a part of the picture that is cut out and enlarged.  `Lens` remembers where the part
was and how far each axis was stretched, and carries boxes both ways.  `extend` chooses the part: wide enough for some
widths of the element, at most half the picture, never less than the coarse box it grew from.
-/
namespace Pinpoint

variable {α : Type} [Scalar α]

/-- **A stretched part of a picture**: its corner and the stretch of each axis. -/
structure Lens (α : Type) where
  originX : Int
  originY : Int
  factorX : α
  factorY : α
  deriving Repr, Inhabited

namespace Lens

/-- A box of the part as a box of the whole: each edge shrunk, rounded and moved. -/
def toWhole (s : Lens α) (b : Box) : Box :=
  let edge (v : Int) (f : α) (o : Int) : Int := Scalar.roundInt (Scalar.ofInt v / f) + o
  Box.ofCorners (edge b.left s.factorX s.originX) (edge b.top s.factorY s.originY)
    (edge b.right s.factorX s.originX) (edge b.bottom s.factorY s.originY)

/-- A box of the whole as a box of the part: each edge moved, stretched and rounded. -/
def toPart (s : Lens α) (b : Box) : Box :=
  let edge (v : Int) (f : α) (o : Int) : Int := Scalar.roundInt (Scalar.ofInt (v - o) * f)
  Box.ofCorners (edge b.left s.factorX s.originX) (edge b.top s.factorY s.originY)
    (edge b.right s.factorX s.originX) (edge b.bottom s.factorY s.originY)

end Lens

/-- An enlarged part of a picture. -/
structure Closeup (α : Type) where
  picture    : Picture
  lens       : Lens α
  cropWidth  : UInt32
  cropHeight : UInt32

namespace Zoom

/-- A factor that never shrinks; one that is not finite does nothing. -/
def atLeastOne (f : α) : α := if Scalar.isFinite f then Scalar.max f (Scalar.ofInt 1) else Scalar.ofInt 1

/-- **The part of a picture inside a region**, enlarged by a factor. -/
def cut (p : Picture) (region : Box) (factor : α) : Except Fault (Closeup α) :=
  match region.clip? p.width p.height with
  | none   => .error (.perception ("crop region " ++ region.toText ++ " outside image"))
  | some c =>
    let part := p.crop c.left.toNat c.top.toNat c.width c.height
    let factor := atLeastOne factor
    let width := Picture.scaledSide c.width factor
    let height := Picture.scaledSide c.height factor
    .ok {
      picture := if width = c.width ∧ height = c.height then part else Resample.resize .lanczos part width height
      lens := { originX := c.left, originY := c.top, factorX := Scalar.ratio width.toNat c.width.toNat
                factorY := Scalar.ratio height.toNat c.height.toNat }
      cropWidth := c.width
      cropHeight := c.height }

/-! ## Choosing the region -/

/-- How much the region has to grow to hold `margin` widths of the element; the box itself stands in for a missing
reference. -/
def growth (margin : α) (coarse : Box) (reference : Option (UInt32 × UInt32)) : α :=
  let own := max coarse.width.toNat 1
  let element := max ((reference.map (·.1.toNat)).getD coarse.width.toNat) 1
  Scalar.ofNat element * margin / Scalar.ofNat own

/-- A side of the region: grown, held to half the picture or the box, and to the picture. -/
def side (growth : α) (own whole : UInt32) : Int :=
  let own : α := Scalar.ofNat own.toNat
  let whole : α := Scalar.ofNat whole.toNat
  let grown := if Scalar.ofInt 1 < growth then own * growth else own
  Scalar.roundInt (Scalar.min (Scalar.min grown (Scalar.max (whole / Scalar.ofInt 2) own)) whole)

/-- The near edge of a side of length `n` around a centre, moved onto the picture. -/
def start (center : α) (n : Int) (whole : UInt32) : Int :=
  max 0 (min (max (whole.toNat - n) 0) (Scalar.roundInt (center - Scalar.ofInt n / Scalar.ofInt 2)))

/-- **The region to look at closely** around a coarse box. -/
def extend (margin : α) (coarse : Box) (reference : Option (UInt32 × UInt32)) (width height : UInt32) : Box :=
  let g := growth margin coarse reference
  let w := side g coarse.width width
  let h := side g coarse.height height
  let c : α × α := coarse.center
  let x := start c.1 w width
  let y := start c.2 h height
  let region := Box.ofCorners x y (x + w) (y + h)
  (region.clip? width height).getD region

/-- The factor that fills the picture with a region, from one up to a limit. -/
def factor (maxUpscale : α) (region : Box) (width height : UInt32) : α :=
  if region.isEmpty then Scalar.ofInt 1
  else
    let fx : α := Scalar.ratio width.toNat region.width.toNat
    let fy : α := Scalar.ratio height.toNat region.height.toNat
    Scalar.max (Scalar.min (Scalar.min fx fy) maxUpscale) (Scalar.ofInt 1)

/-- A closer look at a region. -/
def look (settings : ZoomSettings α) (p : Picture) (region : Box) : Except Fault (Closeup α) :=
  cut p region (factor settings.maxUpscale region p.width p.height)

end Zoom
end Pinpoint
