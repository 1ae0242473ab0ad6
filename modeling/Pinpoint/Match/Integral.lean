import Pinpoint.Picture
/-!
# Integral — sums over windows of a plane

A plane is a grid of values in rows.  The table of a plane holds, for every corner, the sum of what is above and to the
left of it, so that the sum over any window is read off four corners.
-/
namespace Pinpoint
namespace Match

/-- Rows of values, each as long as the plane is wide. -/
structure Plane (ν : Type) where
  width  : Nat
  height : Nat
  rows   : Array (Array ν)

namespace Plane

variable {ν : Type} [Scalar ν]

def row (p : Plane ν) (y : Nat) : Array ν := p.rows.getD y #[]

def value (p : Plane ν) (x y : Nat) : ν := (p.row y).getD x (Scalar.ofInt 0)

def ofFn (width height : Nat) (f : Nat → Nat → ν) : Plane ν :=
  ⟨width, height, (Array.range height).map fun y => (Array.range width).map fun x => f x y⟩

/-- The brightness of a picture. -/
def ofPicture (p : Picture) : Plane ν :=
  let g := p.toLuma
  ofFn g.w g.h fun x y => Scalar.ofNat (g.byte x y 0).toNat

def values (p : Plane ν) : List ν := p.rows.toList.flatMap Array.toList

end Plane

/-! ## Tables of sums -/

/-- A sum so far, after none, one, two and so on of the values. -/
@[specialize]
def runningSums {α : Type} [Scalar α] : α → List α → List α
  | acc, []     => [acc]
  | acc, v :: l => acc :: runningSums (acc + v) l

/-- The rows of a table below a row that is already there. -/
@[specialize]
def tableBelow {α : Type} [Scalar α] : (above : List α) → List (List α) → List (List α)
  | above, []     => [above]
  | above, r :: l => above :: tableBelow (List.zipWith (· + ·) above (runningSums (Scalar.ofInt 0) r)) l

/-- The sums of the values above and to the left of every corner. -/
structure Table (α : Type) where
  rows : Array (Array α)

namespace Table

variable {α : Type} [Scalar α]

@[specialize]
def ofRows (width : Nat) (rows : List (List α)) : Table α :=
  ⟨((tableBelow (List.replicate (width + 1) (Scalar.ofInt 0)) rows).map List.toArray).toArray⟩

@[inline] def corner (t : Table α) (x y : Nat) : α := (t.rows.getD y #[]).getD x (Scalar.ofInt 0)

/-- **The sum over a window.** -/
@[inline] def window (t : Table α) (x y w h : Nat) : α :=
  t.corner (x + w) (y + h) - t.corner x (y + h) - t.corner (x + w) y + t.corner x y

end Table

/-- The tables of the values of a plane and of their squares, in wide numbers. -/
structure Integral (ω : Type) where
  sums    : Table ω
  squares : Table ω

@[specialize]
def Integral.ofPlane {ν ω : Type} [Scalar ν] [Scalar ω] [Widening ν ω] (p : Plane ν) : Integral ω :=
  let rows := p.rows.toList.map fun r => r.toList.map fun v => (Widening.widen v : ω)
  ⟨Table.ofRows p.width rows, Table.ofRows p.width (rows.map fun r => r.map Scalar.sq)⟩

end Match
end Pinpoint
