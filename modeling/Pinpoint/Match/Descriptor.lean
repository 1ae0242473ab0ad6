import Pinpoint.Match.Corner
import Pinpoint.Picture.Resample
import Pinpoint.Settings
import Pinpoint.Random
/-!
# Descriptor — what a corner looks like

A corner is described by 256 bits: each says which of two nearby pixels of the blurred picture is darker.  The pairs are
fixed, and turned with the direction in which the surroundings of the corner are brighter.  Two corners look alike when
few of their bits differ.
-/
namespace Pinpoint
namespace Match

structure Descriptor where
  a : UInt64
  b : UInt64
  c : UInt64
  d : UInt64
  deriving DecidableEq, Repr, Inhabited

namespace Descriptor

/-- The number of set bits, by adding neighbouring fields of growing width. -/
def bitCount (x : UInt64) : Nat :=
  let everySecond : UInt64 := 0x5555555555555555
  let everyPair : UInt64   := 0x3333333333333333
  let everyHalf : UInt64   := 0x0f0f0f0f0f0f0f0f
  let ones : UInt64        := 0x0101010101010101
  let pairs := x - ((x >>> 1) &&& everySecond)
  let fours := (pairs &&& everyPair) + ((pairs >>> 2) &&& everyPair)
  let bytes := (fours + (fours >>> 4)) &&& everyHalf
  ((bytes * ones) >>> 56).toNat

/-- The number of bits that differ. -/
def distance (p q : Descriptor) : Nat :=
  bitCount (p.a ^^^ q.a) + bitCount (p.b ^^^ q.b) + bitCount (p.c ^^^ q.c) + bitCount (p.d ^^^ q.d)

/-- A word of bits, the first in the lowest place. -/
def wordOf (bits : List Bool) : UInt64 := bits.foldr (fun b w => (w <<< 1) ||| (if b then 1 else 0)) 0

def ofBits (bits : List Bool) : Descriptor :=
  ⟨wordOf (bits.take 64), wordOf ((bits.drop 64).take 64), wordOf ((bits.drop 128).take 64), wordOf (bits.drop 192)⟩

end Descriptor

/-! ## The pattern of pairs -/

/-- The radius of the disc that the pairs are drawn from. -/
def patternRadius : Int := 13

/-- The first of `fuel` drawn points that is in the disc. -/
def pointFrom {σ : Type} (next : σ → Int × σ) : (fuel : Nat) → σ → (Int × Int) × σ
  | 0, s        => ((0, 0), s)
  | fuel + 1, s =>
    let x := next s
    let y := next x.2
    if x.1 * x.1 + y.1 * y.1 ≤ patternRadius * patternRadius then ((x.1, y.1), y.2) else pointFrom next fuel y.2

def pairsFrom {σ : Type} (next : σ → Int × σ) : (count : Nat) → σ → List ((Int × Int) × (Int × Int))
  | 0, _         => []
  | count + 1, s =>
    let p := pointFrom next 256 s
    let q := pointFrom next 256 p.2
    (p.1, q.1) :: pairsFrom next count q.2

/-- **The 256 pairs**, the same for every picture. -/
def pattern : List ((Int × Int) × (Int × Int)) :=
  pairsFrom (Random.between (-patternRadius) patternRadius) 256 (Random.ofSeed 0x0b1ef00d)

/-! ## Direction and bits -/

/-- The radius of the disc whose brightness gives the direction. -/
def directionRadius : Int := 15

/-- The offsets of a disc, row after row. -/
def disc (r : Int) : List (Int × Int) :=
  let span := (List.range (2 * r + 1).toNat).map fun (i : Nat) => (i : Int) - r
  span.flatMap fun dy => span.filterMap fun dx => if dx * dx + dy * dy ≤ r * r then some (dx, dy) else none

/-- The disc that gives the direction. -/
def directionDisc : List (Int × Int) := disc directionRadius

/-- Where the brightness around a corner lies: the sums of the offsets, weighted by brightness. -/
def moments (g : Picture) (x y : Nat) : Int × Int :=
  directionDisc.foldl (fun m o =>
    let v := Corner.level g x y o
    (m.1 + o.1 * v, m.2 + o.2 * v)) (0, 0)

def direction (g : Picture) (x y : Nat) : Float32 :=
  let m := moments g x y
  (Float32.ofInt m.2).atan2 (Float32.ofInt m.1)

/-- A point turned by an angle of given sine and cosine, to the nearest pixel. -/
@[specialize]
def turn {ν : Type} [Scalar ν] (sin cos : ν) (p : Int × Int) : Int × Int :=
  let x : ν := Scalar.ofInt p.1
  let y : ν := Scalar.ofInt p.2
  (Scalar.toInt32 (Scalar.round (x * cos - y * sin)), Scalar.toInt32 (Scalar.round (x * sin + y * cos)))

@[specialize]
def describe {ν : Type} [Scalar ν] (smooth : Picture) (x y : Nat) (sin cos : ν) : Descriptor :=
  Descriptor.ofBits <| pattern.map fun p =>
    decide (Corner.level smooth x y (turn sin cos p.1) < Corner.level smooth x y (turn sin cos p.2))

/-! ## Keypoints -/

structure Keypoint where
  x          : Nat
  y          : Nat
  angle      : Float32
  descriptor : Descriptor
  deriving Inhabited

namespace Keypoint

/-- How far a keypoint stays from the edge. -/
def border : Nat := 20

def inBorder (g : Picture) (c : Corner) : Bool :=
  border ≤ c.x && border ≤ c.y && c.x < g.w - border && c.y < g.h - border

/-- The places of the keypoints of a picture, strongest first. -/
def corners (g : Picture) (threshold limit : Nat) : List Corner :=
  if g.w ≤ 2 * border ∨ g.h ≤ 2 * border then []
  else Corner.thin g.w g.h limit
    (((Corner.detect g threshold).filter (inBorder g)).mergeSort Corner.precedes)

/-- **The keypoints of a picture** of brightness. -/
def extract (g : Picture) (threshold limit : Nat) : List Keypoint :=
  match corners g threshold limit with
  | [] => []
  | l  =>
    let smooth := Resample.blur g
    l.map fun c =>
      let angle := direction g c.x c.y
      ⟨c.x, c.y, angle, describe smooth c.x c.y angle.sin angle.cos⟩

end Keypoint
end Match
end Pinpoint
