import Pinpoint.Match.Integral
import Pinpoint.Match.Peaks
import Pinpoint.Picture.Fit
import Pinpoint.Box.Listing
import Pinpoint.Settings
import Pinpoint.Signal
/-!
# Template — where a picture occurs in another

Every window of the scene of the size of the reference is scored by the correlation of its deviations from its mean with
those of the reference: one for a copy, also a brighter or a starker one, minus one for a negative.  Sums over windows
come from integral tables, so that only the cross term is formed for each window, row by row in narrow numbers.

The search first runs on both pictures shrunk; what is promising there is looked at again around the same place at full
size.
-/
namespace Pinpoint
namespace Match

variable {ν ω : Type} [Scalar ν] [Scalar ω] [Widening ν ω]

/-- The deviations of a reference from its mean, with their length; never all zero. -/
structure Template (ν ω : Type) where
  width  : Nat
  height : Nat
  rows   : Array (Array ν)
  norm   : ω

/-- The smallest length of a reference that is not flat. -/
def flatness : ω := Scalar.ratio 1 1000000

@[specialize]
def Template.ofPlane? (p : Plane ν) : Option (Template ν ω) :=
  let values : List ω := p.values.map Widening.widen
  let mean : ω := Scalar.sum values / Scalar.ofNat values.length
  let rows : Array (Array ν) := p.rows.map fun r => r.map fun v => Widening.narrow ((Widening.widen v : ω) - mean)
  let norm := Scalar.sqrt (Scalar.sum (rows.toList.flatMap fun r => r.toList.map fun v => Scalar.sq (Widening.widen v : ω)))
  if flatness < norm then some ⟨p.width, p.height, rows, norm⟩ else none

/-- A scene with its tables and the reference looked for in it. -/
structure Search (ν ω : Type) where
  scene    : Plane ν
  integral : Integral ω
  template : Template ν ω

namespace Search

/-- No search when the reference is larger than the scene, or flat. -/
@[specialize]
def make? (scene reference : Picture) : Option (Search ν ω) :=
  if scene.width < reference.width ∨ scene.height < reference.height then none
  else
    let plane : Plane ν := Plane.ofPicture scene
    (Template.ofPlane? (ω := ω) (Plane.ofPicture reference : Plane ν)).map fun t => ⟨plane, Integral.ofPlane plane, t⟩

variable (s : Search ν ω)

/-- The number of places across and down. -/
def across : Nat := s.scene.width - s.template.width + 1
def down : Nat := s.scene.height - s.template.height + 1

/-- The sum of products of `left` more values of two rows, from offset `x + i` and `i`. -/
@[specialize]
def rowProduct (a b : Array ν) (x : Nat) : (left i : Nat) → ν → ν
  | 0, _, acc        => acc
  | left + 1, i, acc =>
    rowProduct a b x left (i + 1) (acc + a.getD (x + i) (Scalar.ofInt 0) * b.getD i (Scalar.ofInt 0))

/-- The sum of products of a window with the reference. -/
@[specialize]
def cross (x y : Nat) : ω :=
  (List.range s.template.height).foldl (fun acc j =>
    acc + Widening.widen (rowProduct (s.scene.row (y + j)) (s.template.rows.getD j #[]) x s.template.width 0
      (Scalar.ofInt 0))) (Scalar.ofInt 0)

/-- How much a window deviates from its mean, squared and summed. -/
@[specialize]
def spread (x y : Nat) : ω :=
  let n : ω := Scalar.ofNat (s.template.width * s.template.height)
  let sum := s.integral.sums.window x y s.template.width s.template.height
  s.integral.squares.window x y s.template.width s.template.height - sum * sum / n

/-- **The correlation of the reference with the window at a place**; a flat window scores zero. -/
@[specialize]
def scoreAt (x y : Nat) : ν :=
  let n : ω := Scalar.ofNat (s.template.width * s.template.height)
  let spread := s.spread x y
  if spread ≤ flatness * n then Scalar.ofInt 0
  else Widening.narrow (s.cross x y / (s.template.norm * Scalar.sqrt spread))

@[specialize]
def scoreMap : Peak.Map ν :=
  ⟨s.across, (Array.range (s.across * s.down)).map fun i => some (s.scoreAt (i % s.across) (i / s.across))⟩

/-- The whole numbers from `lo` up to and including `hi`. -/
def upTo (lo hi : Nat) : List Nat := List.range' lo (hi + 1 - lo)

/-- The best place at most `radius` from a place, the first of several in row order. -/
@[specialize]
def refine (radius x y : Nat) : Option (Peak ν) :=
  (upTo (y - radius) (min (y + radius) (s.down - 1))).foldl (fun best y =>
    (upTo (x - radius) (min (x + radius) (s.across - 1))).foldl (fun (best : Option (Peak ν)) x =>
      let score := s.scoreAt x y
      match best with
      | some b => if b.score < score then some ⟨score, x, y⟩ else some b
      | none   => some ⟨score, x, y⟩) best) none

end Search

/-! ## From coarse to fine -/

/-- How far both pictures are shrunk for the coarse pass: the shorter side of the reference keeps its least length. -/
def coarseFactor (c : TemplateSettings ν ω) (width height : UInt32) : ω :=
  let short := max (min width.toNat height.toNat) 1
  Scalar.clamp (Scalar.ofDecimal false 22250738585072014 (-324)) (Scalar.ofInt 1)
    (Scalar.max c.coarseScale (Scalar.ratio c.minCoarseSide short))

/-- A search over both pictures shrunk, when shrinking leaves something to search. -/
@[specialize]
def coarse? (scene reference : Picture) (factor : ω) : Option (Search ν ω) :=
  if factor < Scalar.ofInt 1 then
    let shrink (p : Picture) : Picture :=
      Resample.resize .triangle p (Picture.scaledSide p.width factor) (Picture.scaledSide p.height factor)
    Search.make? (shrink scene) (shrink reference)
  else none

/-- Whether a score reaches the threshold, here a quarter lower. -/
def slack (threshold : ν) : ν := threshold - Scalar.ratio 1 4

def toNatSaturating (v : ω) : Nat := (Scalar.toInt 0 0xffffffffffffffff v).toNat

/-- The places of the full search that the peaks of a coarse one lead to. -/
@[specialize]
def refined (c : TemplateSettings ν ω) (full coarse : Search ν ω) (factor : ω) : List (Peak ν) :=
  let radius := toNatSaturating (Scalar.ceil (Scalar.ofInt 1 / factor)) + 1
  let back (v : Nat) : Nat := toNatSaturating (Scalar.round (Scalar.ofNat v / factor))
  let peaks := Peak.pick (coarse.template.width / 2) (coarse.template.height / 2) (slack c.threshold)
    (c.maxMatches * 4) coarse.scoreMap
  peaks.filterMap fun p => (full.refine radius (back p.x) (back p.y)).filter fun q => decide (c.threshold ≤ q.score)

/-- The first `limit` places, best first, that are not near an earlier one. -/
@[specialize]
def accept (w h limit : Nat) (l : List (Peak ν)) : List (Peak ν) :=
  (l.mergeSort fun a b => decide (b.score ≤ a.score)).foldl (fun kept p =>
    if kept.length < limit && !(kept.any fun k => Peak.near w h k.x k.y p.x p.y) then kept ++ [p] else kept) []

/-- The best of the scores, given one of them. -/
def bestScore : List ν → ν
  | []     => Scalar.ofInt 0
  | s :: l => l.foldl Scalar.max s

/-- The accepted places as boxes; overlapping ones become one, with the best score among them. -/
def signalOf (width height : UInt32) (l : List (Peak ν)) : TemplateSignal ν :=
  let raw := l.map fun p => ((⟨Int32.ofInt p.x, Int32.ofInt p.y, width, height⟩ : Box), p.score)
  let boxes := Box.mergeOverlapping (raw.map (·.1))
  ⟨boxes, boxes.map fun b => bestScore ((raw.filter fun r => b.overlaps r.1).map (·.2))⟩

/-- The places of the reference in the scene, before those near a better one are dropped. -/
@[specialize]
def places (c : TemplateSettings ν ω) (scene reference : Picture) (full : Search ν ω) : List (Peak ν) :=
  let factor : ω := coarseFactor c reference.width reference.height
  match coarse? scene reference factor with
  | some coarse => refined c full coarse factor
  | none        => Peak.pick (reference.w / 2) (reference.h / 2) c.threshold c.maxMatches full.scoreMap

/-- **Where the reference occurs in the scene**, with a score for each place. -/
@[specialize]
def findTemplate (c : TemplateSettings ν ω) (scene reference : Picture) : TemplateSignal ν :=
  let scene := scene.toLuma
  let reference := reference.toLuma
  if reference.isEmpty || c.maxMatches == 0 then ⟨[], []⟩
  else match (Search.make? scene reference : Option (Search ν ω)) with
    | none      => ⟨[], []⟩
    | some full =>
      signalOf reference.width reference.height
        (accept (reference.w / 2) (reference.h / 2) c.maxMatches (places c scene reference full))

end Match
end Pinpoint
