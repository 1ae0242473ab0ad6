import Pinpoint.Picture
/-!
# Resample — pictures at another size, and blurred

A new size is reached by two passes, first along the columns and then along the rows; every new sample is a weighted mean
of the old ones under a kernel that widens as the picture shrinks.  Values between the passes are neither rounded nor
clamped.  The blur is the same idea with one fixed kernel, for samples of eight bits, rounded down after each pass.

All sums are single precision and run from low index to high.
-/
namespace Pinpoint
namespace Resample

/-! ## Kernels -/

inductive Kernel where
  | triangle
  | lanczos
  deriving DecidableEq, Repr

def pi32 : Float32 := 3.14159265358979323846

def sinc (t : Float32) : Float32 :=
  let a := t * pi32
  if t == 0 then 1 else a.sin / a

def Kernel.radius : Kernel → Float32
  | triangle => 1
  | lanczos  => 3

def Kernel.weight : Kernel → Float32 → Float32
  | triangle, x => if x.abs < 1 then 1 - x.abs else 0
  | lanczos, x  => if x.abs < 3 then sinc x * sinc (x / 3) else 0

/-- The old samples that make up one new sample: the first of them, and the weight of each. -/
structure Taps where
  first   : Nat
  weights : FloatArray

/-- The taps of new sample `o` when `n` samples become `m`; the weights sum to one. -/
def taps (k : Kernel) (n m o : Nat) : Taps :=
  let ratio := Float32.ofNat n / Float32.ofNat m
  let scale := if ratio < 1 then 1 else ratio
  let support := k.radius * scale
  let c := (Float32.ofNat o + 0.5) * ratio
  let left := max 0 (min (n - 1 : Int) (c - support).floor.toInt64.toInt)
  let right := max (left + 1) (min (n : Int) (c + support).ceil.toInt64.toInt)
  let c := c - 0.5
  let ws := (List.range (right - left).toNat).map fun (i : Nat) =>
    k.weight ((Float32.ofInt (left + i) - c) / scale)
  let total := ws.foldl (· + ·) 0
  ⟨left.toNat, ⟨(ws.map fun w => (w / total).toFloat).toArray⟩⟩

/-- The weighted sum of samples `step` apart. -/
def weigh (read : Nat → Float32) (t : Taps) : Float32 := go 0 0
where
  go (i : Nat) (acc : Float32) : Float32 :=
    if i < t.weights.size then go (i + 1) (acc + read (t.first + i) * (t.weights.get! i).toFloat32) else acc
  termination_by t.weights.size - i

def toSample (top : UInt16) (v : Float32) : UInt16 :=
  let v := if v < 0 then 0 else if v > top.toFloat32 then top.toFloat32 else v
  v.round.toUInt16

/-- **A picture at another size.** -/
def resize (k : Kernel) (p : Picture) (width height : UInt32) : Picture :=
  if width = p.width ∧ height = p.height then p
  else
    let ch := p.mode.channels
    let row := p.w * ch
    let down := (Array.range height.toNat).map (taps k p.h height.toNat)
    let between : FloatArray := Id.run do
      let mut out := FloatArray.emptyWithCapacity (height.toNat * row)
      for t in down do
        for i in [0:row] do
          out := out.push (weigh (fun y => (p.sampleAt (y * row + i)).toFloat32) t).toFloat
      return out
    let across := (Array.range width.toNat).map (taps k p.w width.toNat)
    Picture.ofSamples width height p.mode fun x y c =>
      match across[x]? with
      | some t => toSample p.mode.top (weigh (fun i => (between.get! (y * row + i * ch + c)).toFloat32) t)
      | none   => 0

/-! ## Blur -/

/-- The nine weights of a Gaussian of width two. -/
def gaussian : List Float32 :=
  let ws := (List.range 9).map fun (i : Nat) =>
    let d := Float32.ofInt ((i : Int) - 4)
    (1 / ((2 * pi32).sqrt * 2)) * (-(d * d) / (2 * (2 * 2))).exp
  let total := ws.foldl (· + ·) 0
  ws.map (· / total)

def cutByte (v : Float32) : UInt8 := if v ≥ 255 then 255 else if v ≤ 0 then 0 else v.toUInt8

/-- A coordinate moved and kept inside. -/
def inside (n i : Nat) (step : Int) : Nat := (max 0 (min (n - 1 : Int) (i + step))).toNat

def blurPass (p : Picture) (dx dy : Int) : Picture :=
  let ws := gaussian.zipIdx
  Picture.ofFn p.width p.height p.mode fun x y c =>
    cutByte <| ws.foldl (fun acc wi =>
      let k := (wi.2 : Int) - 4
      acc + (p.byte (inside p.w x (k * dx)) (inside p.h y (k * dy)) c).toFloat32 * wi.1) 0

/-- Rows first, then columns; the edge pixels go on beyond the edges. -/
def blur (p : Picture) : Picture := blurPass (blurPass p 1 0) 0 1

end Resample
end Pinpoint
