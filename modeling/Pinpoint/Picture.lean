import Pinpoint.Box
/-!
# Picture — rows of pixels

A pixel is one to four samples, gray or three colours, each with or without opacity; a sample is one byte, or two with the
high one first.  A picture holds the pixels row after row, and exactly as many bytes as its size says.  `byte` reads a byte
by column, row and place in the pixel, and `ofFn` builds a picture from what is to be read there; `sample` and `ofSamples`
do so for samples.
-/
namespace Pinpoint

/-- What is sampled of a pixel. -/
inductive Samples where
  | luma
  | lumaAlpha
  | rgb
  | rgba
  deriving DecidableEq, Repr, Inhabited

namespace Samples

def count : Samples → Nat
  | luma      => 1
  | lumaAlpha => 2
  | rgb       => 3
  | rgba      => 4

def isGray (s : Samples) : Bool := s = luma ∨ s = lumaAlpha

/-- The number of the opacity among the samples. -/
def alpha? : Samples → Option Nat
  | lumaAlpha => some 1
  | rgba      => some 3
  | _         => none

end Samples

/-- A kind of pixels: what is sampled, and whether by sixteen bits instead of eight. -/
structure PixelMode where
  samples : Samples
  wide    : Bool
  deriving DecidableEq, Repr, Inhabited

namespace PixelMode

def luma : PixelMode := ⟨.luma, false⟩
def rgb : PixelMode := ⟨.rgb, false⟩
def rgba : PixelMode := ⟨.rgba, false⟩

def channels (m : PixelMode) : Nat := m.samples.count

/-- The bytes of a pixel. -/
def bytes (m : PixelMode) : Nat := if m.wide then 2 * m.channels else m.channels

/-- The largest sample. -/
def top (m : PixelMode) : UInt16 := if m.wide then 65535 else 255

/-- A sample by eight bits: the same part of the largest one, to the nearest. -/
def narrow (m : PixelMode) (v : UInt16) : UInt8 := if m.wide then UInt8.ofNat ((v.toNat + 128) / 257) else v.toUInt8

end PixelMode

structure Picture where
  width     : UInt32
  height    : UInt32
  mode      : PixelMode
  data      : Array UInt8
  size_data : data.size = width.toNat * height.toNat * mode.bytes

namespace Picture

def w (p : Picture) : Nat := p.width.toNat
def h (p : Picture) : Nat := p.height.toNat

/-- The place of a byte. -/
def index (p : Picture) (x y c : Nat) : Nat := (y * p.w + x) * p.mode.bytes + c

@[inline] def byte (p : Picture) (x y c : Nat) : UInt8 := p.data.getD (p.index x y c) 0

/-- The picture whose bytes a function of column, row and place in the pixel gives. -/
@[inline] def ofFn (width height : UInt32) (mode : PixelMode) (f : Nat → Nat → Nat → UInt8) : Picture where
  width     := width
  height    := height
  mode      := mode
  data      := Array.ofFn (n := width.toNat * height.toNat * mode.bytes) fun i =>
    let k := i.val / mode.bytes
    f (k % width.toNat) (k / width.toNat) (i.val % mode.bytes)
  size_data := by simp

instance : Inhabited Picture := ⟨ofFn 0 0 .luma fun _ _ _ => 0⟩

def isEmpty (p : Picture) : Bool := p.width == 0 || p.height == 0

/-- The part of a picture that starts at a corner; what is beyond the edge reads as zero. -/
def crop (p : Picture) (x y : Nat) (width height : UInt32) : Picture :=
  ofFn width height p.mode fun i j c => p.byte (x + i) (y + j) c

/-! ## Samples -/

/-- A sample by its number in the picture. -/
@[inline] def sampleAt (p : Picture) (i : Nat) : UInt16 :=
  if p.mode.wide then UInt16.ofNat (256 * (p.data.getD (2 * i) 0).toNat + (p.data.getD (2 * i + 1) 0).toNat)
  else (p.data.getD i 0).toUInt16

def sample (p : Picture) (x y c : Nat) : UInt16 := p.sampleAt ((y * p.w + x) * p.mode.channels + c)

/-- The picture whose samples a function of column, row and channel gives. -/
def ofSamples (width height : UInt32) (mode : PixelMode) (f : Nat → Nat → Nat → UInt16) : Picture :=
  if mode.wide then
    ofFn width height mode fun x y c =>
      if c % 2 = 0 then UInt8.ofNat ((f x y (c / 2)).toNat / 256) else (f x y (c / 2)).toUInt8
  else ofFn width height mode fun x y c => (f x y c).toUInt8

/-- Brightness, weighted by how bright the three colours look. -/
def lumaOf (r g b : UInt16) : UInt16 := UInt16.ofNat ((2126 * r.toNat + 7152 * g.toNat + 722 * b.toNat) / 10000)

def gray (p : Picture) (x y : Nat) : UInt16 :=
  if p.mode.samples.isGray then p.sample x y 0 else lumaOf (p.sample x y 0) (p.sample x y 1) (p.sample x y 2)

/-- The brightness by eight bits, whatever the opacity. -/
def toLuma (p : Picture) : Picture :=
  if p.mode = .luma then p else ofFn p.width p.height .luma fun x y _ => p.mode.narrow (p.gray x y)

/-- Three colours and the opacity by eight bits; gray stands for each colour, and what has no opacity is opaque. -/
def toRgba (p : Picture) : Picture :=
  if p.mode = .rgba then p
  else ofFn p.width p.height .rgba fun x y c =>
    if c = 3 then (p.mode.samples.alpha?.map fun a => p.mode.narrow (p.sample x y a)).getD 255
    else p.mode.narrow (p.sample x y (if p.mode.samples.isGray then 0 else c))

end Picture
end Pinpoint
