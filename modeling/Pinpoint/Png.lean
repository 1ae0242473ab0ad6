import Pinpoint.Picture
import Pinpoint.Fault
import Pinpoint.Png.Deflate
import Pinpoint.Text.Base64
/-!
# Png — pictures as files

A file is a signature and chunks: the header, the packed rows, the end.  Each row is preceded by the way in which its bytes
were made smaller: as they are, or as differences to the byte on the left, above, the mean of these, or the one of three
that a plane through the neighbours comes nearest to.  Written files leave the rows as they are.  Files are read of every kind of
pixels that a picture can have, but none with a palette, with samples of less than eight bits or with interlaced rows; a
colour that a file says is transparent is read like any other.
-/
namespace Pinpoint
namespace Png

def signature : List UInt8 := [0x89, 0x50, 0x4e, 0x47, 0x0d, 0x0a, 0x1a, 0x0a]

/-- The names of chunks, as words. -/
def headerName : UInt32 := 0x49484452
def dataName : UInt32 := 0x49444154
def endName : UInt32 := 0x49454e44

def colourType : Samples → UInt8
  | .luma      => 0
  | .rgb       => 2
  | .lumaAlpha => 4
  | .rgba      => 6

def samples? (n : UInt8) : Option Samples :=
  if n = 0 then some .luma else if n = 2 then some .rgb else if n = 4 then some .lumaAlpha
  else if n = 6 then some .rgba else none

/-- The bits of a sample. -/
def bitDepth (m : PixelMode) : UInt8 := if m.wide then 16 else 8

def mode? (depth kind : UInt8) : Option PixelMode :=
  (samples? kind).bind fun s => if depth = 8 then some ⟨s, false⟩ else if depth = 16 then some ⟨s, true⟩ else none

/-! ## Writing -/

def chunk (name : UInt32) (l : List UInt8) : List UInt8 :=
  wordBytes (UInt32.ofNat l.length) ++ (wordBytes name ++ l) ++ wordBytes (crc (wordBytes name ++ l))

def stride (width : Nat) (m : PixelMode) : Nat := width * m.bytes

/-- The rows, each after the mark for bytes as they are. -/
def plainRows (p : Picture) : List UInt8 :=
  let n := stride p.w p.mode
  (List.range p.h).flatMap fun y => 0 :: (p.data.extract (y * n) ((y + 1) * n)).toList

def header (p : Picture) : List UInt8 :=
  wordBytes p.width ++ wordBytes p.height ++ [bitDepth p.mode, colourType p.mode.samples, 0, 0, 0]

/-- The most bytes that a data chunk takes. -/
def chunkLimit : Nat := 2147483647

/-- Packed bytes, over as many chunks as they need. -/
def dataChunks (l : List UInt8) : List UInt8 :=
  if _ : l.length ≤ chunkLimit then chunk dataName l
  else chunk dataName (l.take chunkLimit) ++ dataChunks (l.drop chunkLimit)
termination_by l.length
decreasing_by simp only [List.length_drop, chunkLimit] at *; omega

def bytes (p : Picture) : List UInt8 :=
  signature ++ chunk headerName (header p) ++ dataChunks (Deflate.pack (plainRows p)) ++ chunk endName []

/-- A picture without pixels has no file. -/
def check (p : Picture) : Except Fault Unit :=
  if p.isEmpty then .error (.image "a picture without pixels cannot be written") else .ok ()

/-- **The file of a picture.** -/
def encode (p : Picture) : Except Fault (List UInt8) := (check p).map fun _ => bytes p

/-! ## Reading -/

/-- The name of the chunk at a place, where its content begins and how long it is. -/
def chunkAt? (data : Array UInt8) (pos : Nat) : Option (UInt32 × Nat × Nat) := do
  let n ← wordAt? data pos
  let name ← wordAt? data (pos + 4)
  some (name, pos + 8, n.toNat)

/-- Whether the check value of the chunk at a place is right. -/
def isSound (data : Array UInt8) (start n : Nat) : Bool :=
  wordAt? data (start + n) == some (crc (data.extract (start - 4) (start + n)).toList)

/-- A chunk that may be skipped whatever is in it: its name begins with a small letter. -/
def isOptional (name : UInt32) : Bool := (name >>> 29) &&& 1 == 1

/-- The packed bytes: the contents of the data chunks, which follow one another. -/
def packed? (data : Array UInt8) : (fuel pos : Nat) → (seen : Bool) → (acc : Array UInt8) → Option (Array UInt8)
  | 0, _, _, _ => none
  | fuel + 1, pos, seen, acc => do
    let (name, start, n) ← chunkAt? data pos
    if name == dataName then
      if isSound data start n then packed? data fuel (start + n + 4) true (acc ++ data.extract start (start + n)) else none
    else if seen then some acc
    else if name == endName then none
    else if start + n + 4 ≤ data.size ∧ (isOptional name ∨ isSound data start n) then
      packed? data fuel (start + n + 4) false acc
    else none

/-- Of left, above and above left, the one nearest to left plus above minus above left; earlier ones first. -/
def paeth (a b c : UInt8) : UInt8 :=
  let p : Int := a.toNat + b.toNat - c.toNat
  let pa := (p - a.toNat).natAbs
  let pb := (p - b.toNat).natAbs
  let pc := (p - c.toNat).natAbs
  if pa ≤ pb ∧ pa ≤ pc then a else if pb ≤ pc then b else c

def predict (kind a b c : UInt8) : Option UInt8 :=
  if kind = 0 then some 0
  else if kind = 1 then some a
  else if kind = 2 then some b
  else if kind = 3 then some (UInt8.ofNat ((a.toNat + b.toNat) / 2))
  else if kind = 4 then some (paeth a b c)
  else none

/-- The bytes that a row still lacks; `left` of its bytes are to come. -/
def row? (src : Array UInt8) (kind : UInt8) (step width : Nat) (first : Bool) :
    (left pos : Nat) → Array UInt8 → Option (Array UInt8)
  | 0, _, out          => some out
  | left + 1, pos, out => do
    let inner := left + 1 + step ≤ width
    let a := if inner then out.getD (out.size - step) 0 else 0
    let b := if first then 0 else out.getD (out.size - width) 0
    let c := if inner ∧ !first then out.getD (out.size - width - step) 0 else 0
    let v ← src[pos]?
    let p ← predict kind a b c
    row? src kind step width first left (pos + 1) (out.push (v + p))

def rows? (src : Array UInt8) (step width : Nat) : (left pos : Nat) → (first : Bool) → Array UInt8 → Option (Array UInt8)
  | 0, _, _, out             => some out
  | left + 1, pos, first, out => do
    let kind ← src[pos]?
    let out ← row? src kind step width first width (pos + 1) out
    rows? src step width left (pos + 1 + width) false out

/-- **The picture of a file.** -/
def decode? (l : List UInt8) : Option Picture := do
  let data := l.toArray
  let (name, start, n) ← chunkAt? data 8
  let width ← wordAt? data 16
  let height ← wordAt? data 20
  let mode ← mode? (← data[24]?) (← data[25]?)
  if l.take 8 ≠ signature ∨ name ≠ headerName ∨ n ≠ 13 ∨ !isSound data start n ∨ width = 0 ∨ height = 0 ∨
      data.extract 26 29 ≠ #[0, 0, 0] then none
  else
    let src ← Deflate.unpack? (← packed? data data.size 33 false #[])
    let bytes ← rows? src mode.bytes (stride width.toNat mode) height.toNat 0 true #[]
    if h : bytes.size = width.toNat * height.toNat * mode.bytes then some ⟨width, height, mode, bytes, h⟩ else none

/-! ## As text -/

/-- The file of a picture as a text. -/
def encodeText (p : Picture) : Except Fault String := (encode p).map fun l => String.ofList (Text.Base64.encode l)

def decodeText? (s : String) : Option Picture := (Text.Base64.decode? s.toList).bind decode?

end Png
end Pinpoint
