/-!
# Checksum — the two check values of a picture file

The cyclic check of a chunk and the pair of sums over packed bytes, both as folds over the bytes.
-/
namespace Pinpoint
namespace Png

def crcBit (c : UInt32) : UInt32 := if c &&& 1 = 1 then (c >>> 1) ^^^ 0xedb88320 else c >>> 1

def crcByte (c : UInt32) (b : UInt8) : UInt32 := Nat.repeat crcBit 8 (c ^^^ b.toUInt32)

/-- The cyclic check value. -/
def crc (l : List UInt8) : UInt32 := l.foldl crcByte 0xffffffff ^^^ 0xffffffff

def adlerByte (s : Nat × Nat) (b : UInt8) : Nat × Nat := ((s.1 + b.toNat) % 65521, (s.2 + s.1 + b.toNat) % 65521)

/-- The sum of the bytes and the sum of those sums. -/
def adler (l : List UInt8) : UInt32 := let s := l.foldl adlerByte (1, 0); UInt32.ofNat (s.2 * 65536 + s.1)

/-- A word as four bytes, high ones first. -/
def wordBytes (w : UInt32) : List UInt8 :=
  [(w >>> 24).toUInt8, (w >>> 16).toUInt8, (w >>> 8).toUInt8, w.toUInt8]

def wordAt? (data : Array UInt8) (pos : Nat) : Option UInt32 := do
  let a ← data[pos]?
  let b ← data[pos + 1]?
  let c ← data[pos + 2]?
  let d ← data[pos + 3]?
  some ((a.toUInt32 <<< 24) ||| (b.toUInt32 <<< 16) ||| (c.toUInt32 <<< 8) ||| d.toUInt32)

end Png
end Pinpoint
