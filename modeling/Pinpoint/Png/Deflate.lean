import Pinpoint.Png.Checksum
/-!
# Deflate — packed bytes

Packed bytes are blocks: stored as they are, or as symbols of a prefix code, given by the length of every symbol's code
word or fixed once for all.  A symbol is a byte, the end of the block, or a length that, with a distance, repeats bytes
already unpacked.  Bits are taken from each byte low ones first.  Unpacking ends because every symbol takes a bit.

Packing stores.
-/
namespace Pinpoint
namespace Png
namespace Deflate

/-! ## Bits

A reader gives its value with the place in the data, counted in bits, from which reading goes on. -/

def bit? (data : Array UInt8) (pos : Nat) : Option (Nat × Nat) :=
  (data[pos / 8]?).map fun b => ((b.toNat >>> (pos % 8)) % 2, pos + 1)

/-- A number of `n` bits, low ones first. -/
def bits? (data : Array UInt8) : (n pos : Nat) → Option (Nat × Nat)
  | 0, pos     => some (0, pos)
  | n + 1, pos => do
    let (b, pos) ← bit? data pos
    let (v, pos) ← bits? data n pos
    some (b + 2 * v, pos)

def bytes? (data : Array UInt8) : (n pos : Nat) → Array UInt8 → Option (Array UInt8)
  | 0, _, out       => some out
  | n + 1, pos, out => do bytes? data n (pos + 1) (out.push (← data[pos]?))

/-! ## Code words -/

/-- A code: how many words there are of each length from one up, and the symbols in the order of their words. -/
structure Code where
  counts  : List Nat
  symbols : Array Nat

namespace Code

/-- The words of a length are consecutive and follow those of the lengths below; too many words make no code. -/
def fits : (counts : List Nat) → (free : Nat) → Bool
  | [], _        => true
  | n :: l, free => n ≤ 2 * free && fits l (2 * free - n)

/-- The code that gives every symbol a word of its length; length zero gives none. -/
def ofLengths? (lengths : List Nat) : Option Code :=
  let counts := (List.range 15).map fun k => lengths.countP (· == k + 1)
  let symbols := (List.range 15).flatMap fun k => (lengths.zipIdx.filter fun s => s.1 == k + 1).map (·.2)
  if fits counts 1 then some ⟨counts, symbols.toArray⟩ else none

/-- The symbol whose word comes next; `word` counts from the first word of the length, `index` the words before. -/
def symbolFrom? (data : Array UInt8) (symbols : Array Nat) :
    (counts : List Nat) → (word first index pos : Nat) → Option (Nat × Nat)
  | [], _, _, _, _                     => none
  | n :: counts, word, first, index, pos => do
    let (b, pos) ← bit? data pos
    let word := 2 * word + b
    if word < first + n then
      let s ← symbols[index + (word - first)]?
      some (s, pos)
    else symbolFrom? data symbols counts word (2 * (first + n)) (index + n) pos

def symbol? (c : Code) (data : Array UInt8) (pos : Nat) : Option (Nat × Nat) := symbolFrom? data c.symbols c.counts 0 0 0 pos

end Code

def fixedSymbols : Option Code :=
  Code.ofLengths? (List.replicate 144 8 ++ List.replicate 112 9 ++ List.replicate 24 7 ++ List.replicate 8 8)

def fixedDistances : Option Code := Code.ofLengths? (List.replicate 30 5)

/-! ## The codes of a block -/

/-- The order in which the lengths of the code for lengths are given. -/
def lengthOrder : List Nat := [16, 17, 18, 0, 8, 7, 9, 6, 10, 5, 11, 4, 12, 3, 13, 2, 14, 1, 15]

def tripleBits? (data : Array UInt8) : (n pos : Nat) → Option (List Nat × Nat)
  | 0, pos     => some ([], pos)
  | n + 1, pos => do
    let (v, pos) ← bits? data 3 pos
    let (l, pos) ← tripleBits? data n pos
    some (v :: l, pos)

/-- Lengths of code words, in reverse, until there are `n`: single ones, the last one again, or runs of zeros. -/
def lengthsFrom? (code : Code) (data : Array UInt8) (n : Nat) : (fuel : Nat) → List Nat → (pos : Nat) → Option (List Nat × Nat)
  | 0, _, _ => none
  | fuel + 1, acc, pos =>
    if acc.length = n then some (acc.reverse, pos)
    else if n < acc.length then none
    else do
      let (s, pos) ← code.symbol? data pos
      if s < 16 then lengthsFrom? code data n fuel (s :: acc) pos
      else if s = 16 then
        let last ← acc.head?
        let (k, pos) ← bits? data 2 pos
        lengthsFrom? code data n fuel (List.replicate (k + 3) last ++ acc) pos
      else
        let (k, pos) ← if s = 17 then bits? data 3 pos else bits? data 7 pos
        lengthsFrom? code data n fuel (List.replicate (k + if s = 17 then 3 else 11) 0 ++ acc) pos

/-- The two codes at the head of a block. -/
def codes? (data : Array UInt8) (pos : Nat) : Option ((Code × Code) × Nat) := do
  let (literals, pos) ← bits? data 5 pos
  let (distances, pos) ← bits? data 5 pos
  let (count, pos) ← bits? data 4 pos
  let (lengths, pos) ← tripleBits? data (count + 4) pos
  let given := lengthOrder.zip lengths
  let code ← Code.ofLengths? ((List.range 19).map fun s => (given.lookup s).getD 0)
  let (all, pos) ← lengthsFrom? code data (literals + 257 + distances + 1) 400 [] pos
  let symbols ← Code.ofLengths? (all.take (literals + 257))
  let far ← Code.ofLengths? (all.drop (literals + 257))
  some ((symbols, far), pos)

/-! ## Unpacking -/

/-- The least length of each length symbol with the number of bits added to it. -/
def lengthTable : Array (Nat × Nat) := #[
  (3, 0), (4, 0), (5, 0), (6, 0), (7, 0), (8, 0), (9, 0), (10, 0), (11, 1), (13, 1), (15, 1), (17, 1), (19, 2), (23, 2),
  (27, 2), (31, 2), (35, 3), (43, 3), (51, 3), (59, 3), (67, 4), (83, 4), (99, 4), (115, 4), (131, 5), (163, 5), (195, 5),
  (227, 5), (258, 0)]

/-- The least distance of each distance symbol with the number of bits added to it. -/
def distanceTable : Array (Nat × Nat) := #[
  (1, 0), (2, 0), (3, 0), (4, 0), (5, 1), (7, 1), (9, 2), (13, 2), (17, 3), (25, 3), (33, 4), (49, 4), (65, 5), (97, 5),
  (129, 6), (193, 6), (257, 7), (385, 7), (513, 8), (769, 8), (1025, 9), (1537, 9), (2049, 10), (3073, 10), (4097, 11),
  (6145, 11), (8193, 12), (12289, 12), (16385, 13), (24577, 13)]

def entry? (table : Array (Nat × Nat)) (data : Array UInt8) (s pos : Nat) : Option (Nat × Nat) := do
  let (base, extra) ← table[s]?
  let (v, pos) ← bits? data extra pos
  some (base + v, pos)

/-- `n` bytes once more, each from the same distance back. -/
def again (distance : Nat) : (n : Nat) → Array UInt8 → Array UInt8
  | 0, out     => out
  | n + 1, out => again distance n (out.push (out.getD (out.size - distance) 0))

/-- The bytes of the symbols up to the end of the block. -/
def symbols? (symbols far : Code) (data : Array UInt8) : (fuel : Nat) → Array UInt8 → (pos : Nat) → Option (Array UInt8 × Nat)
  | 0, _, _ => none
  | fuel + 1, out, pos => do
    let (s, pos) ← symbols.symbol? data pos
    if s < 256 then symbols? symbols far data fuel (out.push (UInt8.ofNat s)) pos
    else if s = 256 then some (out, pos)
    else
      let (n, pos) ← entry? lengthTable data (s - 257) pos
      let (s, pos) ← far.symbol? data pos
      let (distance, pos) ← entry? distanceTable data s pos
      if out.size < distance then none else symbols? symbols far data fuel (again distance n out) pos

/-- The bytes of a block that is stored as it is: the length, its complement, the bytes. -/
def stored? (data : Array UInt8) (out : Array UInt8) (pos : Nat) : Option (Array UInt8 × Nat) := do
  let start := (pos + 7) / 8 * 8
  let (n, pos) ← bits? data 16 start
  let (complement, pos) ← bits? data 16 pos
  if n + complement ≠ 65535 then none
  else
    let out ← bytes? data n (pos / 8) out
    some (out, pos + 8 * n)

def block? (data : Array UInt8) (kind : Nat) (out : Array UInt8) (pos : Nat) : Option (Array UInt8 × Nat) := do
  let fuel := 8 * data.size + 1
  match kind with
  | 0 => stored? data out pos
  | 1 => symbols? (← fixedSymbols) (← fixedDistances) data fuel out pos
  | 2 =>
    let (c, pos) ← codes? data pos
    symbols? c.1 c.2 data fuel out pos
  | _ => none

def blocks? (data : Array UInt8) : (fuel : Nat) → Array UInt8 → (pos : Nat) → Option (Array UInt8 × Nat)
  | 0, _, _ => none
  | fuel + 1, out, pos => do
    let (last, pos) ← bit? data pos
    let (kind, pos) ← bits? data 2 pos
    let (out, pos) ← block? data kind out pos
    if last = 1 then some (out, pos) else blocks? data fuel out pos

/-- **The bytes of a packed stream** after its two bytes of header; the sum at its end is not looked at. -/
def unpack? (data : Array UInt8) : Option (Array UInt8) := do
  let method ← data[0]?
  let flags ← data[1]?
  if method.toNat % 16 ≠ 8 ∨ 7 < method.toNat / 16 ∨ (method.toNat * 256 + flags.toNat) % 31 ≠ 0 ∨ flags.toNat / 32 % 2 = 1
  then none
  else (blocks? data (8 * data.size + 1) #[] 16).map (·.1)

/-! ## Packing -/

def storedBlock (last : Bool) (l : List UInt8) : List UInt8 :=
  let n := l.length
  [if last then 1 else 0, UInt8.ofNat (n % 256), UInt8.ofNat (n / 256), UInt8.ofNat (255 - n % 256), UInt8.ofNat (255 - n / 256)]
    ++ l

def storedBlocks (l : List UInt8) : List UInt8 :=
  if _ : l.length ≤ 65535 then storedBlock true l
  else storedBlock false (l.take 65535) ++ storedBlocks (l.drop 65535)
termination_by l.length
decreasing_by simp only [List.length_drop]; omega

/-- The stream of some bytes. -/
def pack (l : List UInt8) : List UInt8 := [0x78, 0x01] ++ storedBlocks l ++ wordBytes (adler l)

end Deflate
end Png
end Pinpoint
