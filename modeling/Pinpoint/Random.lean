/-!
# Random — a seeded generator

The stream of a generator is the keystream of the ChaCha cipher with twelve rounds: the key comes from the seed, the
block counter starts at zero and the words of a block are used in order.  `below` draws evenly from a range by widening
multiplication and turns down the draws that would favour some values.
-/
namespace Pinpoint

/-- **A place in a stream of random words**: the key, the number of blocks made and what is left of the last one. -/
structure Random where
  key    : Array UInt32
  blocks : UInt64
  words  : List UInt32
  deriving Repr, Inhabited

namespace Random

/-! ## The keystream -/

def rotl (a : UInt32) (k : UInt32) : UInt32 := (a <<< k) ||| (a >>> (32 - k))

abbrev Block := Vector UInt32 16

def quarter (a b c d : Fin 16) (s : Block) : Block :=
  let s := s.set a (s[a] + s[b])
  let s := s.set d (rotl (s[d] ^^^ s[a]) 16)
  let s := s.set c (s[c] + s[d])
  let s := s.set b (rotl (s[b] ^^^ s[c]) 12)
  let s := s.set a (s[a] + s[b])
  let s := s.set d (rotl (s[d] ^^^ s[a]) 8)
  let s := s.set c (s[c] + s[d])
  s.set b (rotl (s[b] ^^^ s[c]) 7)

/-- A round on the columns and one on the diagonals. -/
def doubleRound (s : Block) : Block :=
  let s := quarter 3 7 11 15 (quarter 2 6 10 14 (quarter 1 5 9 13 (quarter 0 4 8 12 s)))
  quarter 3 4 9 14 (quarter 2 7 8 13 (quarter 1 6 11 12 (quarter 0 5 10 15 s)))

def rounds : Nat → Block → Block
  | 0, s     => s
  | k + 1, s => rounds k (doubleRound s)

/-- Constants, key, block counter and an all-zero stream number. -/
def initialBlock (key : Array UInt32) (counter : UInt64) : Block :=
  let k (i : Nat) : UInt32 := key.getD i 0
  #v[0x61707865, 0x3320646e, 0x79622d32, 0x6b206574, k 0, k 1, k 2, k 3, k 4, k 5, k 6, k 7,
     counter.toUInt32, (counter >>> 32).toUInt32, 0, 0]

def block (key : Array UInt32) (counter : UInt64) : Block :=
  let s := initialBlock key counter
  Vector.zipWith (· + ·) (rounds 6 s) s

def nextWord (g : Random) : UInt32 × Random :=
  match g.words with
  | w :: ws => (w, { g with words := ws })
  | []      =>
    match (block g.key g.blocks).toList with
    | w :: ws => (w, { g with blocks := g.blocks + 1, words := ws })
    | []      => (0, g)

/-- Two words, the low one first. -/
def nextLong (g : Random) : UInt64 × Random :=
  let lo := g.nextWord
  let hi := lo.2.nextWord
  ((hi.1.toUInt64 <<< 32) ||| lo.1.toUInt64, hi.2)

/-! ## The key of a seed -/

def keyWord (s : UInt64) : UInt32 :=
  let x := (((s >>> 18) ^^^ s) >>> 27).toUInt32
  let r := (s >>> 59).toUInt32
  (x >>> r) ||| (x <<< ((32 - r) % 32))

def keyWords : Nat → UInt64 → List UInt32
  | 0, _     => []
  | k + 1, s =>
    let s := s * 6364136223846793005 + 11634580027462260723
    keyWord s :: keyWords k s

def ofSeed (seed : UInt64) : Random := ⟨(keyWords 8 seed).toArray, 0, []⟩

/-! ## Even draws -/

/-- The high and low half of a product of two numbers of `bits` bits. -/
def wideMul (bits v n : Nat) : Nat × Nat := (v * n / Nat.pow 2 bits, v * n % Nat.pow 2 bits)

/-- The largest low half that is let through: `n` shifted up to the top bit, less one. -/
def zone (bits n : Nat) : Nat := n * Nat.pow 2 (bits - (n.log2 + 1)) - 1

/-- The first accepted of at most `fuel` draws.  A draw is accepted at least every other time, so that 256 draws run
out once in `2 ^ 256`; the last is then taken as it is. -/
@[specialize]
def belowFrom {σ : Type} (next : σ → Nat × σ) (bits n : Nat) : (fuel : Nat) → σ → Nat × σ
  | 0, g        => ((wideMul bits (next g).1 n).1, (next g).2)
  | fuel + 1, g =>
    let v := next g
    let p := wideMul bits v.1 n
    if p.2 ≤ zone bits n then (p.1, v.2) else belowFrom next bits n fuel v.2

/-- An even draw below `n` from single words. -/
def below32 (n : Nat) (g : Random) : Nat × Random :=
  belowFrom (fun g => (g.nextWord.1.toNat, g.nextWord.2)) 32 n 256 g

/-- An even draw below `n` from pairs of words. -/
def below64 (n : Nat) (g : Random) : Nat × Random :=
  belowFrom (fun g => (g.nextLong.1.toNat, g.nextLong.2)) 64 n 256 g

/-- An even draw of a whole number between two ends, both included. -/
def between (lo hi : Int) (g : Random) : Int × Random :=
  let d := below32 (hi - lo + 1).toNat g
  (lo + d.1, d.2)

/-! ## Subsets -/

/-- `j` put where `t` already stands, or else `t` at the end. -/
def placeIndex (j t : Nat) (picked : List Nat) : List Nat :=
  match picked.idxOf? t with
  | some p => picked.take p ++ j :: picked.drop p
  | none   => picked ++ [t]

/-- **`k` different indices below `n`**, every subset equally likely. -/
def sample (n k : Nat) (g : Random) : List Nat × Random :=
  (List.range' (n - k) k).foldl (fun acc j =>
    let d := below32 (j + 1) acc.2
    (placeIndex j d.1 acc.1, d.2)) ([], g)

end Random
end Pinpoint
