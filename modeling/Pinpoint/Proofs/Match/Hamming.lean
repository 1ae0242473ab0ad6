import Mathlib.Algebra.BigOperators.Fin
import Mathlib.Algebra.BigOperators.Intervals
import Mathlib.InformationTheory.Hamming
import Pinpoint.Match.Descriptor
/-!
# Hamming — how many bits of two descriptors differ

The set bits of a word are counted for all its bytes at once: pairs of bits, then four, then eight, and a product adds
what the bytes hold.  No count runs over into the next byte, so that a stage over `k + 1` bytes is the stage over the
first and the stage over the others; what one byte becomes is then a matter of 256 cases.  The distance of two
descriptors is thus the Hamming distance of their bits (`distance_eq_hammingDist`).
-/
namespace Pinpoint
namespace Match
namespace Descriptor

open Finset (range)

/-! ## The stages, over any number of bytes -/

/-- A byte, `k` times over. -/
def everyByte (m : Nat) : (k : Nat) → Nat
  | 0     => 0
  | k + 1 => m + 256 * everyByte m k

def pairsOf (k v : Nat) : Nat := v - (v / 2 &&& everyByte 0x55 k)
def foursOf (k v : Nat) : Nat := (pairsOf k v &&& everyByte 0x33 k) + (pairsOf k v / 4 &&& everyByte 0x33 k)
def bytesOf (k v : Nat) : Nat := (foursOf k v + foursOf k v / 16) &&& everyByte 0x0f k

/-- The number of set bits among the first `n`. -/
def setBits (v n : Nat) : Nat := ∑ i ∈ range n, (v.testBit i).toNat

theorem and_cons {a m : Nat} (ha : a < 256) (hm : m < 256) (v n : Nat) :
    (a + 256 * v) &&& (m + 256 * n) = (a &&& m) + 256 * (v &&& n) := by
  have hlow := Nat.and_mod_two_pow (a := a + 256 * v) (b := m + 256 * n) (n := 8)
  have hhigh := Nat.and_div_two_pow (a := a + 256 * v) (b := m + 256 * n) (n := 8)
  rw [show (a + 256 * v) % 2 ^ 8 = a by omega, show (m + 256 * n) % 2 ^ 8 = m by omega] at hlow
  rw [show (a + 256 * v) / 2 ^ 8 = v by omega, show (m + 256 * n) / 2 ^ 8 = n by omega] at hhigh
  omega

/-- What the stages make of one byte. -/
theorem byte_stages : ∀ b < 256, pairsOf 1 b < 256 ∧ foursOf 1 b ≤ 68 ∧ foursOf 1 b % 16 ≤ 4 ∧
    bytesOf 1 b = setBits b 8 := by
  decide +kernel

/-- What a shift brings in from the next byte is masked. -/
theorem byte_masks : ∀ b < 256, (∀ t < 2, (b / 2 + 128 * t) &&& 0x55 = b / 2 &&& 0x55) ∧
    ∀ t < 4, (b / 4 + 64 * t) &&& 0x33 = b / 4 &&& 0x33 := by
  decide +kernel

variable {b : Nat}

theorem pairsOf_cons (hb : b < 256) (k v : Nat) : pairsOf (k + 1) (b + 256 * v) = pairsOf 1 b + 256 * pairsOf k v := by
  have hshift : (b + 256 * v) / 2 = (b / 2 + 128 * (v % 2)) + 256 * (v / 2) := by omega
  have hmask := (byte_masks b hb).1 (v % 2) (Nat.mod_lt _ Nat.two_pos)
  have hle : b / 2 &&& 0x55 ≤ b / 2 := Nat.and_le_left
  have hle' : v / 2 &&& everyByte 0x55 k ≤ v / 2 := Nat.and_le_left
  simp only [pairsOf, everyByte, Nat.mul_zero, Nat.add_zero]
  rw [hshift, and_cons (by omega) (by omega), hmask]
  omega

theorem foursOf_cons (hb : b < 256) (k v : Nat) : foursOf (k + 1) (b + 256 * v) = foursOf 1 b + 256 * foursOf k v := by
  have hp := (byte_stages b hb).1
  simp only [foursOf, pairsOf_cons hb, everyByte, Nat.mul_zero, Nat.add_zero]
  generalize pairsOf 1 b = p at hp
  generalize pairsOf k v = q
  have hshift : (p + 256 * q) / 4 = (p / 4 + 64 * (q % 4)) + 256 * (q / 4) := by omega
  have hmask := (byte_masks p hp).2 (q % 4) (Nat.mod_lt _ (by omega))
  rw [hshift, and_cons hp (by omega), and_cons (by omega) (by omega), hmask]
  omega

theorem foursOf_mod (k v : Nat) : foursOf k v % 16 ≤ 4 := by
  cases k with
  | zero => simp [foursOf, everyByte]
  | succ k =>
    have hbyte := (byte_stages (v % 256) (Nat.mod_lt _ (by omega))).2.2.1
    rw [← Nat.mod_add_div v 256, foursOf_cons (Nat.mod_lt _ (by omega))]
    omega

theorem bytesOf_cons (hb : b < 256) (k v : Nat) : bytesOf (k + 1) (b + 256 * v) = bytesOf 1 b + 256 * bytesOf k v := by
  obtain ⟨-, hf, -, -⟩ := byte_stages b hb
  have hg := foursOf_mod k v
  simp only [bytesOf, foursOf_cons hb, everyByte, Nat.mul_zero, Nat.add_zero]
  generalize foursOf 1 b = f at hf
  generalize foursOf k v = g at hg ⊢
  have hshift : f + 256 * g + (f + 256 * g) / 16 = (f + f / 16 + 16 * (g % 16)) + 256 * (g + g / 16) := by omega
  have hmask : ∀ n, n &&& 0x0f = n % 16 := fun n => Nat.and_two_pow_sub_one_eq_mod n 4
  rw [hshift, and_cons (by omega) (by omega), hmask, hmask]
  omega

/-! ## Counts -/

theorem setBits_cons (hb : b < 256) (n v : Nat) : setBits (b + 256 * v) (8 + n) = setBits b 8 + setBits v n := by
  have hbit := Nat.testBit_two_pow_mul_add v (show b < 2 ^ 8 from hb)
  rw [setBits, Finset.sum_range_add, Nat.add_comm b]
  congr 1
  · refine Finset.sum_congr rfl fun i hi => ?_
    rw [hbit, if_pos (Finset.mem_range.1 hi)]
  · refine Finset.sum_congr rfl fun i _ => ?_
    rw [hbit, if_neg (by omega), Nat.add_sub_cancel_left]

/-- **The bytes of the last stage** hold how many bits are set in each. -/
theorem exists_counts (k v : Nat) : ∃ c : Nat → Nat, (∀ i, c i ≤ 8) ∧
    bytesOf k v = ∑ i ∈ range k, c i * 256 ^ i ∧ setBits v (8 * k) = ∑ i ∈ range k, c i := by
  induction k generalizing v with
  | zero => exact ⟨fun _ => 0, fun _ => Nat.zero_le 8, by simp [bytesOf, everyByte], by simp [setBits]⟩
  | succ k ih =>
    obtain ⟨c, hc, hbytes, hbits⟩ := ih (v / 256)
    have hb : v % 256 < 256 := Nat.mod_lt _ (by omega)
    obtain ⟨-, -, -, hbyte⟩ := byte_stages _ hb
    have hle : setBits (v % 256) 8 ≤ 8 := by
      simpa [setBits] using Finset.sum_le_card_nsmul (range 8) _ 1 fun i _ => Bool.toNat_le ((v % 256).testBit i)
    refine ⟨fun | 0 => setBits (v % 256) 8 | i + 1 => c i, fun i => ?_, ?_, ?_⟩
    · cases i with
      | zero => exact hle
      | succ i => exact hc i
    · rw [← Nat.mod_add_div v 256, bytesOf_cons hb, hbyte, hbytes, Finset.sum_range_succ', Finset.mul_sum]
      simp [pow_succ, Nat.add_comm, Nat.mul_left_comm, Nat.mul_comm]
    · rw [← Nat.mod_add_div v 256, Nat.mul_add_one, Nat.add_comm (8 * k), setBits_cons hb, hbits,
        Finset.sum_range_succ', Nat.add_comm]
      simp

theorem everyByte_one (k : Nat) : 255 * everyByte 1 k + 1 = 256 ^ k := by
  induction k with
  | zero => rfl
  | succ k ih =>
    rw [everyByte, pow_succ, ← ih]
    omega

/-- **A product with ones** has the sum of the bytes in the place of the last. -/
theorem sum_mul_everyByte (k : Nat) (c : Nat → Nat) : ∃ low high, low ≤ (∑ i ∈ range (k + 1), c i) * everyByte 1 k ∧
    (∑ i ∈ range (k + 1), c i * 256 ^ i) * everyByte 1 (k + 1) =
      low + 256 ^ k * (∑ i ∈ range (k + 1), c i + 256 * high) := by
  induction k generalizing c with
  | zero => exact ⟨0, 0, Nat.zero_le _, by simp [everyByte]⟩
  | succ k ih =>
    obtain ⟨low, high, hlow, heq⟩ := ih fun i => c (i + 1)
    have hshift : ∑ i ∈ range (k + 1), c (i + 1) * 256 ^ (i + 1) = 256 * ∑ i ∈ range (k + 1), c (i + 1) * 256 ^ i := by
      rw [Finset.mul_sum]
      exact Finset.sum_congr rfl fun i _ => by ring
    have hones : everyByte 1 (k + 2) = everyByte 1 (k + 1) + 256 ^ (k + 1) := by
      rw [← everyByte_one, everyByte]
      omega
    rw [Finset.sum_range_succ', Finset.sum_range_succ' (fun i => c i * 256 ^ i), hshift, hones]
    generalize ∑ i ∈ range (k + 1), c (i + 1) * 256 ^ i = n at heq
    generalize ∑ i ∈ range (k + 1), c (i + 1) = s at hlow heq
    refine ⟨c 0 * everyByte 1 (k + 1) + 256 * low, high + n, ?_, ?_⟩
    · calc c 0 * everyByte 1 (k + 1) + 256 * low ≤ c 0 * everyByte 1 (k + 1) + 256 * (s * everyByte 1 k) := by omega
        _ = c 0 * everyByte 1 (k + 1) + s * (256 * everyByte 1 k) := by ring
        _ ≤ c 0 * everyByte 1 (k + 1) + s * everyByte 1 (k + 1) := by
          gcongr
          exact Nat.le_add_left _ _
        _ = (s + c 0) * everyByte 1 (k + 1) := by ring
    · calc (256 * n + c 0 * 256 ^ 0) * (everyByte 1 (k + 1) + 256 ^ (k + 1))
          = c 0 * everyByte 1 (k + 1) + 256 * (n * everyByte 1 (k + 1)) + 256 ^ (k + 1) * (256 * n + c 0) := by ring
        _ = _ := by
          rw [heq]
          ring

/-- The stages of a word are those of its eight bytes: no difference and no sum leaves 64 bits. -/
theorem bitCount_eq_bytesOf (x : UInt64) : bitCount x = bytesOf 8 x.toNat * everyByte 1 8 % 2 ^ 64 / 2 ^ 56 := by
  have hle : x >>> 1 &&& 0x5555555555555555 ≤ x := by
    rw [UInt64.le_iff_toNat_le, UInt64.toNat_and, UInt64.toNat_shiftRight]
    exact Nat.and_le_left.trans (Nat.shiftRight_le _ _)
  have hpairs : (x - (x >>> 1 &&& 0x5555555555555555)).toNat = pairsOf 8 x.toNat := by
    rw [UInt64.toNat_sub_of_le _ _ hle, UInt64.toNat_and, UInt64.toNat_shiftRight]
    rfl
  have hlow : pairsOf 8 x.toNat &&& everyByte 0x33 8 ≤ 0x3333333333333333 := Nat.and_le_right
  have hhigh : pairsOf 8 x.toNat / 4 &&& everyByte 0x33 8 ≤ 0x3333333333333333 := Nat.and_le_right
  unfold bitCount
  dsimp only
  generalize x - (x >>> 1 &&& 0x5555555555555555) = pairs at hpairs
  have hfours : ((pairs &&& (0x3333333333333333 : UInt64)) + (pairs >>> 2 &&& (0x3333333333333333 : UInt64))).toNat =
      foursOf 8 x.toNat := by
    rw [UInt64.toNat_add, UInt64.toNat_and, UInt64.toNat_and, UInt64.toNat_shiftRight, hpairs,
      Nat.shiftRight_eq_div_pow]
    exact Nat.mod_eq_of_lt (show _ < 2 ^ 64 from lt_of_le_of_lt (Nat.add_le_add hlow hhigh) (by decide))
  generalize (pairs &&& (0x3333333333333333 : UInt64)) + (pairs >>> 2 &&& (0x3333333333333333 : UInt64)) = fours
    at hfours
  have hlt : foursOf 8 x.toNat + foursOf 8 x.toNat / 16 < 2 ^ 64 := by
    rw [foursOf]
    omega
  have hbytes : ((fours + (fours >>> 4 : UInt64)) &&& (0x0f0f0f0f0f0f0f0f : UInt64)).toNat = bytesOf 8 x.toNat := by
    rw [UInt64.toNat_and, UInt64.toNat_add, UInt64.toNat_shiftRight, hfours, Nat.shiftRight_eq_div_pow]
    exact congrArg (· &&& 0x0f0f0f0f0f0f0f0f) (Nat.mod_eq_of_lt hlt)
  rw [UInt64.toNat_shiftRight, UInt64.toNat_mul, hbytes, Nat.shiftRight_eq_div_pow]
  rfl

/-- **Adding neighbouring fields counts the set bits.** -/
theorem bitCount_eq (x : UInt64) : bitCount x = setBits x.toNat 64 := by
  obtain ⟨c, hc, hbytes, hbits⟩ := exists_counts 8 x.toNat
  obtain ⟨low, high, hlow, heq⟩ := sum_mul_everyByte 7 c
  simp only [Nat.reduceAdd] at hlow heq
  have hsum : ∑ i ∈ range 8, c i ≤ 8 * 8 := by
    simpa using Finset.sum_le_card_nsmul (range 8) c 8 fun i _ => hc i
  have hones := everyByte_one 7
  have hlow' := hlow.trans (Nat.mul_le_mul_right (everyByte 1 7) hsum)
  rw [bitCount_eq_bytesOf, hbytes, heq, hbits]
  omega

/-! ## Distances -/

/-- The four words of a descriptor. -/
def words (p : Descriptor) : Fin 4 → UInt64 := ![p.a, p.b, p.c, p.d]

/-- The 256 bits of a descriptor, by word and by place in the word. -/
def bits (p : Descriptor) (i : Fin 4 × Fin 64) : Bool := (p.words i.1).toNat.testBit i.2

theorem bitCount_xor (x y : UInt64) :
    bitCount (x ^^^ y) = ∑ i : Fin 64, if x.toNat.testBit i ≠ y.toNat.testBit i then 1 else 0 := by
  rw [bitCount_eq, setBits, Finset.sum_range, UInt64.toNat_xor]
  refine Finset.sum_congr rfl fun i _ => ?_
  rw [Nat.testBit_xor]
  cases x.toNat.testBit i <;> cases y.toNat.testBit i <;> rfl

/-- **The distance is the Hamming distance**: the number of the 256 places at which the bits differ. -/
theorem distance_eq_hammingDist (p q : Descriptor) : p.distance q = hammingDist p.bits q.bits := by
  rw [hammingDist, Finset.card_filter, Fintype.sum_prod_type, Fin.sum_univ_four, distance]
  simp only [bitCount_xor]
  rfl

end Descriptor
end Match
end Pinpoint
