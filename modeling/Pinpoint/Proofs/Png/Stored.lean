import Mathlib.Algebra.Group.Nat.Defs
import Pinpoint.Png.Deflate
import Pinpoint.Proofs.Png.Places
/-!
# Stored — packed bytes unpack

Packing stores: blocks of at most 65535 bytes, each after a mark, its length and the complement of it.  The reader takes
bits, but every block begins and ends with a byte; so from the first bit of a block it finds the mark of a stored block
(`bits?_byte`), the length (`bits?_pair`) and the bytes (`bytes?_of_holds`), and stands at the first bit of the next one.
-/
namespace Pinpoint
namespace Png
namespace Deflate

variable {data : Array UInt8} {p : Nat} {b lo hi : UInt8} {l : List UInt8}

/-! ## Bits -/

theorem bit?_byte {k : Nat} (h : data[p]? = some b) (hk : k < 8) :
    bit? data (8 * p + k) = some (b.toNat / 2 ^ k % 2, 8 * p + k + 1) := by
  have hbyte : (8 * p + k) / 8 = p := by omega
  have hbit : (8 * p + k) % 8 = k := by omega
  rw [bit?, hbyte, hbit, h, Option.map_some, Nat.shiftRight_eq_div_pow]

/-- **Bits of one byte**: `n` of them from the `k`-th on. -/
theorem bits?_byte (h : data[p]? = some b) :
    ∀ (n k : Nat), k + n ≤ 8 → bits? data n (8 * p + k) = some (b.toNat / 2 ^ k % 2 ^ n, 8 * p + k + n)
  | 0, k, _ => by rw [bits?, Nat.pow_zero, Nat.mod_one, Nat.add_zero]
  | n + 1, k, hk => by
    have hvalue : b.toNat / 2 ^ k % 2 ^ (n + 1) = b.toNat / 2 ^ k % 2 + 2 * (b.toNat / 2 ^ (k + 1) % 2 ^ n) := by
      rw [Nat.pow_succ', Nat.mod_mul, Nat.div_div_eq_div_mul, ← Nat.pow_succ]
    rw [bits?, bit?_byte h (by omega)]
    simp only [Option.bind_eq_bind, Option.bind_some]
    rw [Nat.add_assoc (8 * p), bits?_byte h n (k + 1) (by omega), Option.bind_some, hvalue, ← Nat.add_assoc,
      Nat.add_right_comm _ 1 n, Nat.add_assoc _ n 1]

theorem bits?_add (m : Nat) : ∀ (n pos : Nat), bits? data (n + m) pos =
    (bits? data n pos).bind fun r => (bits? data m r.2).map fun s => (r.1 + 2 ^ n * s.1, s.2)
  | 0, pos => by
    rw [Nat.zero_add, bits?, Option.bind_some]
    simp only [Nat.zero_add, Nat.pow_zero, Nat.one_mul, Option.map_id']
  | n + 1, pos => by
    rw [Nat.add_right_comm, bits?, bits?]
    cases bit? data pos with
    | none => rfl
    | some r =>
      simp only [Option.bind_eq_bind, Option.bind_some]
      rw [bits?_add m n r.2]
      cases bits? data n r.2 with
      | none => rfl
      | some s =>
        simp only [Option.bind_some]
        cases bits? data m s.2 with
        | none => rfl
        | some t =>
          simp only [Option.map_some, Option.bind_some]
          rw [Nat.mul_add, ← Nat.mul_assoc, ← Nat.pow_succ', Nat.add_assoc]

/-- **A number of two bytes**, the low one first. -/
theorem bits?_pair (h : Holds data p (lo :: hi :: l)) :
    bits? data 16 (8 * p) = some (lo.toNat + 256 * hi.toNat, 8 * (p + 2)) := by
  have hlo := bits?_byte h.head 8 0 (Nat.le_refl 8)
  have hhi := bits?_byte h.tail.head 8 0 (Nat.le_refl 8)
  rw [Nat.pow_zero, Nat.div_one, Nat.mod_eq_of_lt (UInt8.toNat_lt _), Nat.add_zero] at hlo hhi
  rw [bits?_add 8 8, hlo, Option.bind_some, ← Nat.mul_add_one, hhi]
  rfl

theorem bytes?_of_holds : ∀ {l : List UInt8} {p : Nat} (out : Array UInt8), Holds data p l →
    bytes? data l.length p out = some (out ++ l.toArray)
  | [], _, out, _ => by rw [List.length_nil, bytes?, Array.append_empty]
  | b :: l, p, out, h => by
    rw [List.length_cons, bytes?, h.head]
    simp only [Option.bind_eq_bind, Option.bind_some]
    rw [bytes?_of_holds _ h.tail, push_append_toArray]

/-! ## Blocks -/

variable {last : Bool}

theorem length_storedBlock (last : Bool) (l : List UInt8) : (storedBlock last l).length = 5 + l.length := by
  rw [storedBlock, List.length_append]
  rfl

/-- **A stored block unpacks to its bytes** and leaves the reader at the byte after it. -/
theorem block?_of_holds (out : Array UInt8) (hl : l.length ≤ 65535) (h : Holds data p (storedBlock last l)) :
    block? data 0 out (8 * p + 3) = some (out ++ l.toArray, 8 * (p + 5 + l.length)) := by
  have hstart : (8 * p + 3 + 7) / 8 * 8 = 8 * (p + 1) := by omega
  have hbytes : Holds data (p + 5) l := h.right
  have hbyte : ∀ n < 256, (UInt8.ofNat n).toNat = n := fun n hn => UInt8.toNat_ofNat_of_lt' hn
  rw [storedBlock, List.cons_append, List.cons_append, List.cons_append] at h
  have hlength := bits?_pair h.tail
  have hcomplement := bits?_pair h.tail.tail.tail
  rw [hbyte _ (by omega), hbyte _ (by omega), Nat.mod_add_div] at hlength
  rw [hbyte _ (by omega), hbyte _ (by omega)] at hcomplement
  simp only [block?, stored?, hstart, hlength, hcomplement, Option.bind_eq_bind, Option.bind_some]
  rw [if_neg (by omega), show 8 * (p + 1 + 2 + 2) / 8 = p + 5 by omega, bytes?_of_holds out hbytes, Option.bind_some]
  congr 2
  omega

/-- The mark of a block: whether it is the last one, and that it is stored. -/
theorem mark_of_holds (h : Holds data p (storedBlock last l)) :
    bit? data (8 * p) = some (if last then 1 else 0, 8 * p + 1) ∧ bits? data 2 (8 * p + 1) = some (0, 8 * p + 3) := by
  have hhead : data[p]? = some (if last then 1 else 0) := h.head
  have hbit := bit?_byte hhead (k := 0) (by omega)
  have hkind := bits?_byte hhead 2 1 (by omega)
  rw [Nat.add_zero] at hbit
  rw [hbit, hkind]
  cases last <;> exact ⟨rfl, rfl⟩

/-- **Blocks unpack to all their bytes.**  There are no more blocks than bytes, but for the last one. -/
theorem blocks?_of_holds (out : Array UInt8) (fuel : Nat) (hfuel : l.length < fuel) (h : Holds data p (storedBlocks l)) :
    ∃ pos, blocks? data fuel out (8 * p) = some (out ++ l.toArray, pos) := by
  -- by the writer's own recursion: whatever is unpacked already, the reader is at the first bit of a byte again
  induction l using storedBlocks.induct generalizing p out fuel with
  | case1 l hl =>
    rw [storedBlocks, dif_pos hl] at h
    obtain ⟨fuel, rfl⟩ : ∃ k, fuel = k + 1 := ⟨fuel - 1, by omega⟩
    obtain ⟨hbit, hkind⟩ := mark_of_holds h
    refine ⟨8 * (p + 5 + l.length), ?_⟩
    simp only [blocks?, hbit, hkind, block?_of_holds out hl h, Option.bind_eq_bind, Option.bind_some, if_true]
  | case2 l hl ih =>
    rw [storedBlocks, dif_neg hl] at h
    obtain ⟨fuel, rfl⟩ : ∃ k, fuel = k + 1 := ⟨fuel - 1, by omega⟩
    obtain ⟨hbit, hkind⟩ := mark_of_holds h.left
    have hlength : (l.take 65535).length = 65535 := by rw [List.length_take]; omega
    have hblock := block?_of_holds out (Nat.le_of_eq hlength) h.left
    have hright := h.right
    rw [length_storedBlock, ← Nat.add_assoc] at hright
    obtain ⟨pos, hpos⟩ := ih (out ++ (l.take 65535).toArray) fuel (by rw [List.length_drop]; omega) hright
    refine ⟨pos, ?_⟩
    simp only [blocks?, hbit, hkind, hblock, Option.bind_eq_bind, Option.bind_some]
    rw [if_neg (by decide), hpos, append_toArray_append, List.take_append_drop]

theorem length_le_storedBlocks (l : List UInt8) : l.length ≤ (storedBlocks l).length := by
  induction l using storedBlocks.induct with
  | case1 l hl =>
    rw [storedBlocks, dif_pos hl, length_storedBlock]
    omega
  | case2 l hl ih =>
    rw [storedBlocks, dif_neg hl, List.length_append, length_storedBlock, List.length_take]
    rw [List.length_drop] at ih
    omega

/-- **What is packed unpacks.** -/
theorem unpack?_pack (l : List UInt8) : unpack? (pack l).toArray = some l.toArray := by
  have h : Holds (pack l).toArray 0 ([0x78, 0x01] ++ storedBlocks l) := (holds_toArray (pack l)).left
  have hblocks : Holds (pack l).toArray 2 (storedBlocks l) := h.right
  have hlength := Nat.le_trans (length_le_storedBlocks l) hblocks.length_le
  obtain ⟨pos, hpos⟩ := blocks?_of_holds #[] (8 * (pack l).toArray.size + 1) (by omega) hblocks
  unfold unpack?
  rw [h.left.head, h.left.tail.head]
  simp only [Option.bind_eq_bind, Option.bind_some]
  rw [if_neg (by decide), hpos, Option.map_some, Array.empty_append]

end Deflate
end Png
end Pinpoint
