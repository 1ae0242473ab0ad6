import Pinpoint.Png.Checksum
/-!
# Places — bytes that stand somewhere in a file

A reader goes through a file by place, a writer puts byte lists one after another.  `Holds data pos l` says that the bytes
`l` stand at the place `pos`: it splits along the list, and each part is found by the reader that looks for it.
-/
namespace Pinpoint
namespace Png

/-- **The bytes that stand at a place of a file**, and perhaps others after them. -/
def Holds (data : Array UInt8) (pos : Nat) (l : List UInt8) : Prop := l <+: data.toList.drop pos

variable {data : Array UInt8} {pos : Nat} {b : UInt8} {l m : List UInt8}

theorem holds_toArray (l : List UInt8) : Holds l.toArray 0 l := List.prefix_rfl

namespace Holds

theorem left (h : Holds data pos (l ++ m)) : Holds data pos l := (List.prefix_append l m).trans h

theorem right (h : Holds data pos (l ++ m)) : Holds data (pos + l.length) m := by
  obtain ⟨rest, hrest⟩ := h
  refine ⟨rest, ?_⟩
  rw [← List.drop_drop, ← hrest, List.append_assoc, List.drop_left]

theorem tail (h : Holds data pos (b :: l)) : Holds data (pos + 1) l := right (l := [b]) h

theorem head (h : Holds data pos (b :: l)) : data[pos]? = some b := by
  obtain ⟨rest, hrest⟩ := h
  rw [← Array.getElem?_toList, ← Nat.add_zero pos, ← List.getElem?_drop, ← hrest]
  rfl

theorem length_le (h : Holds data pos l) : l.length ≤ data.size - pos := by
  have hle := List.IsPrefix.length_le h
  rwa [List.length_drop, Array.length_toList] at hle

theorem extract (h : Holds data pos l) : data.extract pos (pos + l.length) = l.toArray := by
  obtain ⟨rest, hrest⟩ := h
  apply Array.toList_inj.1
  rw [Array.toList_extract, List.extract_eq_take_drop, ← hrest, Nat.add_sub_cancel_left, List.take_left]

end Holds

/-! ## What a reader has so far -/

theorem push_append_toArray (out : Array UInt8) (b : UInt8) (l : List UInt8) :
    out.push b ++ l.toArray = out ++ (b :: l).toArray := by
  rw [Array.push_eq_append, Array.append_assoc]
  exact congrArg (out ++ ·) (List.toArray_cons b l).symm

theorem append_toArray_append (out : Array UInt8) (l m : List UInt8) :
    out ++ l.toArray ++ m.toArray = out ++ (l ++ m).toArray := by
  rw [Array.append_assoc, List.append_toArray l]

/-! ## Words -/

theorem joined_wordBytes (w : UInt32) :
    ((w >>> 24).toUInt8.toUInt32 <<< 24) ||| ((w >>> 16).toUInt8.toUInt32 <<< 16) ||| ((w >>> 8).toUInt8.toUInt32 <<< 8) |||
      w.toUInt8.toUInt32 = w := by
  apply UInt32.toBitVec_inj.1
  simp only [UInt32.toBitVec_or, UInt32.toBitVec_shiftLeft, UInt8.toBitVec_toUInt32, UInt32.toBitVec_toUInt8,
    UInt32.toBitVec_shiftRight, UInt32.toBitVec_ofNat]
  -- each bit of the word comes from the one byte whose range it is in
  generalize w.toBitVec = v
  ext i hi
  simp only [BitVec.getElem_or, BitVec.getElem_shiftLeft, BitVec.getElem_setWidth, BitVec.getLsbD_setWidth,
    BitVec.getLsbD_ushiftRight, BitVec.shiftLeft_eq', BitVec.ushiftRight_eq']
  rw [← BitVec.getLsbD_eq_getElem]
  grind

/-- **A word is read where it was written.** -/
theorem wordAt?_of_holds {w : UInt32} (h : Holds data pos (wordBytes w)) : wordAt? data pos = some w := by
  unfold wordAt?
  rw [h.head, h.tail.head, h.tail.tail.head, h.tail.tail.tail.head]
  exact congrArg some (joined_wordBytes w)

end Png
end Pinpoint
