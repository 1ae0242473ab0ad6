import Pinpoint.Png
import Pinpoint.Proofs.Png.Stored
import Pinpoint.Proofs.Text.Base64
/-!
# File — a picture is read as it was written

A chunk is found with its name, its length and a right check value (`chunk_of_holds`).  The data chunks put together are
the packed rows (`packed?_of_holds`), every row is marked as bytes that are as they are (`rows?_of_holds`), and the header
has size and mode.  So every picture with pixels, whatever their kind, is read from its file as it was (`decode?_bytes`),
and so it is from the text of the file (`decodeText?_trim`).
-/
namespace Pinpoint
namespace Png

variable {data acc : Array UInt8} {pos width : Nat} {name : UInt32} {l : List UInt8} {p : Picture}

/-! ## Chunks -/

theorem length_chunk (name : UInt32) (l : List UInt8) : (chunk name l).length = 12 + l.length := by
  simp only [chunk, wordBytes, List.length_append, List.length_cons, List.length_nil]
  omega

/-- **A chunk is found where it was written**, and its check value is right. -/
theorem chunk_of_holds (hl : l.length < 2 ^ 32) (h : Holds data pos (chunk name l)) :
    chunkAt? data pos = some (name, pos + 8, l.length) ∧ Holds data (pos + 8) l ∧ isSound data (pos + 8) l.length = true := by
  have hn : (UInt32.ofNat l.length).toNat = l.length := by
    rw [UInt32.toNat_ofNat', Nat.mod_eq_of_lt hl]
  have hbody : Holds data (pos + 4) (wordBytes name ++ l) := h.left.right
  have hcrc : Holds data (pos + 8 + l.length) (wordBytes (crc (wordBytes name ++ l))) := by
    have hright := h.right
    rwa [List.length_append, List.length_append, ← Nat.add_assoc, ← Nat.add_assoc] at hright
  have hextract : data.extract (pos + 4) (pos + 8 + l.length) = (wordBytes name ++ l).toArray := by
    have hwhole := hbody.extract
    rwa [List.length_append, ← Nat.add_assoc] at hwhole
  refine ⟨?_, hbody.right, ?_⟩
  · simp only [chunkAt?, wordAt?_of_holds h.left.left, wordAt?_of_holds hbody.left, Option.bind_eq_bind, Option.bind_some, hn]
  · rw [isSound, wordAt?_of_holds hcrc, Nat.add_sub_assoc (by decide), hextract]
    exact beq_self_eq_true _

theorem Holds.afterChunk {m : List UInt8} (h : Holds data pos (chunk name l ++ m)) : Holds data (pos + 8 + l.length + 4) m := by
  have hright := h.right
  rwa [length_chunk, show pos + (12 + l.length) = pos + 8 + l.length + 4 by omega] at hright

theorem length_le_dataChunks (l : List UInt8) : l.length ≤ (dataChunks l).length := by
  induction l using dataChunks.induct with
  | case1 l hl =>
    rw [dataChunks, dif_pos hl, length_chunk]
    omega
  | case2 l hl ih =>
    rw [dataChunks, dif_neg hl, List.length_append, length_chunk, List.length_take]
    rw [List.length_drop] at ih
    omega

/-- **The data chunks up to the end of the file hold the packed bytes.** -/
theorem packed?_of_holds (fuel : Nat) (hfuel : l.length + 1 < fuel) (seen : Bool)
    (h : Holds data pos (dataChunks l ++ chunk endName [])) : packed? data fuel pos seen acc = some (acc ++ l.toArray) := by
  induction l using dataChunks.induct generalizing pos acc fuel seen with
  | case1 l hl =>
    rw [dataChunks, dif_pos hl] at h
    -- one step for the chunk, one to see that the next is of another kind
    obtain ⟨fuel, rfl⟩ : ∃ k, fuel = k + 2 := ⟨fuel - 2, by omega⟩
    obtain ⟨hat, hbytes, hsound⟩ := chunk_of_holds (by rw [chunkLimit] at hl; omega) h.left
    obtain ⟨hlast, -, -⟩ := chunk_of_holds (by decide) h.afterChunk
    simp only [packed?, hat, hlast, hsound, hbytes.extract, Option.bind_eq_bind, Option.bind_some, beq_self_eq_true, if_true]
    rw [if_neg (by decide)]
  | case2 l hl ih =>
    rw [dataChunks, dif_neg hl, List.append_assoc] at h
    obtain ⟨fuel, rfl⟩ : ∃ k, fuel = k + 1 := ⟨fuel - 1, by omega⟩
    have hlength : (l.take chunkLimit).length = chunkLimit := by rw [List.length_take]; omega
    obtain ⟨hat, hbytes, hsound⟩ := chunk_of_holds (by rw [hlength]; decide) h.left
    simp only [packed?, hat, hsound, hbytes.extract, Option.bind_eq_bind, Option.bind_some, beq_self_eq_true, if_true]
    rw [ih fuel (by rw [List.length_drop, chunkLimit] at *; omega) true h.afterChunk, append_toArray_append,
      List.take_append_drop]

/-! ## Rows -/

theorem row?_of_holds (step width : Nat) (first : Bool) : ∀ {l : List UInt8} {pos : Nat} (out : Array UInt8), Holds data pos l →
    row? data 0 step width first l.length pos out = some (out ++ l.toArray)
  | [], _, out, _ => by rw [List.length_nil, row?, Array.append_empty]
  | b :: l, pos, out, h => by
    simp only [List.length_cons, row?, h.head, predict, if_true, Option.bind_eq_bind, Option.bind_some, UInt8.add_zero]
    rw [row?_of_holds step width first _ h.tail, push_append_toArray]

/-- **Rows marked as they are give their bytes one after another.** -/
theorem rows?_of_holds {rows : List (List UInt8)} (step : Nat) (out : Array UInt8) (hrows : ∀ row ∈ rows, row.length = width)
    (first : Bool) (h : Holds data pos (rows.flatMap (0 :: ·))) :
    rows? data step width rows.length pos first out = some (out ++ rows.flatten.toArray) := by
  induction rows generalizing pos first out with
  | nil => rw [List.length_nil, rows?, List.flatten_nil, Array.append_empty]
  | cons row rows ih =>
    obtain ⟨hrow, hrest⟩ := List.forall_mem_cons.1 hrows
    rw [List.flatMap_cons] at h
    have hbytes := row?_of_holds step width first out h.left.tail
    have hnext := h.right
    rw [hrow] at hbytes
    rw [List.length_cons, hrow, ← Nat.add_assoc, Nat.add_right_comm] at hnext
    simp only [List.length_cons, rows?, h.left.head, hbytes, Option.bind_eq_bind, Option.bind_some]
    rw [ih _ hrest false hnext, append_toArray_append, List.flatten_cons]

/-- The rows of a picture from the top. -/
def rowsOf (p : Picture) : List (List UInt8) :=
  (List.range p.h).map fun y => (p.data.extract (y * stride p.w p.mode) ((y + 1) * stride p.w p.mode)).toList

theorem length_rowsOf (p : Picture) : (rowsOf p).length = p.h := by
  rw [rowsOf, List.length_map, List.length_range]

theorem plainRows_eq (p : Picture) : plainRows p = (rowsOf p).flatMap (0 :: ·) := by
  rw [plainRows, rowsOf, List.flatMap_map]

theorem size_data_eq (p : Picture) : p.data.size = p.h * stride p.w p.mode := by
  rw [p.size_data, stride, Nat.mul_comm p.width.toNat, Nat.mul_assoc]
  rfl

theorem length_of_mem_rowsOf (p : Picture) : ∀ row ∈ rowsOf p, row.length = stride p.w p.mode := by
  intro row hrow
  obtain ⟨y, hy, rfl⟩ := List.mem_map.1 hrow
  have hle : (y + 1) * stride p.w p.mode ≤ p.h * stride p.w p.mode := Nat.mul_le_mul_right _ (List.mem_range.1 hy)
  rw [Array.length_toList, Array.size_extract, size_data_eq, Nat.min_eq_left hle, Nat.add_one_mul, Nat.add_sub_cancel_left]

theorem flatten_rowsOf (p : Picture) : (rowsOf p).flatten = p.data.toList := by
  have hfirst : ∀ k, ((List.range k).map fun y =>
      (p.data.extract (y * stride p.w p.mode) ((y + 1) * stride p.w p.mode)).toList).flatten =
        p.data.toList.take (k * stride p.w p.mode) := by
    intro k
    induction k with
    | zero => rw [Nat.zero_mul, List.take_zero, List.range_zero, List.map_nil, List.flatten_nil]
    | succ k ih =>
      rw [List.range_succ, List.map_append, List.flatten_append, ih, List.map_singleton, List.flatten_singleton,
        Array.toList_extract, List.extract_eq_take_drop, Nat.add_one_mul, Nat.add_sub_cancel_left, ← List.take_add]
  rw [rowsOf, hfirst, ← size_data_eq, ← Array.length_toList, List.take_length]

/-! ## Files -/

/-- **Each kind of pixels is told by depth and kind of its samples.** -/
theorem mode?_of_mode (m : PixelMode) : mode? (bitDepth m) (colourType m.samples) = some m := by
  obtain ⟨s, wide⟩ := m
  cases s <;> cases wide <;> rfl

theorem length_header (p : Picture) : (header p).length = 13 := rfl

/-- **The header is read at its place**, after the signature: the kind of chunk, size, mode, and what never changes. -/
theorem header_of_holds (h : Holds data 8 (chunk headerName (header p))) :
    chunkAt? data 8 = some (headerName, 16, 13) ∧ isSound data 16 13 = true ∧ wordAt? data 16 = some p.width ∧
      wordAt? data 20 = some p.height ∧ data[24]? = some (bitDepth p.mode) ∧
      data[25]? = some (colourType p.mode.samples) ∧ data.extract 26 29 = #[0, 0, 0] := by
  obtain ⟨hat, hheader, hsound⟩ := chunk_of_holds (by rw [length_header]; decide) h
  have hmode : Holds data 24 [bitDepth p.mode, colourType p.mode.samples, 0, 0, 0] := hheader.right
  exact ⟨hat, hsound, wordAt?_of_holds hheader.left.left, wordAt?_of_holds hheader.left.right, hmode.head,
    hmode.tail.head, hmode.tail.tail.extract⟩

/-- **A picture with pixels is read from its file.** -/
theorem decode?_bytes (hp : p.isEmpty = false) : decode? (bytes p) = some p := by
  have h : Holds (bytes p).toArray 0 (bytes p) := holds_toArray (bytes p)
  obtain ⟨hat, hsound, hwidth, hheight, hdepth, hkind, hmethods⟩ := header_of_holds h.left.left.right
  have hsignature : (bytes p).take 8 = signature := rfl
  have hdata : Holds (bytes p).toArray 33 (dataChunks (Deflate.pack (plainRows p)) ++ chunk endName []) := by
    have hrest := h
    rw [bytes, List.append_assoc] at hrest
    exact hrest.right
  have hpacked : packed? (bytes p).toArray (bytes p).toArray.size 33 false #[] =
      some (Deflate.pack (plainRows p)).toArray := by
    have hfuel := hdata.length_le
    have hlength := length_le_dataChunks (Deflate.pack (plainRows p))
    rw [List.length_append, length_chunk] at hfuel
    rw [packed?_of_holds _ (by omega) false hdata, Array.empty_append]
  have hrows : rows? (plainRows p).toArray p.mode.bytes (stride p.width.toNat p.mode) p.height.toNat 0 true #[] =
      some p.data := by
    have hplain := holds_toArray (plainRows p)
    rw [plainRows_eq] at hplain
    have hread := rows?_of_holds p.mode.bytes #[] (length_of_mem_rowsOf p) true hplain
    rw [← plainRows_eq, length_rowsOf, flatten_rowsOf, Array.empty_append, Array.toArray_toList] at hread
    exact hread
  have hpixels : p.width ≠ 0 ∧ p.height ≠ 0 := by
    rwa [Picture.isEmpty, Bool.or_eq_false_iff, beq_eq_false_iff_ne, beq_eq_false_iff_ne] at hp
  unfold decode?
  simp only [hat, hwidth, hheight, hdepth, hkind, mode?_of_mode, Option.bind_eq_bind, Option.bind_some, hsound, hsignature,
    hmethods, hpacked, Deflate.unpack?_pack, hrows, p.size_data, dif_pos]
  rw [if_neg (by simp [hpixels])]

/-! ## Texts -/

theorem encode_eq_ok_iff {file : List UInt8} : encode p = .ok file ↔ p.isEmpty = false ∧ file = bytes p := by
  cases hp : p.isEmpty with
  | true =>
    rw [encode, check, hp]
    exact ⟨fun h => (nomatch h), fun h => (nomatch h.1)⟩
  | false =>
    rw [encode, check, hp]
    exact ⟨fun h => ⟨rfl, (Except.ok.inj h).symm⟩, fun h => congrArg Except.ok h.2.symm⟩

/-- **A picture that has a file is read from the text of it**, which trimming leaves alone. -/
theorem decodeText?_trim {file : List UInt8} (h : encode p = .ok file) :
    encodeText p = .ok (String.ofList (Text.Base64.encode file)) ∧
      decodeText? (Text.trim (String.ofList (Text.Base64.encode file))) = some p := by
  refine ⟨congrArg (Except.map _) h, ?_⟩
  obtain ⟨hp, rfl⟩ := encode_eq_ok_iff.1 h
  rw [Text.trim_encode, decodeText?, String.toList_ofList, Text.Base64.decode?_encode, Option.bind_some, decode?_bytes hp]

end Png
end Pinpoint
