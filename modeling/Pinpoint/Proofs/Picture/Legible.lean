import Mathlib.Tactic.Ring
import Pinpoint.Label
import Pinpoint.Proofs.Picture.Sizes
import Pinpoint.Proofs.Picture.Strokes
/-!
# Legible — labels that can be told apart

On a tag that fits on the picture every cell of every letter shows: red where the glyph of the letter has it, dark where
it has not (`red_iff`).  So two labels of one length are drawn alike exactly if their letters are, one by one
(`annotate_eq_iff`).  Of the letters of labels only `o` and `0` have one glyph (`annotate_zero_or_o`).
-/
namespace Pinpoint
namespace Annotate

/-- Letters with the same glyph are written as one. -/
def lookalike (c : Char) : Char := if c = 'o' then '0' else c

/-- **A word over the letters of labels.** -/
def Spelled (s : String) : Prop := ∀ c ∈ s.toList, ∃ i, c = Label.letter i

/-- **The tag of a label of `n` letters fits on the picture.** -/
def TagFits (p : Picture) (b : Box) (n : Nat) : Prop :=
  b.left.toNat + (n * (6 * scaleOf p) + 4 * scaleOf p) ≤ p.w ∧ tagTop (scaleOf p) b.top + 9 * scaleOf p ≤ p.h

/-! ## Glyphs -/

/-- The cells of a character as it is drawn. -/
def drawnCells (c : Char) : List (Nat × Nat) := ((Font.glyph? c.toUpper).map Font.cells).getD []

theorem upperChar_letter (i : Fin 36) : Text.upperChar (Label.letter i) = [(Label.letter i).toUpper] := by
  revert i
  decide

theorem glyph?_congr (i j : Fin 36) (h : lookalike (Label.letter i) = lookalike (Label.letter j)) :
    Font.glyph? (Label.letter i).toUpper = Font.glyph? (Label.letter j).toUpper := by
  revert i j
  decide

theorem lookalike_of_cells (i j : Fin 36) (h : drawnCells (Label.letter i) ⊆ drawnCells (Label.letter j))
    (h' : drawnCells (Label.letter j) ⊆ drawnCells (Label.letter i)) :
    lookalike (Label.letter i) = lookalike (Label.letter j) := by
  revert i j
  decide

theorem cells_lt {g : Array Nat} {cell : Nat × Nat} (h : cell ∈ Font.cells g) : cell.1 < 5 ∧ cell.2 < 5 := by
  unfold Font.cells at h
  obtain ⟨row, hrow, h⟩ := List.mem_flatMap.1 h
  obtain ⟨col, hcol, h⟩ := List.mem_filterMap.1 h
  split at h
  · obtain rfl := Option.some.inj h
    exact ⟨List.mem_range.1 hcol, List.mem_range.1 hrow⟩
  · cases h

theorem drawnCells_lt {c : Char} {cell : Nat × Nat} (h : cell ∈ drawnCells c) : cell.1 < 5 ∧ cell.2 < 5 := by
  unfold drawnCells at h
  cases hg : Font.glyph? c.toUpper with
  | none => simp [hg] at h
  | some g => exact cells_lt (g := g) (by simpa [hg] using h)

theorem toList_toUpper {s : String} (hs : Spelled s) : (Text.toUpper s).toList = s.toList.map Char.toUpper := by
  unfold Text.toUpper
  rw [String.toList_ofList, List.map_eq_flatMap]
  refine List.flatMap_congr fun c hc => ?_
  obtain ⟨i, rfl⟩ := hs c hc
  exact upperChar_letter i

/-! ## Letters side by side -/

section
variable {w scale x y : Nat} {q : Int × Int}

theorem mem_glyphCells {g : Array Nat} : q ∈ glyphCells scale x y g ↔
    ∃ cell ∈ Font.cells g, ∃ sy < scale, ∃ sx < scale,
      (((x + cell.1 * scale + sx : Nat) : Int), ((y + cell.2 * scale + sy : Nat) : Int)) = q := by
  simp only [glyphCells, List.mem_flatMap, List.mem_map, List.mem_range]

theorem mem_drawn {c : Char} : q ∈ ((Font.glyph? c.toUpper).map (glyphCells scale x y)).getD [] ↔
    ∃ cell ∈ drawnCells c, ∃ sy < scale, ∃ sx < scale,
      (((x + cell.1 * scale + sx : Nat) : Int), ((y + cell.2 * scale + sy : Nat) : Int)) = q := by
  unfold drawnCells
  cases Font.glyph? c.toUpper with
  | none => simp
  | some g => exact mem_glyphCells

/-- **Where there is room for all letters, all are drawn**, each in its place. -/
theorem mem_letterCells {cs : List Char} (hfit : x + cs.length * (6 * scale) < w + scale) :
    q ∈ letterCells w scale y x (cs.map Char.toUpper) ↔
      ∃ i c, cs[i]? = some c ∧ ∃ cell ∈ drawnCells c, ∃ sy < scale, ∃ sx < scale,
        (((x + i * (6 * scale) + cell.1 * scale + sx : Nat) : Int), ((y + cell.2 * scale + sy : Nat) : Int)) = q := by
  induction cs generalizing x with
  | nil => simp [letterCells]
  | cons c cs ih =>
    have hlength : (c :: cs).length * (6 * scale) = cs.length * (6 * scale) + 6 * scale := by
      rw [List.length_cons, Nat.add_mul, Nat.one_mul]
    have hroom : ¬ w ≤ x + 5 * scale := by omega
    rw [List.map_cons, letterCells, if_neg hroom, List.mem_append, mem_drawn, ih (by omega)]
    constructor
    · rintro (h | ⟨i, d, hd, h⟩)
      · exact ⟨0, c, rfl, by simpa using h⟩
      · refine ⟨i + 1, d, hd, ?_⟩
        rwa [Nat.add_mul, Nat.one_mul, Nat.add_comm (i * (6 * scale)), ← Nat.add_assoc x]
    · rintro ⟨_ | i, d, hd, h⟩
      · obtain rfl := Option.some.inj hd
        exact Or.inl (by simpa using h)
      · refine Or.inr ⟨i, d, hd, ?_⟩
        rwa [Nat.add_mul, Nat.one_mul, Nat.add_comm (i * (6 * scale)), ← Nat.add_assoc x] at h

/-- The pixel at the corner of a cell of a letter. -/
def corner (scale x y i : Nat) (cell : Nat × Nat) : Nat × Nat := (x + (6 * i + cell.1) * scale, y + cell.2 * scale)

/-- **The corner of a cell shows the letter at its place** and no other: letters are six cells apart and five wide. -/
theorem corner_mem_iff (cs : List Char) (hscale : 0 < scale) (hfit : x + cs.length * (6 * scale) < w + scale)
    {i : Nat} {cell : Nat × Nat} (hcol : cell.1 < 5) :
    (((corner scale x y i cell).1 : Int), ((corner scale x y i cell).2 : Int)) ∈
        letterCells w scale y x (cs.map Char.toUpper) ↔
      ∃ c, cs[i]? = some c ∧ cell ∈ drawnCells c := by
  rw [mem_letterCells hfit]
  constructor
  · rintro ⟨j, c, hc, d, hd, sy, hsy, sx, hsx, h⟩
    obtain ⟨hx, hy⟩ := Prod.mk.inj h
    have hd' := drawnCells_lt hd
    have hx : (6 * j + d.1) * scale + sx = (6 * i + cell.1) * scale := by
      unfold corner at hx
      have hsplit : (6 * j + d.1) * scale = j * (6 * scale) + d.1 * scale := by ring
      omega
    have hy : d.2 * scale + sy = cell.2 * scale := by
      unfold corner at hy
      omega
    have hcol' := congrArg (· / scale) hx
    have hrow' := congrArg (· / scale) hy
    simp only [Nat.mul_comm _ scale, Nat.mul_add_div hscale, Nat.div_eq_of_lt hsx, Nat.div_eq_of_lt hsy,
      Nat.mul_div_cancel_left _ hscale] at hcol' hrow'
    obtain rfl : j = i := by omega
    obtain rfl : d = cell := Prod.ext (by omega) (by omega)
    exact ⟨c, hc, hd⟩
  · rintro ⟨c, hc, hcell⟩
    refine ⟨i, c, hc, cell, hcell, 0, hscale, 0, hscale, ?_⟩
    have hsplit : (6 * i + cell.1) * scale = i * (6 * scale) + cell.1 * scale := by ring
    simp only [corner, hsplit, Nat.add_zero, Nat.add_assoc]

end

/-! ## One pixel of a tag -/

section
variable {x y : Nat} {cells : List (Int × Int)} {ink : Ink}

theorem filter_strokes_of_not_mem (h : ((x : Int), (y : Int)) ∉ cells) :
    (cells.map fun q => (⟨q.1, q.2, ink⟩ : Stroke)).filter (Stroke.isAt x y) = [] := by
  refine List.filter_eq_nil_iff.2 fun s hs hat => ?_
  obtain ⟨q, hq, rfl⟩ := List.mem_map.1 hs
  obtain ⟨hx, hy⟩ := Stroke.isAt_iff.1 hat
  rw [show q = ((x : Int), (y : Int)) from Prod.ext hx hy] at hq
  exact h hq

/-- **What every touch of an ink leaves is left by its strokes**, if one of them is at the pixel. -/
theorem layered_strokes {P : UInt8 → Prop} {c : Nat} (hink : ∀ v, P (ink.on c v)) (h : ((x : Int), (y : Int)) ∈ cells)
    (v : UInt8) : P (layered c ((cells.map fun q => (⟨q.1, q.2, ink⟩ : Stroke)).filter (Stroke.isAt x y)) v) := by
  have hall : ∀ s ∈ (cells.map fun q => (⟨q.1, q.2, ink⟩ : Stroke)).filter (Stroke.isAt x y), s.ink = ink := by
    intro s hs
    obtain ⟨q, -, rfl⟩ := List.mem_map.1 (List.mem_filter.1 hs).1
    rfl
  have hne : (cells.map fun q => (⟨q.1, q.2, ink⟩ : Stroke)).filter (Stroke.isAt x y) ≠ [] :=
    List.ne_nil_of_mem (List.mem_filter.2 ⟨List.mem_map.2 ⟨_, h, rfl⟩, Stroke.isAt_iff.2 ⟨rfl, rfl⟩⟩)
  -- the last of the strokes decides
  obtain ⟨l, s, hl⟩ := (List.eq_nil_or_concat _).resolve_left hne
  rw [hl, List.concat_eq_append] at hall ⊢
  rw [layered, List.foldl_append, List.foldl_cons, List.foldl_nil, hall s (by simp)]
  exact hink _

end

theorem layered_append (c : Nat) (l m : List Stroke) (v : UInt8) : layered c (l ++ m) v = layered c m (layered c l v) :=
  List.foldl_append

theorem mem_tagCells {w h x y width height X Y : Nat} (hx : x ≤ X) (hx' : X < x + width) (hw : x + width ≤ w)
    (hy : y ≤ Y) (hy' : Y < y + height) (hh : y + height ≤ h) :
    ((X : Int), (Y : Int)) ∈ tagCells w h x y width height := by
  simp only [tagCells, List.mem_flatMap, List.mem_map, List.mem_range]
  refine ⟨Y - y, by omega, X - x, by omega, ?_⟩
  rw [Nat.add_sub_cancel' hx, Nat.add_sub_cancel' hy]

theorem on_shade_lt (v : UInt8) : (Ink.shade.on 0 v).toNat < 255 := by
  have hv := v.toNat_lt
  show (UInt8.ofNat (3 * v.toNat / 20)).toNat < 255
  rw [UInt8.toNat_ofNat', Nat.mod_eq_of_lt (by omega)]
  omega

theorem on_over_full (colour : Colour) (v : UInt8) : (Ink.over colour 255).on 0 v = colour.red := by
  show UInt8.ofNat ((2 * ((255 - 255) * v.toNat + 255 * colour.red.toNat) + 255) / 510) = colour.red
  have hred : (2 * ((255 - 255) * v.toNat + 255 * colour.red.toNat) + 255) / 510 = colour.red.toNat := by omega
  rw [hred, UInt8.ofNat_toNat]

theorem corner_on_tag {scale x y n i : Nat} {cell : Nat × Nat} (hi : i < n) (hcol : cell.1 < 5) (hrow : cell.2 < 5)
    (hscale : 0 < scale) :
    x ≤ (corner scale (x + 2 * scale) (y + 2 * scale) i cell).1 ∧
      (corner scale (x + 2 * scale) (y + 2 * scale) i cell).1 < x + (n * (6 * scale) + 4 * scale) ∧
      y ≤ (corner scale (x + 2 * scale) (y + 2 * scale) i cell).2 ∧
      (corner scale (x + 2 * scale) (y + 2 * scale) i cell).2 < y + 9 * scale := by
  have hcolumn : (6 * i + cell.1 + 2) * scale ≤ (n * 6) * scale := Nat.mul_le_mul_right scale (by omega)
  have hline : (cell.2 + 1) * scale ≤ 5 * scale := Nat.mul_le_mul_right scale (by omega)
  rw [Nat.add_mul, Nat.mul_assoc n] at hcolumn
  rw [Nat.add_mul] at hline
  unfold corner
  dsimp only
  omega

/-- **The corner of a cell of a tag ends up red exactly if its letter has the cell**, whatever was there before. -/
theorem layered_tag_iff {w h scale x y : Nat} {l : String} {colour : Colour} (hl : Spelled l) (hscale : 0 < scale)
    (hw : x + (l.length * (6 * scale) + 4 * scale) ≤ w) (hh : y + 9 * scale ≤ h) (hred : colour.red = 255) {i : Nat}
    (hi : i < l.length) {cell : Nat × Nat} (hcol : cell.1 < 5) (hrow : cell.2 < 5) {q : Nat × Nat}
    (hq : q = corner scale (x + 2 * scale) (y + 2 * scale) i cell) (v : UInt8) :
    layered 0 ((tagStrokes w h scale x y l colour).filter (Stroke.isAt q.1 q.2)) v = 255 ↔
      ∃ c, l.toList[i]? = some c ∧ cell ∈ drawnCells c := by
  subst hq
  have hletters := corner_mem_iff (w := w) (x := x + 2 * scale) (y := y + 2 * scale) (i := i) l.toList hscale
    (by rw [String.length_toList]; omega) hcol
  obtain ⟨hx, hx', hy, hy'⟩ := corner_on_tag (x := x) (y := y) hi hcol hrow hscale
  have htag := mem_tagCells hx hx' hw hy hy' hh
  rw [← hletters, ← toList_toUpper hl, tagStrokes, List.filter_append, layered_append]
  generalize corner scale (x + 2 * scale) (y + 2 * scale) i cell = q at *
  by_cases hlit : ((q.1 : Int), (q.2 : Int)) ∈
      letterCells w scale (y + 2 * scale) (x + 2 * scale) (Text.toUpper l).toList
  · have hfull : ∀ v, (Ink.over colour 255).on 0 v = 255 := fun v => (on_over_full colour v).trans hred
    exact iff_of_true (layered_strokes (P := (· = 255)) hfull hlit _) hlit
  · refine iff_of_false (fun h255 => ?_) hlit
    have hdark := layered_strokes (P := fun v => v.toNat < 255) on_shade_lt htag v
    rw [filter_strokes_of_not_mem hlit, layered, List.foldl_nil] at h255
    rw [h255] at hdark
    exact absurd hdark (by decide)

/-! ## Labels -/

section
variable {p : Picture} {b : Box} {l l' : String}

theorem scaleOf_pos (p : Picture) : 0 < scaleOf p := by
  unfold scaleOf
  split <;> omega

theorem strokes_single (p : Picture) (l : String) (b : Box) :
    strokes p [(l, b)] = boxStrokes p.w p.h (scaleOf p) ⟨255, 68, 68⟩ l b := by
  simp [strokes, palette]

/-- **Every cell of a letter shows**: at its corner the picture is red exactly if the letter has the cell. -/
theorem red_iff (hl : Spelled l) (hfits : TagFits p b l.length) {i : Nat} (hi : i < l.length) {cell : Nat × Nat}
    (hcol : cell.1 < 5) (hrow : cell.2 < 5) {q : Nat × Nat}
    (hq : q = corner (scaleOf p) (b.left.toNat + 2 * scaleOf p) (tagTop (scaleOf p) b.top + 2 * scaleOf p) i cell) :
    (annotate p [(l, b)]).byte q.1 q.2 0 = 255 ↔ ∃ c, l.toList[i]? = some c ∧ cell ∈ drawnCells c := by
  obtain ⟨hw, hh⟩ := hfits
  have hw' : p.toRgba.w = p.w := congrArg UInt32.toNat p.width_toRgba
  have hh' : p.toRgba.h = p.h := congrArg UInt32.toNat p.height_toRgba
  obtain ⟨-, hx, -, hy⟩ := corner_on_tag (x := b.left.toNat) (y := tagTop (scaleOf p) b.top) hi hcol hrow (scaleOf_pos p)
  rw [← hq] at hx hy
  rw [annotate, byte_paint p.mode_toRgba (by omega) (by omega) (by omega), strokes_single, boxStrokes,
    List.filter_append, layered_append]
  exact layered_tag_iff hl (scaleOf_pos p) hw hh rfl hi hcol hrow hq _

theorem drawnCells_subset (hl : Spelled l) (hl' : Spelled l') (hlength : l.length = l'.length)
    (hfits : TagFits p b l.length) (heq : annotate p [(l, b)] = annotate p [(l', b)]) {i : Nat} {c c' : Char}
    (hc : l.toList[i]? = some c) (hc' : l'.toList[i]? = some c') : drawnCells c ⊆ drawnCells c' := by
  intro cell hcell
  obtain ⟨hcol, hrow⟩ := drawnCells_lt hcell
  have hi : i < l.length := by
    rw [← String.length_toList]
    exact (List.getElem?_eq_some_iff.1 hc).1
  have hred := (red_iff hl hfits hi hcol hrow rfl).2 ⟨c, hc, hcell⟩
  rw [heq] at hred
  rw [hlength] at hfits hi
  obtain ⟨d, hd, hcell'⟩ := (red_iff hl' hfits hi hcol hrow rfl).1 hred
  rw [hc'] at hd
  obtain rfl := Option.some.inj hd
  exact hcell'

theorem letterCells_congr {w scale y : Nat} : ∀ {cs cs' : List Char} (x : Nat),
    cs.map Font.glyph? = cs'.map Font.glyph? → letterCells w scale y x cs = letterCells w scale y x cs'
  | [], [], _, _             => rfl
  | [], _ :: _, _, h         => by cases h
  | _ :: _, [], _, h         => by cases h
  | c :: cs, c' :: cs', x, h => by
    obtain ⟨hc, hcs⟩ := List.cons.inj h
    rw [letterCells, letterCells, hc, letterCells_congr (x + 6 * scale) hcs]

theorem glyphs_congr (hl : Spelled l) (hl' : Spelled l') (h : l.toList.map lookalike = l'.toList.map lookalike) :
    (Text.toUpper l).toList.map Font.glyph? = (Text.toUpper l').toList.map Font.glyph? := by
  rw [toList_toUpper hl, toList_toUpper hl', List.map_map, List.map_map]
  refine List.ext_getElem? fun i => ?_
  have hi := congrArg (·[i]?) h
  simp only [List.getElem?_map] at hi ⊢
  cases hc : l.toList[i]? with
  | none =>
    cases hc' : l'.toList[i]? with
    | none => rfl
    | some c' => simp [hc, hc'] at hi
  | some c =>
    cases hc' : l'.toList[i]? with
    | none => simp [hc, hc'] at hi
    | some c' =>
      obtain ⟨a, rfl⟩ := hl c (List.mem_of_getElem? hc)
      obtain ⟨a', rfl⟩ := hl' c' (List.mem_of_getElem? hc')
      rw [hc, hc'] at hi
      exact congrArg some (glyph?_congr a a' (Option.some.inj hi))

/-- Labels that look alike are drawn alike, wherever they are. -/
theorem annotate_congr (hl : Spelled l) (hl' : Spelled l') (hlength : l.length = l'.length)
    (h : l.toList.map lookalike = l'.toList.map lookalike) : annotate p [(l, b)] = annotate p [(l', b)] := by
  unfold annotate
  rw [strokes_single, strokes_single]
  unfold boxStrokes tagStrokes
  rw [hlength, letterCells_congr _ (glyphs_congr hl hl' h)]

/-- **Two labels of one length on a tag that fits are drawn alike exactly if they differ in `o` for `0` at most.** -/
theorem annotate_eq_iff (hl : Spelled l) (hl' : Spelled l') (hlength : l.length = l'.length)
    (hfits : TagFits p b l.length) :
    annotate p [(l, b)] = annotate p [(l', b)] ↔ l.toList.map lookalike = l'.toList.map lookalike := by
  refine ⟨fun heq => ?_, annotate_congr hl hl' hlength⟩
  have hlength' : l.toList.length = l'.toList.length := by rw [String.length_toList, String.length_toList, hlength]
  refine List.ext_getElem (by rw [List.length_map, List.length_map, hlength']) fun i hi hi' => ?_
  rw [List.length_map] at hi hi'
  rw [List.getElem_map, List.getElem_map]
  have hc := List.getElem?_eq_getElem hi
  have hc' := List.getElem?_eq_getElem hi'
  obtain ⟨a, ha⟩ := hl _ (List.getElem_mem hi)
  obtain ⟨a', ha'⟩ := hl' _ (List.getElem_mem hi')
  rw [ha] at hc ⊢
  rw [ha'] at hc' ⊢
  exact lookalike_of_cells a a' (drawnCells_subset hl hl' hlength hfits heq hc hc')
    (drawnCells_subset hl' hl hlength.symm (hlength ▸ hfits) heq.symm hc' hc)

end

/-! A grey picture with one box, whose tag has room above it. -/

def greyPanel : Picture := Picture.ofFn 64 48 .luma fun _ _ _ => 240

def framed : Box := ⟨10, 25, 20, 15⟩

instance (s : String) : Decidable (Spelled s) := List.decidableBAll (fun c => ∃ i, c = Label.letter i) s.toList

instance (p : Picture) (b : Box) (n : Nat) : Decidable (TagFits p b n) := inferInstanceAs (Decidable (_ ∧ _))

/-- `b` and `8` differ in three cells only. -/
theorem annotate_eq_iff_b8 : Spelled "bb" ∧ Spelled "b8" ∧ "bb".length = "b8".length ∧ TagFits greyPanel framed 2 ∧
    annotate greyPanel [("bb", framed)] ≠ annotate greyPanel [("b8", framed)] := by
  have hb : Spelled "bb" := by decide
  have h8 : Spelled "b8" := by decide
  have hfits : TagFits greyPanel framed 2 := by decide
  exact ⟨hb, h8, by decide, hfits, (annotate_eq_iff hb h8 (by decide) hfits).not.2 (by decide)⟩

/-- **Two labels that nobody can tell apart**: different, of one length, on a tag that fits. -/
theorem annotate_zero_or_o : Spelled "0" ∧ Spelled "o" ∧ "0" ≠ "o" ∧ "0".length = "o".length ∧
    TagFits greyPanel framed 1 ∧ annotate greyPanel [("0", framed)] = annotate greyPanel [("o", framed)] := by
  have h0 : Spelled "0" := by decide
  have ho : Spelled "o" := by decide
  exact ⟨h0, ho, by decide, by decide, by decide, annotate_congr h0 ho (by decide) (by decide)⟩

end Annotate
end Pinpoint
