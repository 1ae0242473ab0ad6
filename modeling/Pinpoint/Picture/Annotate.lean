import Pinpoint.Picture
import Pinpoint.Picture.Font
import Pinpoint.Text.Case
/-!
# Annotate — candidates drawn onto a picture

Every candidate gets an outline and, above its corner, a dark tag with its label.  What is drawn is a list of strokes, one
for each touch of a pixel; `paint` applies them in order, and strokes beyond the edges leave no mark.  A pixel of the
result is thus the pixel of the source under the strokes at its place and no others.
-/
namespace Pinpoint
namespace Annotate

structure Colour where
  red   : UInt8
  green : UInt8
  blue  : UInt8
  deriving DecidableEq, Repr, Inhabited

inductive Ink where
  /-- A colour laid over the pixel, `cover` parts of it in 255. -/
  | over (colour : Colour) (cover : Nat)
  /-- The pixel darkened to three twentieths. -/
  | shade
  deriving DecidableEq, Repr

structure Stroke where
  x   : Int
  y   : Int
  ink : Ink
  deriving DecidableEq, Repr

/-- `cover` parts of `b` and the rest of `a`, to the nearest whole. -/
def mix (cover : Nat) (a b : UInt8) : UInt8 := UInt8.ofNat ((2 * ((255 - cover) * a.toNat + cover * b.toNat) + 255) / 510)

def shade (a : UInt8) : UInt8 := UInt8.ofNat (3 * a.toNat / 20)

/-! ## What is drawn -/

/-- Outline colours, taken in turn. -/
def palette : Array Colour :=
  #[⟨255, 68, 68⟩, ⟨68, 200, 68⟩, ⟨68, 110, 255⟩, ⟨255, 170, 0⟩, ⟨255, 68, 255⟩, ⟨0, 200, 220⟩]

/-- The scale of the letters and the thickness of the outlines. -/
def scaleOf (p : Picture) : Nat := if p.w > 1600 then 3 else 2

/-- The whole numbers from `lo` to `hi`. -/
def span (lo hi : Int) : List Int := (List.range (hi - lo + 1).toNat).map fun (i : Nat) => lo + i

/-- The outline of the box from `(x1, y1)` to `(x2, y2)`, both included, on a picture of size `w` by `h`. -/
def outline (w h thickness : Nat) (x1 y1 x2 y2 : Int) : List (Int × Int) :=
  ((List.range thickness).flatMap fun (t : Nat) =>
    (span (max x1 0) (min x2 (w - 1))).flatMap fun x => [(x, y1 + t), (x, y2 - t)]) ++
  ((List.range thickness).flatMap fun (t : Nat) =>
    (span (max y1 0) (min y2 (h - 1))).flatMap fun y => [(x1 + t, y), (x2 - t, y)])

/-- The cells of a rectangle that are on a picture of size `w` by `h`. -/
def tagCells (w h x y width height : Nat) : List (Int × Int) :=
  (List.range (min height (h - y))).flatMap fun j => (List.range (min width (w - x))).map fun i =>
    (((x + i : Nat) : Int), ((y + j : Nat) : Int))

/-- The pixels of a glyph whose corner is at `(x, y)`. -/
def glyphCells (scale x y : Nat) (g : Array Nat) : List (Int × Int) :=
  (Font.cells g).flatMap fun cell => (List.range scale).flatMap fun sy => (List.range scale).map fun sx =>
    (((x + cell.1 * scale + sx : Nat) : Int), ((y + cell.2 * scale + sy : Nat) : Int))

/-- The letters of a label side by side, as far as they fit on a picture of width `w`. -/
def letterCells (w scale y : Nat) : (x : Nat) → List Char → List (Int × Int)
  | _, []      => []
  | x, c :: cs =>
    if w ≤ x + 5 * scale then []
    else ((Font.glyph? c).map (glyphCells scale x y)).getD [] ++ letterCells w scale y (x + 6 * scale) cs

/-- The tag of a label with its corner at `(x, y)`. -/
def tagStrokes (w h scale x y : Nat) (label : String) (colour : Colour) : List Stroke :=
  (tagCells w h x y (label.length * (6 * scale) + 4 * scale) (9 * scale)).map (fun c => ⟨c.1, c.2, .shade⟩) ++
  (letterCells w scale (y + 2 * scale) (x + 2 * scale) (Text.toUpper label).toList).map fun c =>
    ⟨c.1, c.2, .over colour 255⟩

/-- The height of a tag above an upper edge, of which 32 bits are kept. -/
def aboveEdge (scale : Nat) (y : Int) : Int := (Int32.ofInt (y - 9 * scale)).toInt

/-- The upper edge of a tag: above the box, or at its upper edge when there is no room. -/
def tagTop (scale : Nat) (y : Int) : Nat := if 0 ≤ aboveEdge scale y then (aboveEdge scale y).toNat else y.toNat

/-- A box with its label; the far edges keep 32 bits. -/
def boxStrokes (w h scale : Nat) (colour : Colour) (label : String) (b : Box) : List Stroke :=
  let x2 := (Int32.ofInt b.right).toInt - 1
  let y2 := (Int32.ofInt b.bottom).toInt - 1
  (outline w h scale b.left b.top x2 y2).map (fun c => ⟨c.1, c.2, .over colour 230⟩) ++
  tagStrokes w h scale b.left.toNat (tagTop scale b.top) label colour

def strokes (p : Picture) (marks : List (String × Box)) : List Stroke :=
  marks.zipIdx.flatMap fun m =>
    boxStrokes p.w p.h (scaleOf p) (palette.getD (m.2 % palette.size) default) m.1.1 m.1.2

/-! ## Drawing -/

/-- The four bytes of a pixel under a stroke; the pixel becomes opaque. -/
def touch (ink : Ink) (data : Array UInt8) (i : Nat) : Array UInt8 :=
  match ink with
  | .over c cover => (((data.modify i (mix cover · c.red)).modify (i + 1) (mix cover · c.green)).modify (i + 2)
      (mix cover · c.blue)).modify (i + 3) fun _ => 255
  | .shade => (((data.modify i shade).modify (i + 1) shade).modify (i + 2) shade).modify (i + 3) fun _ => 255

def apply (w h : Nat) (data : Array UInt8) (s : Stroke) : Array UInt8 :=
  if 0 ≤ s.x ∧ s.x < w ∧ 0 ≤ s.y ∧ s.y < h then touch s.ink data ((s.y.toNat * w + s.x.toNat) * 4) else data

theorem size_touch (ink : Ink) (data : Array UInt8) (i : Nat) : (touch ink data i).size = data.size := by
  cases ink <;> simp [touch]

theorem size_apply (w h : Nat) (data : Array UInt8) (s : Stroke) : (apply w h data s).size = data.size := by
  unfold apply
  split
  · exact size_touch ..
  · rfl

theorem size_foldl_apply (w h : Nat) (l : List Stroke) (data : Array UInt8) :
    (l.foldl (apply w h) data).size = data.size := by
  induction l generalizing data with
  | nil => rfl
  | cons s l ih => rw [List.foldl_cons, ih, size_apply]

def paint (p : Picture) (l : List Stroke) : Picture where
  width     := p.width
  height    := p.height
  mode      := p.mode
  data      := l.foldl (apply p.w p.h) p.data
  size_data := by rw [size_foldl_apply]; exact p.size_data

/-- **A copy of a picture with labelled boxes on it.** -/
def annotate (p : Picture) (marks : List (String × Box)) : Picture := paint p.toRgba (strokes p marks)

end Annotate
end Pinpoint
