import Pinpoint.Proofs.Match.Places
/-!
# Reads — every value that a search reads is there

Reading beyond a row or a table gives a default value, and a search would go on with it.  Here every function of a search
that reads has a twin that gives up instead (`corner?` up to `findTemplate?`).  A search keeps full rows of the scene and
of the reference and full tables (`Search.Filled`), and the windows it looks at are within them, so that no twin ever
gives up (`findTemplate?_eq`).
-/
namespace Pinpoint
namespace Match

/-! ## Searches that give up -/

section
variable {α : Type} [Scalar α]

def Table.corner? (t : Table α) (x y : Nat) : Option α := t.rows[y]?.bind fun r => r[x]?

def Table.window? (t : Table α) (x y w h : Nat) : Option α := do
  let a ← t.corner? (x + w) (y + h)
  let b ← t.corner? x (y + h)
  let c ← t.corner? (x + w) y
  let d ← t.corner? x y
  return a - b - c + d

end

variable {ν ω : Type} [Scalar ν]

namespace Search

def rowProduct? (a b : Array ν) (x : Nat) : (left i : Nat) → ν → Option ν
  | 0, _, acc        => some acc
  | left + 1, i, acc => do
    let u ← a[x + i]?
    let v ← b[i]?
    rowProduct? a b x left (i + 1) (acc + u * v)

variable [Scalar ω] [Widening ν ω] (s : Search ν ω)

def cross? (x y : Nat) : Option ω :=
  (List.range s.template.height).foldlM (fun acc j => do
    let a ← s.scene.rows[y + j]?
    let b ← s.template.rows[j]?
    let v ← rowProduct? a b x s.template.width 0 (Scalar.ofInt 0)
    return acc + Widening.widen v) (Scalar.ofInt 0)

def spread? (x y : Nat) : Option ω := do
  let sum ← s.integral.sums.window? x y s.template.width s.template.height
  let squares ← s.integral.squares.window? x y s.template.width s.template.height
  return squares - sum * sum / Scalar.ofNat (s.template.width * s.template.height)

def scoreAt? (x y : Nat) : Option ν := do
  let spread ← s.spread? x y
  if spread ≤ flatness * Scalar.ofNat (s.template.width * s.template.height) then return Scalar.ofInt 0
  else
    let cross ← s.cross? x y
    return Widening.narrow (cross / (s.template.norm * Scalar.sqrt spread))

def scoreMap? : Option (Peak.Map ν) := do
  let scores ← (List.range (s.across * s.down)).mapM fun i => s.scoreAt? (i % s.across) (i / s.across)
  return ⟨s.across, (scores.map some).toArray⟩

/-- The better of a place so far and a new one. -/
def improve (best : Option (Peak ν)) (p : Peak ν) : Option (Peak ν) :=
  match best with
  | some b => if b.score < p.score then some p else some b
  | none   => some p

def refine? (radius x y : Nat) : Option (Option (Peak ν)) :=
  (upTo (y - radius) (min (y + radius) (s.down - 1))).foldlM (fun best y =>
    (upTo (x - radius) (min (x + radius) (s.across - 1))).foldlM (fun best x => do
      let score ← s.scoreAt? x y
      return improve best ⟨score, x, y⟩) best) none

end Search

variable [Scalar ω] [Widening ν ω]

def refined? (c : TemplateSettings ν ω) (full coarse : Search ν ω) (factor : ω) : Option (List (Peak ν)) := do
  let radius := toNatSaturating (Scalar.ceil (Scalar.ofInt 1 / factor)) + 1
  let back (v : Nat) : Nat := toNatSaturating (Scalar.round (Scalar.ofNat v / factor))
  let map ← coarse.scoreMap?
  let peaks := Peak.pick (coarse.template.width / 2) (coarse.template.height / 2) (slack c.threshold)
    (c.maxMatches * 4) map
  let found ← peaks.mapM fun p => full.refine? radius (back p.x) (back p.y)
  return found.filterMap fun q => q.filter fun q => decide (c.threshold ≤ q.score)

def places? (c : TemplateSettings ν ω) (scene reference : Picture) (full : Search ν ω) : Option (List (Peak ν)) :=
  let factor : ω := coarseFactor c reference.width reference.height
  match coarse? scene reference factor with
  | some coarse => refined? c full coarse factor
  | none        => full.scoreMap?.map (Peak.pick (reference.w / 2) (reference.h / 2) c.threshold c.maxMatches)

/-- **The search that gives up** where it would read a value that is not there. -/
def findTemplate? (c : TemplateSettings ν ω) (scene reference : Picture) : Option (TemplateSignal ν) :=
  let scene := scene.toLuma
  let reference := reference.toLuma
  if reference.isEmpty || c.maxMatches == 0 then some ⟨[], []⟩
  else match (Search.make? scene reference : Option (Search ν ω)) with
    | none      => some ⟨[], []⟩
    | some full =>
      (places? c scene reference full).map fun l => signalOf reference.width reference.height
        (accept (reference.w / 2) (reference.h / 2) c.maxMatches l)

/-! ## Full rows -/

theorem getD_of_some {β : Type} {a : Array β} {i : Nat} {v : β} (h : a[i]? = some v) (d : β) : a.getD i d = v := by
  rw [Array.getD_eq_getD_getElem?, h, Option.getD_some]

/-- **Rows of one length**, as many as there should be. -/
structure Grid {β : Type} (rows : Array (Array β)) (w h : Nat) : Prop where
  height : rows.size = h
  width  : ∀ r ∈ rows, r.size = w

namespace Grid

variable {β γ : Type} {rows : Array (Array β)} {w h x y : Nat}

theorem exists_row (hg : Grid rows w h) (hy : y < h) : ∃ r, rows[y]? = some r ∧ r.size = w := by
  have hy' : y < rows.size := hg.height ▸ hy
  exact ⟨rows[y], Array.getElem?_eq_getElem hy', hg.width _ (Array.getElem_mem hy')⟩

theorem map (hg : Grid rows w h) (f : β → γ) : Grid (rows.map fun r => r.map f) w h where
  height := by rw [Array.size_map, hg.height]
  width r hr := by
    obtain ⟨q, hq, rfl⟩ := Array.mem_map.1 hr
    rw [Array.size_map, hg.width q hq]

theorem corner? [Scalar β] (hg : Grid rows w h) (hx : x < w) (hy : y < h) :
    (⟨rows⟩ : Table β).corner? x y = some ((⟨rows⟩ : Table β).corner x y) := by
  obtain ⟨r, hr, hw⟩ := hg.exists_row hy
  have hv := Array.getElem?_eq_getElem (hw ▸ hx : x < r.size)
  unfold Table.corner? Table.corner
  dsimp only
  rw [hr, Option.bind_some, getD_of_some hr, hv, getD_of_some hv]

theorem window? [Scalar β] {t : Table β} (hg : Grid t.rows (w + 1) (h + 1)) {n m : Nat} (hx : x + n ≤ w)
    (hy : y + m ≤ h) : t.window? x y n m = some (t.window x y n m) := by
  have hcorner : ∀ x y, x ≤ w → y ≤ h → t.corner? x y = some (t.corner x y) := fun x y hx hy =>
    hg.corner? (Nat.lt_succ_of_le hx) (Nat.lt_succ_of_le hy)
  unfold Table.window?
  rw [hcorner _ _ hx hy, hcorner _ _ (by omega) hy, hcorner _ _ hx (by omega), hcorner _ _ (by omega) (by omega)]
  rfl

end Grid

theorem grid_ofFn {β : Type} (w h : Nat) (f : Nat → Nat → β) : Grid (Plane.ofFn w h f).rows w h where
  height := by simp [Plane.ofFn]
  width r hr := by
    obtain ⟨y, -, rfl⟩ := Array.mem_map.1 hr
    simp

section
variable {α : Type} [Scalar α]

theorem length_runningSums (acc : α) (l : List α) : (runningSums acc l).length = l.length + 1 := by
  induction l generalizing acc with
  | nil => rfl
  | cons v l ih => rw [runningSums, List.length_cons, ih, List.length_cons]

theorem tableBelow_sized {w : Nat} (l : List (List α)) {above : List α} (habove : above.length = w + 1)
    (hl : ∀ r ∈ l, r.length = w) :
    (tableBelow above l).length = l.length + 1 ∧ ∀ r ∈ tableBelow above l, r.length = w + 1 := by
  induction l generalizing above with
  | nil => simpa [tableBelow] using habove
  | cons r l ih =>
    obtain ⟨hr, hl⟩ := List.forall_mem_cons.1 hl
    have hnext : (List.zipWith (· + ·) above (runningSums (Scalar.ofInt 0) r)).length = w + 1 := by
      rw [List.length_zipWith, habove, length_runningSums, hr, Nat.min_self]
    obtain ⟨hlength, hall⟩ := ih hnext hl
    exact ⟨by rw [tableBelow, List.length_cons, hlength, List.length_cons], List.forall_mem_cons.2 ⟨habove, hall⟩⟩

/-- **A table has one more row and column than its plane.** -/
theorem grid_ofRows {w h : Nat} {rows : List (List α)} (hlength : rows.length = h) (hrows : ∀ r ∈ rows, r.length = w) :
    Grid (Table.ofRows w rows).rows (w + 1) (h + 1) := by
  obtain ⟨hsize, hall⟩ := tableBelow_sized rows
    (List.length_replicate (n := w + 1) (a := (Scalar.ofInt 0 : α))) hrows
  constructor
  · simp [Table.ofRows, hsize, hlength]
  · intro r hr
    simp only [Table.ofRows, List.mem_toArray, List.mem_map] at hr
    obtain ⟨l, hl, rfl⟩ := hr
    simpa using hall l hl

end

theorem grid_ofPicture (p : Picture) :
    Grid (Plane.ofPicture p : Plane ν).rows (Plane.ofPicture p : Plane ν).width (Plane.ofPicture p : Plane ν).height :=
  grid_ofFn _ _ _

/-- **The tables of a plane** are full if its rows are. -/
theorem Integral.grid_ofPlane {p : Plane ν} (hp : Grid p.rows p.width p.height) :
    Grid (Integral.ofPlane p : Integral ω).sums.rows (p.width + 1) (p.height + 1) ∧
      Grid (Integral.ofPlane p : Integral ω).squares.rows (p.width + 1) (p.height + 1) := by
  have hlength : ∀ r ∈ p.rows.toList.map fun r => r.toList.map fun v => (Widening.widen v : ω), r.length = p.width := by
    intro r hr
    obtain ⟨q, hq, rfl⟩ := List.mem_map.1 hr
    rw [List.length_map, Array.length_toList, hp.width q (Array.mem_toList_iff.1 hq)]
  refine ⟨grid_ofRows (by simp [hp.height]) hlength, grid_ofRows (by simp [hp.height]) fun r hr => ?_⟩
  obtain ⟨q, hq, rfl⟩ := List.mem_map.1 hr
  rw [List.length_map, hlength q hq]

namespace Search

/-- **Every row is full**, and the template is no larger than the scene. -/
structure Filled (s : Search ν ω) : Prop where
  scene     : Grid s.scene.rows s.scene.width s.scene.height
  template  : Grid s.template.rows s.template.width s.template.height
  sums      : Grid s.integral.sums.rows (s.scene.width + 1) (s.scene.height + 1)
  squares   : Grid s.integral.squares.rows (s.scene.width + 1) (s.scene.height + 1)
  width_le  : s.template.width ≤ s.scene.width
  height_le : s.template.height ≤ s.scene.height

theorem make?_filled {scene reference : Picture} {s : Search ν ω} (h : make? scene reference = some s) :
    s.Filled := by
  obtain ⟨hscene, hintegral, htemplate, hw, hh⟩ := make?_eq_some h
  obtain ⟨htw, hth, f, hrows⟩ := Template.ofPlane?_eq_some htemplate
  have hgrid : Grid s.scene.rows s.scene.width s.scene.height := hscene ▸ grid_ofPicture scene
  have hgrids := Integral.grid_ofPlane (ω := ω) hgrid
  rw [← hintegral] at hgrids
  refine ⟨hgrid, ?_, hgrids.1, hgrids.2, hw, hh⟩
  rw [htw, hth, hrows]
  exact (grid_ofPicture reference).map f

/-! ## No search gives up -/

theorem rowProduct?_eq {a b : Array ν} {x left i : Nat} (ha : x + i + left ≤ a.size) (hb : i + left ≤ b.size)
    (acc : ν) : rowProduct? a b x left i acc = some (rowProduct a b x left i acc) := by
  induction left generalizing i acc with
  | zero => rfl
  | succ left ih =>
    have hu := Array.getElem?_eq_getElem (show x + i < a.size by omega)
    have hv := Array.getElem?_eq_getElem (show i < b.size by omega)
    rw [rowProduct?, rowProduct, hu, hv, getD_of_some hu, getD_of_some hv]
    exact ih (by omega) (by omega) _

end Search

/-- A fold whose steps never give up. -/
theorem foldlM_eq_some {β γ : Type} {f : γ → β → Option γ} {g : γ → β → γ} {l : List β}
    (h : ∀ acc, ∀ b ∈ l, f acc b = some (g acc b)) (acc : γ) : l.foldlM f acc = some (l.foldl g acc) := by
  induction l generalizing acc with
  | nil => rfl
  | cons b l ih =>
    rw [List.foldlM_cons, h acc b List.mem_cons_self, List.foldl_cons]
    exact ih (fun acc c hc => h acc c (List.mem_cons_of_mem b hc)) _

theorem mapM_eq_some {β γ : Type} {f : β → Option γ} {g : β → γ} {l : List β} (h : ∀ b ∈ l, f b = some (g b)) :
    l.mapM f = some (l.map g) := by
  induction l with
  | nil => rfl
  | cons b l ih =>
    rw [List.mapM_cons, h b List.mem_cons_self, ih fun c hc => h c (List.mem_cons_of_mem b hc)]
    rfl

namespace Search

variable {s : Search ν ω}

theorem cross?_eq (hs : s.Filled) {x y : Nat} (hx : x + s.template.width ≤ s.scene.width)
    (hy : y + s.template.height ≤ s.scene.height) : s.cross? x y = some (s.cross x y) := by
  refine foldlM_eq_some (fun acc j hj => ?_) _
  rw [List.mem_range] at hj
  obtain ⟨a, ha, hasize⟩ := hs.scene.exists_row (y := y + j) (by omega)
  obtain ⟨b, hb, hbsize⟩ := hs.template.exists_row hj
  rw [ha, hb, Plane.row, getD_of_some ha, getD_of_some hb, Option.bind_eq_bind, Option.bind_some, Option.bind_eq_bind, Option.bind_some,
    rowProduct?_eq (by omega) (by omega)]
  rfl

/-- **A score at a place of the search reads what is there.** -/
theorem scoreAt?_eq (hs : s.Filled) {x y : Nat} (hx : x < s.across) (hy : y < s.down) :
    s.scoreAt? x y = some (s.scoreAt x y) := by
  have hwidth := hs.width_le
  have hheight := hs.height_le
  have hx' : x + s.template.width ≤ s.scene.width := by
    unfold across at hx
    omega
  have hy' : y + s.template.height ≤ s.scene.height := by
    unfold down at hy
    omega
  have hspread : s.spread? x y = some (s.spread x y) := by
    rw [spread?, hs.sums.window? hx' hy', hs.squares.window? hx' hy']
    rfl
  rw [scoreAt?, scoreAt, hspread, cross?_eq hs hx' hy']
  dsimp only [Option.bind_eq_bind, Option.bind_some]
  split <;> rfl

theorem scoreMap?_eq (hs : s.Filled) : s.scoreMap? = some s.scoreMap := by
  have hscore : ∀ i ∈ List.range (s.across * s.down),
      s.scoreAt? (i % s.across) (i / s.across) = some (s.scoreAt (i % s.across) (i / s.across)) := by
    intro i hi
    obtain ⟨hx, hy⟩ := Peak.mod_div_lt (List.mem_range.1 hi)
    exact scoreAt?_eq hs hx hy
  rw [scoreMap?, mapM_eq_some hscore, scoreMap, ← List.toArray_range, List.map_toArray, Option.bind_eq_bind,
    Option.bind_some, List.map_map]
  rfl

theorem refine?_eq (hs : s.Filled) (radius x y : Nat) : s.refine? radius x y = some (s.refine radius x y) := by
  refine foldlM_eq_some (fun best y' hy' => ?_) _
  refine foldlM_eq_some (fun best x' hx' => ?_) _
  rw [mem_upTo] at hx' hy'
  have hacross : 0 < s.across := Nat.succ_pos _
  have hdown : 0 < s.down := Nat.succ_pos _
  rw [scoreAt?_eq hs (by omega) (by omega)]
  rfl

end Search

variable {c : TemplateSettings ν ω} {scene reference : Picture}

theorem refined?_eq {full coarse : Search ν ω} (hfull : full.Filled) (hcoarse : coarse.Filled) (factor : ω) :
    refined? c full coarse factor = some (refined c full coarse factor) := by
  unfold refined? refined
  dsimp only
  rw [Search.scoreMap?_eq hcoarse, Option.bind_eq_bind, Option.bind_some,
    mapM_eq_some fun p _ => Search.refine?_eq hfull _ _ _]
  dsimp only [Option.bind_eq_bind, Option.bind_some]
  rw [List.filterMap_map]
  rfl

theorem coarse?_filled {factor : ω} {s : Search ν ω} (h : coarse? scene reference factor = some s) : s.Filled := by
  unfold coarse? at h
  split at h
  · exact Search.make?_filled h
  · cases h

theorem places?_eq {full : Search ν ω} (hfull : full.Filled) :
    places? c scene reference full = some (places c scene reference full) := by
  unfold places? places
  dsimp only
  cases hcoarse : (coarse? scene reference (coarseFactor c reference.width reference.height) :
      Option (Search ν ω)) with
  | some coarse => exact refined?_eq hfull (coarse?_filled hcoarse) _
  | none =>
    rw [Search.scoreMap?_eq hfull]
    rfl

/-- **A search never gives up**: every value that it reads is there, on the way through the smaller pictures as well. -/
theorem findTemplate?_eq : findTemplate? c scene reference = some (findTemplate c scene reference) := by
  unfold findTemplate? findTemplate
  dsimp only
  split
  · rfl
  · cases hfull : (Search.make? scene.toLuma reference.toLuma : Option (Search ν ω)) with
    | none => rfl
    | some full =>
      dsimp only
      rw [places?_eq (Search.make?_filled hfull)]
      rfl

end Match
end Pinpoint
