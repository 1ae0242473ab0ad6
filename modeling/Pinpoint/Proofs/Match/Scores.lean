import Pinpoint.Proofs.Match.Places
import Pinpoint.Proofs.Scalar.Finite
import Pinpoint.Proofs.Scalar.Order
/-!
# Scores — scores of pictures are numbers

A score divides by the length of the template and by the root of the spread of a window.  A template is never flat, and
a window whose spread is too small scores zero, so that neither is zero where it is divided by: the score of a picture
with pixels is a finite number at every place (`isFinite_scoreAt`).  `Scoring` is what a search by template relies on of
its arithmetic.
-/
namespace Pinpoint
namespace Match

open Scalar (Is Exact Roots Lossless isFinite)

/-- The scores of all places are numbers. -/
def Search.Numbers {ν ω : Type} [Scalar ν] [Scalar ω] [Widening ν ω] (s : Search ν ω) : Prop :=
  ∀ x y, x < s.across → y < s.down → s.scoreAt x y ≤ s.scoreAt x y

/-- **Scores are numbers** in every search for a picture with pixels. -/
class Scoring (ν ω : Type) [Scalar ν] [Scalar ω] [Widening ν ω] : Prop where
  numbers {scene reference : Picture} {s : Search ν ω} : Search.make? scene reference = some s →
    reference.isEmpty = false → s.Numbers

/-! ## Finite values -/

/-- Every value of some rows is finite. -/
def FiniteRows {α : Type} [Scalar α] (rows : Array (Array α)) : Prop := ∀ r ∈ rows, ∀ v ∈ r, isFinite v = true

theorem FiniteRows.map {α β : Type} [Scalar α] {rows : Array (Array β)} {f : β → α}
    (h : ∀ r ∈ rows, ∀ v ∈ r, isFinite (f v) = true) :
    FiniteRows (rows.map fun r => r.map f) := by
  intro r hr v hv
  obtain ⟨q, hq, rfl⟩ := Array.mem_map.1 hr
  obtain ⟨u, hu, rfl⟩ := Array.mem_map.1 hv
  exact h q hq u hu

theorem FiniteRows.row {α : Type} [Scalar α] {rows : Array (Array α)} (h : FiniteRows rows) (y : Nat) :
    ∀ v ∈ rows.getD y #[], isFinite v = true := by
  rw [Array.getD_eq_getD_getElem?]
  cases hr : rows[y]? with
  | none => simp
  | some r => exact h r (Array.mem_of_getElem? hr)

/-- The value is a finite number and not negative. -/
def IsNonneg {α : Type} [Scalar α] [Exact α] (a : α) : Prop := ∃ r, Is a r ∧ 0 ≤ r

section
variable {α : Type} [Scalar α] [Exact α]

theorem isFinite_getD {r : Array α} (hr : ∀ v ∈ r, isFinite v = true) (x : Nat) :
    isFinite (r.getD x (Scalar.ofInt 0)) = true := by
  rw [Array.getD_eq_getD_getElem?]
  cases hv : r[x]? with
  | none => exact Scalar.isFinite_ofInt 0
  | some v => exact hr v (Array.mem_of_getElem? hv)

theorem FiniteRows.getD {rows : Array (Array α)} (h : FiniteRows rows) (x y : Nat) :
    isFinite ((rows.getD y #[]).getD x (Scalar.ofInt 0)) = true :=
  isFinite_getD (h.row y) x

theorem isFinite_sum {l : List α} (hl : ∀ v ∈ l, isFinite v = true) : isFinite (Scalar.sum l) = true :=
  List.foldlRecOn (motive := fun acc => isFinite acc = true) l _ (Scalar.isFinite_ofInt 0) fun _ hacc v hv =>
    Scalar.isFinite_add hacc (hl v hv)

theorem isNonneg_sq {a : α} (ha : isFinite a = true) : IsNonneg (Scalar.sq a) :=
  ⟨_, (Scalar.is_val ha).mul (Scalar.is_val ha), mul_self_nonneg _⟩

theorem isNonneg_sum {l : List α} (hl : ∀ v ∈ l, IsNonneg v) : IsNonneg (Scalar.sum l) := by
  have hzero : IsNonneg (Scalar.ofInt 0 : α) := ⟨_, Is.ofInt 0, by simp⟩
  refine List.foldlRecOn (motive := IsNonneg) l _ hzero fun acc hacc v hv => ?_
  obtain ⟨r, hr, hr0⟩ := hacc
  obtain ⟨s, hs, hs0⟩ := hl v hv
  exact ⟨r + s, hr.add hs, add_nonneg hr0 hs0⟩

/-! ## Tables -/

theorem isFinite_runningSums {acc : α} {l : List α} (hacc : isFinite acc = true) (hl : ∀ v ∈ l, isFinite v = true) :
    ∀ v ∈ runningSums acc l, isFinite v = true := by
  induction l generalizing acc with
  | nil => simpa [runningSums] using hacc
  | cons u l ih =>
    obtain ⟨hu, hl⟩ := List.forall_mem_cons.1 hl
    exact List.forall_mem_cons.2 ⟨hacc, ih (Scalar.isFinite_add hacc hu) hl⟩

theorem isFinite_tableBelow {above : List α} {l : List (List α)} (habove : ∀ v ∈ above, isFinite v = true)
    (hl : ∀ r ∈ l, ∀ v ∈ r, isFinite v = true) : ∀ r ∈ tableBelow above l, ∀ v ∈ r, isFinite v = true := by
  induction l generalizing above with
  | nil => simpa [tableBelow] using habove
  | cons r l ih =>
    obtain ⟨hr, hl⟩ := List.forall_mem_cons.1 hl
    refine List.forall_mem_cons.2 ⟨habove, ih (fun v hv => ?_) hl⟩
    obtain ⟨i, hi, hiv⟩ := List.getElem_of_mem hv
    rw [List.getElem_zipWith] at hiv
    rw [← hiv]
    exact Scalar.isFinite_add (habove _ (List.getElem_mem _))
      (isFinite_runningSums (Scalar.isFinite_ofInt 0) hr _ (List.getElem_mem _))

theorem finiteRows_ofRows {w : Nat} {rows : List (List α)} (hrows : ∀ r ∈ rows, ∀ v ∈ r, isFinite v = true) :
    FiniteRows (Table.ofRows w rows).rows := by
  have hzero : ∀ v ∈ List.replicate (w + 1) (Scalar.ofInt 0 : α), isFinite v = true := by
    intro v hv
    rw [List.eq_of_mem_replicate hv]
    exact Scalar.isFinite_ofInt 0
  intro r hr v hv
  simp only [Table.ofRows, List.mem_toArray, List.mem_map] at hr
  obtain ⟨l, hl, rfl⟩ := hr
  exact isFinite_tableBelow hzero hrows l hl v (List.mem_toArray.1 hv)

theorem isFinite_window {t : Table α} (ht : FiniteRows t.rows) (x y w h : Nat) : isFinite (t.window x y w h) = true :=
  Scalar.isFinite_add (Scalar.isFinite_sub (Scalar.isFinite_sub (ht.getD _ _) (ht.getD _ _)) (ht.getD _ _)) (ht.getD _ _)

end

/-! ## Pictures -/

variable {ν ω : Type} [Scalar ν]

theorem values_ofPicture_ne_nil {p : Picture} (hp : p.isEmpty = false) : (Plane.ofPicture p : Plane ν).values ≠ [] := by
  obtain ⟨hw, hh⟩ := Picture.isEmpty_eq_false_iff.1 hp
  have hfirst : (Scalar.ofNat (p.toLuma.byte 0 0 0).toNat : ν) ∈ (Plane.ofPicture p : Plane ν).values := by
    simp only [Plane.values, Plane.ofPicture, Plane.ofFn, List.mem_flatMap, Array.mem_toList_iff, Array.mem_map,
      Array.mem_range, p.w_toLuma, p.h_toLuma]
    exact ⟨_, ⟨0, hh, rfl⟩, Array.mem_map.2 ⟨0, by simpa using hw, rfl⟩⟩
  exact List.ne_nil_of_mem hfirst

variable [Exact ν]

theorem finiteRows_ofPicture (p : Picture) : FiniteRows (Plane.ofPicture p : Plane ν).rows := by
  intro r hr v hv
  obtain ⟨y, -, rfl⟩ := Array.mem_map.1 hr
  obtain ⟨x, -, rfl⟩ := Array.mem_map.1 hv
  exact Scalar.isFinite_ofNat _

variable [Scalar ω] [Exact ω] [Widening ν ω] [Lossless ν ω]

theorem isFinite_widen {a : ν} (ha : isFinite a = true) : isFinite (Widening.widen a : ω) = true :=
  (Lossless.widen (Scalar.is_val ha)).1

theorem isFinite_narrow {a : ω} (ha : isFinite a = true) : isFinite (Widening.narrow a : ν) = true :=
  (Lossless.narrow (Scalar.is_val ha)).1

/-- **A template has finite values and a positive length.** -/
theorem Template.ofPlane?_finite [Roots ω] {p : Plane ν} {t : Template ν ω} (hp : FiniteRows p.rows)
    (hne : p.values ≠ []) (h : Template.ofPlane? p = some t) : FiniteRows t.rows ∧ ∃ r, Is t.norm r ∧ 0 < r := by
  have hvalues : ∀ v ∈ p.values.map (Widening.widen : ν → ω), isFinite v = true := by
    intro v hv
    obtain ⟨u, hu, rfl⟩ := List.mem_map.1 hv
    obtain ⟨r, hr, hur⟩ := List.mem_flatMap.1 hu
    exact isFinite_widen (hp r (Array.mem_toList_iff.1 hr) u (Array.mem_toList_iff.1 hur))
  have hlength : ((p.values.map (Widening.widen : ν → ω)).length : ℝ) ≠ 0 := by
    rw [List.length_map, Nat.cast_ne_zero, ne_eq, List.length_eq_zero_iff]
    exact hne
  have hmean := ((Scalar.is_val (isFinite_sum hvalues)).div (Is.ofNat (α := ω) _) hlength).1
  unfold Template.ofPlane? at h
  dsimp only at h
  generalize Scalar.sum (p.values.map (Widening.widen : ν → ω)) /
    Scalar.ofNat (p.values.map (Widening.widen : ν → ω)).length = mean at hmean h
  have hrows : FiniteRows (p.rows.map fun r => r.map fun v =>
      (Widening.narrow ((Widening.widen v : ω) - mean) : ν)) :=
    FiniteRows.map fun r hr v hv => isFinite_narrow (Scalar.isFinite_sub (isFinite_widen (hp r hr v hv)) hmean)
  generalize (p.rows.map fun r => r.map fun v => (Widening.narrow ((Widening.widen v : ω) - mean) : ν)) = rows at hrows h
  split at h
  · rename_i hflat
    obtain rfl := Option.some.inj h
    refine ⟨hrows, ?_⟩
    have hsquares : IsNonneg (Scalar.sum (rows.toList.flatMap fun r =>
        r.toList.map fun v => Scalar.sq (Widening.widen v : ω))) := by
      refine isNonneg_sum fun v hv => ?_
      obtain ⟨r, hr, hvr⟩ := List.mem_flatMap.1 hv
      obtain ⟨u, hu, rfl⟩ := List.mem_map.1 hvr
      exact isNonneg_sq (isFinite_widen (hrows r (Array.mem_toList_iff.1 hr) u (Array.mem_toList_iff.1 hu)))
    obtain ⟨q, hq, hq0⟩ := hsquares
    obtain ⟨r, hr, hr0⟩ := Roots.exists_nonneg hq hq0
    have hlt := ((Is.ratio (α := ω) 1 (q := 1000000) (by omega)).lt hr).1 hflat
    exact ⟨r, hr, lt_of_le_of_lt (by positivity) hlt⟩
  · cases h

namespace Search

variable {s : Search ν ω}

theorem isFinite_rowProduct {a b : Array ν} (ha : ∀ v ∈ a, isFinite v = true) (hb : ∀ v ∈ b, isFinite v = true)
    {x left i : Nat} {acc : ν} (hacc : isFinite acc = true) : isFinite (rowProduct a b x left i acc) = true := by
  induction left generalizing i acc with
  | zero => exact hacc
  | succ left ih => exact ih (Scalar.isFinite_add hacc (Scalar.isFinite_mul (isFinite_getD ha _) (isFinite_getD hb _)))

theorem isFinite_cross (hscene : FiniteRows s.scene.rows) (htemplate : FiniteRows s.template.rows) (x y : Nat) :
    isFinite (s.cross x y) = true := by
  refine List.foldlRecOn (motive := fun acc => isFinite acc = true) _ _ (Scalar.isFinite_ofInt 0) fun acc hacc j _ => ?_
  exact Scalar.isFinite_add hacc (isFinite_widen
    (isFinite_rowProduct (hscene.row _) (htemplate.row _) (Scalar.isFinite_ofInt 0)))

/-- **Scores are finite**, wherever they are asked for. -/
theorem isFinite_scoreAt [Roots ω] {scene reference : Picture} (h : make? scene reference = some s)
    (hne : reference.isEmpty = false) (x y : Nat) : isFinite (s.scoreAt x y) = true := by
  obtain ⟨hscene, hintegral, htemplate, -, -⟩ := make?_eq_some h
  obtain ⟨-, -, hw, hh⟩ := make?_sizes h
  have hfinite : FiniteRows s.scene.rows := hscene ▸ finiteRows_ofPicture scene
  obtain ⟨hrows, norm, hnorm, hpos⟩ := Template.ofPlane?_finite (finiteRows_ofPicture reference)
    (values_ofPicture_ne_nil hne) htemplate
  have hwide : ∀ r ∈ s.scene.rows.toList.map fun r => r.toList.map fun v => (Widening.widen v : ω),
      ∀ v ∈ r, isFinite v = true := by
    intro r hr v hv
    obtain ⟨q, hq, rfl⟩ := List.mem_map.1 hr
    obtain ⟨u, hu, rfl⟩ := List.mem_map.1 hv
    exact isFinite_widen (hfinite q (Array.mem_toList_iff.1 hq) u (Array.mem_toList_iff.1 hu))
  have hsums : FiniteRows s.integral.sums.rows := by
    rw [hintegral]
    exact finiteRows_ofRows hwide
  have hsquares : FiniteRows s.integral.squares.rows := by
    rw [hintegral]
    refine finiteRows_ofRows fun r hr v hv => ?_
    obtain ⟨q, hq, rfl⟩ := List.mem_map.1 hr
    obtain ⟨u, hu, rfl⟩ := List.mem_map.1 hv
    obtain ⟨t, ht, -⟩ := isNonneg_sq (hwide q hq u hu)
    exact ht.1
  have hn := Is.ofNat (α := ω) (s.template.width * s.template.height)
  have hn0 : ((s.template.width * s.template.height : Nat) : ℝ) ≠ 0 := by
    obtain ⟨hw0, hh0⟩ := Picture.isEmpty_eq_false_iff.1 hne
    rw [hw, hh, Nat.cast_ne_zero]
    exact (Nat.mul_pos hw0 hh0).ne'
  have hsum := isFinite_window hsums x y s.template.width s.template.height
  have hspread : isFinite (s.spread x y) = true :=
    Scalar.isFinite_sub (isFinite_window hsquares _ _ _ _)
      ((Scalar.is_val (Scalar.isFinite_mul hsum hsum)).div hn hn0).1
  have hflat : Is (flatness * Scalar.ofNat (s.template.width * s.template.height) : ω)
      (((1 : Nat) : ℝ) / ((1000000 : Nat) : ℝ) * ((s.template.width * s.template.height : Nat) : ℝ)) :=
    (Is.ratio 1 (by omega)).mul hn
  unfold scoreAt
  dsimp only
  split
  · exact Scalar.isFinite_ofInt 0
  · rename_i hspreads
    rw [(Scalar.is_val hspread).le hflat, not_le] at hspreads
    obtain ⟨root, hroot, hroot0⟩ := Roots.exists_pos (Scalar.is_val hspread) (lt_of_le_of_lt (by positivity) hspreads)
    exact isFinite_narrow ((Scalar.is_val (isFinite_cross hfinite hrows x y)).div (hnorm.mul hroot)
      (mul_pos hpos hroot0).ne').1

end Search

/-- In exact arithmetic scores are numbers. -/
instance [Scalar.Ordered ν] [Roots ω] : Scoring ν ω where
  numbers h hne x y _ _ := Scalar.Ordered.finite (Search.isFinite_scoreAt h hne x y)

end Match
end Pinpoint
