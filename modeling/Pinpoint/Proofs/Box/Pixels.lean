import Mathlib.Algebra.Group.Int.Defs
import Mathlib.Algebra.Group.Nat.Defs
import Mathlib.Data.Set.Basic
import Pinpoint.Box.Listing
/-!
# Pixels — boxes and lists of boxes as sets of pixels

A box holds 32 bits of each corner and extent, and its edges are read as unbounded integers; what is cut out of a box
has edges that fit again, so no sharing of regions ever wraps around.  The shared region of two boxes is there exactly
when they have a pixel in common (`inter?_eq_none_iff`), and then it covers exactly the common ones (`mem_of_inter?`).
Lifted to lists, the pairwise regions cover the pixels that both lists cover (`pixels_pairwiseInter`).
-/
namespace Pinpoint
namespace Box

/-! ## Edges -/

theorem le_left (b : Box) : -2 ^ 31 ≤ b.left := b.x.le_toInt
theorem left_lt (b : Box) : b.left < 2 ^ 31 := b.x.toInt_lt
theorem le_top (b : Box) : -2 ^ 31 ≤ b.top := b.y.le_toInt
theorem top_lt (b : Box) : b.top < 2 ^ 31 := b.y.toInt_lt

theorem left_le_right (b : Box) : b.left ≤ b.right := by unfold right; omega
theorem top_le_bottom (b : Box) : b.top ≤ b.bottom := by unfold bottom; omega

theorem right_sub_left_lt (b : Box) : b.right - b.left < 2 ^ 32 := by
  have := b.width.toNat_lt
  unfold right
  omega

theorem bottom_sub_top_lt (b : Box) : b.bottom - b.top < 2 ^ 32 := by
  have := b.height.toNat_lt
  unfold bottom
  omega

/-- Every edge is far inside 64 bits. -/
theorem edges_mem (b : Box) : (-2 ^ 31 ≤ b.left ∧ b.left ≤ b.right ∧ b.right < 2 ^ 33) ∧
    (-2 ^ 31 ≤ b.top ∧ b.top ≤ b.bottom ∧ b.bottom < 2 ^ 33) := by
  have hl := b.left_lt
  have hw := b.right_sub_left_lt
  have ht := b.top_lt
  have hh := b.bottom_sub_top_lt
  exact ⟨⟨b.le_left, b.left_le_right, by omega⟩, ⟨b.le_top, b.top_le_bottom, by omega⟩⟩

theorem isEmpty_eq_false_iff (b : Box) : b.isEmpty = false ↔ b.left < b.right ∧ b.top < b.bottom := by
  have hw : b.width = 0 ↔ b.width.toNat = 0 := by rw [← UInt32.toNat_inj]; rfl
  have hh : b.height = 0 ↔ b.height.toNat = 0 := by rw [← UInt32.toNat_inj]; rfl
  simp only [isEmpty, Bool.or_eq_false_iff, beq_eq_false_iff_ne, ne_eq, hw, hh, right, bottom]
  omega

theorem left_ofCorners {x1 y1 x2 y2 : Int} (h : -2 ^ 31 ≤ x1) (h' : x1 < 2 ^ 31) : (ofCorners x1 y1 x2 y2).left = x1 :=
  Int32.toInt_ofInt_of_le h h'

theorem top_ofCorners {x1 y1 x2 y2 : Int} (h : -2 ^ 31 ≤ y1) (h' : y1 < 2 ^ 31) : (ofCorners x1 y1 x2 y2).top = y1 :=
  Int32.toInt_ofInt_of_le h h'

/-- **What is kept of an extent**: 64 bits of the difference, and 32 of those unless it is negative. -/
theorem toNat_extent (a b : Int) : (extent a b).toNat = ((b - a).bmod (2 ^ 64)).toNat % 2 ^ 32 := by
  rw [extent, UInt32.toNat_ofNat', Int64.toInt_ofInt]
  rfl

theorem toNat_extent_of_fits {a b : Int} (h : -2 ^ 63 ≤ b - a ∧ b - a < 2 ^ 32) : (extent a b).toNat = (b - a).toNat := by
  rw [toNat_extent, Int.bmod_eq_of_le (by omega) (by omega), Nat.mod_eq_of_lt (by omega)]

/-! From the least number of 64 bits to the largest is too far: the difference wraps around and is negative. -/

example : extent (-2 ^ 63) (2 ^ 63 - 1) = 0 := by decide

/-- The far edge is kept if the extent fits as well; it is never left of the near one. -/
theorem right_ofCorners {x1 y1 x2 y2 : Int} (h : -2 ^ 31 ≤ x1) (h' : x1 < 2 ^ 31)
    (hw : -2 ^ 63 ≤ x2 - x1 ∧ x2 - x1 < 2 ^ 32) : (ofCorners x1 y1 x2 y2).right = max x1 x2 := by
  have hn : (ofCorners x1 y1 x2 y2).width.toNat = (x2 - x1).toNat := toNat_extent_of_fits hw
  unfold right
  rw [left_ofCorners h h', hn]
  omega

theorem bottom_ofCorners {x1 y1 x2 y2 : Int} (h : -2 ^ 31 ≤ y1) (h' : y1 < 2 ^ 31)
    (hh : -2 ^ 63 ≤ y2 - y1 ∧ y2 - y1 < 2 ^ 32) : (ofCorners x1 y1 x2 y2).bottom = max y1 y2 := by
  have hn : (ofCorners x1 y1 x2 y2).height.toNat = (y2 - y1).toNat := toNat_extent_of_fits hh
  unfold bottom
  rw [top_ofCorners h h', hn]
  omega

/-- **The edges of a box between two corners**, as far as 32 bits hold its near corner and its extent. -/
theorem edges_ofCorners (x1 y1 x2 y2 : Int) (hx : -2 ^ 31 ≤ x1 ∧ x1 < 2 ^ 31) (hy : -2 ^ 31 ≤ y1 ∧ y1 < 2 ^ 31)
    (hw : -2 ^ 63 ≤ x2 - x1 ∧ x2 - x1 < 2 ^ 32) (hh : -2 ^ 63 ≤ y2 - y1 ∧ y2 - y1 < 2 ^ 32) :
    (ofCorners x1 y1 x2 y2).left = x1 ∧ (ofCorners x1 y1 x2 y2).top = y1 ∧
      (ofCorners x1 y1 x2 y2).right = max x1 x2 ∧ (ofCorners x1 y1 x2 y2).bottom = max y1 y2 :=
  ⟨left_ofCorners hx.1 hx.2, top_ofCorners hy.1 hy.2, right_ofCorners hx.1 hx.2 hw, bottom_ofCorners hy.1 hy.2 hh⟩

theorem ext_edges {a b : Box} (hl : a.left = b.left) (ht : a.top = b.top) (hr : a.right = b.right)
    (hb : a.bottom = b.bottom) : a = b := by
  have hw : a.width = b.width := UInt32.toNat_inj.1 (by unfold right at hr; omega)
  have hh : a.height = b.height := UInt32.toNat_inj.1 (by unfold bottom at hb; omega)
  cases a
  cases b
  simp only [mk.injEq]
  exact ⟨Int32.toInt_inj.1 hl, Int32.toInt_inj.1 ht, hw, hh⟩

/-! ## One box -/

theorem mem_iff (b : Box) (p : Int × Int) : p ∈ b ↔ b.left ≤ p.1 ∧ p.1 < b.right ∧ b.top ≤ p.2 ∧ p.2 < b.bottom :=
  Iff.rfl

theorem corner_mem {b : Box} (h : b.isEmpty = false) : (b.left, b.top) ∈ b := by
  rw [isEmpty_eq_false_iff] at h
  exact ⟨Int.le_refl _, h.1, Int.le_refl _, h.2⟩

/-! ## Two boxes -/

theorem inter?_comm (a b : Box) : a.inter? b = b.inter? a := by
  unfold inter?
  rw [Int.max_comm a.left, Int.max_comm a.top, Int.min_comm a.right, Int.min_comm a.bottom]

/-- **The edges of a shared region**, which always has area. -/
theorem inter?_eq_some {a b c : Box} (h : a.inter? b = some c) :
    c.left = max a.left b.left ∧ c.top = max a.top b.top ∧ c.right = min a.right b.right ∧
      c.bottom = min a.bottom b.bottom ∧ c.isEmpty = false := by
  obtain ⟨hax, hay⟩ := a.edges_mem
  obtain ⟨hbx, hby⟩ := b.edges_mem
  have hx := And.intro a.left_lt b.left_lt
  have hy := And.intro a.top_lt b.top_lt
  have hw := a.right_sub_left_lt
  have hh := a.bottom_sub_top_lt
  simp only [inter?] at h
  split at h
  · cases h
  · rename_i hne
    obtain rfl := Option.some.inj h
    have hne : (ofCorners (max a.left b.left) (max a.top b.top) (min a.right b.right)
        (min a.bottom b.bottom)).isEmpty = false := by simpa using hne
    obtain ⟨hl, ht, hr, hb⟩ := edges_ofCorners (max a.left b.left) (max a.top b.top) (min a.right b.right)
      (min a.bottom b.bottom) (by omega) (by omega) (by omega) (by omega)
    have hlt := (isEmpty_eq_false_iff _).1 hne
    refine ⟨hl, ht, ?_, ?_, hne⟩ <;> omega

/-- **The shared region covers exactly the common pixels.** -/
theorem mem_of_inter? {a b c : Box} (h : a.inter? b = some c) (p : Int × Int) : p ∈ c ↔ p ∈ a ∧ p ∈ b := by
  obtain ⟨hl, ht, hr, hb, -⟩ := inter?_eq_some h
  simp only [mem_iff, hl, ht, hr, hb]
  omega

/-- **There is no shared region exactly when no pixel is common.** -/
theorem inter?_eq_none_iff (a b : Box) : a.inter? b = none ↔ ∀ p, ¬ (p ∈ a ∧ p ∈ b) := by
  constructor
  · intro h p hp
    simp only [mem_iff] at hp
    have hx := And.intro a.le_left (And.intro a.left_lt (And.intro b.le_left b.left_lt))
    have hy := And.intro a.le_top (And.intro a.top_lt (And.intro b.le_top b.top_lt))
    have hw := a.right_sub_left_lt
    have hh := a.bottom_sub_top_lt
    obtain ⟨hl, ht, hr, hb⟩ := edges_ofCorners (max a.left b.left) (max a.top b.top) (min a.right b.right)
      (min a.bottom b.bottom) (by omega) (by omega) (by omega) (by omega)
    have hne : (ofCorners (max a.left b.left) (max a.top b.top) (min a.right b.right)
        (min a.bottom b.bottom)).isEmpty = false := by
      rw [isEmpty_eq_false_iff, hl, ht, hr, hb]
      omega
    simp only [inter?, hne, Bool.false_eq_true, if_false, reduceCtorEq] at h
  · intro h
    cases hc : a.inter? b with
    | none => rfl
    | some c => exact absurd ((mem_of_inter? hc _).1 (corner_mem (inter?_eq_some hc).2.2.2.2)) (h _)

/-! ## Lists of boxes -/

/-- **The pixels that a list of boxes covers.** -/
def pixels (l : List Box) : Set (Int × Int) := {p | ∃ b ∈ l, p ∈ b}

theorem mem_pixels (l : List Box) (p : Int × Int) : p ∈ pixels l ↔ ∃ b ∈ l, p ∈ b := Iff.rfl

theorem pixels_congr {l m : List Box} (h : ∀ b, b ∈ l ↔ b ∈ m) : pixels l = pixels m := by
  ext p
  simp only [mem_pixels, h]

theorem pixels_append (l m : List Box) : pixels (l ++ m) = pixels l ∪ pixels m := by
  ext p
  simp only [mem_pixels, List.mem_append, Set.mem_union]
  constructor
  · rintro ⟨b, hb | hb, hp⟩
    · exact Or.inl ⟨b, hb, hp⟩
    · exact Or.inr ⟨b, hb, hp⟩
  · rintro (⟨b, hb, hp⟩ | ⟨b, hb, hp⟩)
    · exact ⟨b, Or.inl hb, hp⟩
    · exact ⟨b, Or.inr hb, hp⟩

@[simp] theorem pixels_nil : pixels [] = ∅ := by
  ext p
  simp [mem_pixels]

theorem mem_pairwiseInter {l m : List Box} {c : Box} :
    c ∈ pairwiseInter l m ↔ ∃ a ∈ l, ∃ b ∈ m, a.inter? b = some c := by
  simp only [pairwiseInter, List.mem_eraseDups, List.mem_flatMap, List.mem_filterMap]

/-- **The pairwise regions cover the pixels that both lists cover.** -/
theorem pixels_pairwiseInter (l m : List Box) : pixels (pairwiseInter l m) = pixels l ∩ pixels m := by
  ext p
  simp only [Set.mem_inter_iff, mem_pixels, mem_pairwiseInter]
  constructor
  · rintro ⟨c, ⟨a, ha, b, hb, hc⟩, hp⟩
    obtain ⟨hpa, hpb⟩ := (mem_of_inter? hc p).1 hp
    exact ⟨⟨a, ha, hpa⟩, ⟨b, hb, hpb⟩⟩
  · rintro ⟨⟨a, ha, hpa⟩, ⟨b, hb, hpb⟩⟩
    cases hc : a.inter? b with
    | none => exact absurd ⟨hpa, hpb⟩ ((inter?_eq_none_iff a b).1 hc p)
    | some c => exact ⟨c, ⟨a, ha, b, hb, hc⟩, (mem_of_inter? hc p).2 ⟨hpa, hpb⟩⟩

/-- Every region of a pairwise list has area, so an empty list is the only one that covers nothing. -/
theorem pairwiseInter_eq_nil_iff (l m : List Box) : pairwiseInter l m = [] ↔ pixels l ∩ pixels m = ∅ := by
  rw [← pixels_pairwiseInter]
  constructor
  · intro h
    rw [h, pixels_nil]
  · intro h
    rw [List.eq_nil_iff_forall_not_mem]
    intro c hc
    obtain ⟨a, -, b, -, hab⟩ := mem_pairwiseInter.1 hc
    have : (c.left, c.top) ∈ pixels (pairwiseInter l m) := ⟨c, hc, corner_mem (inter?_eq_some hab).2.2.2.2⟩
    rw [h] at this
    exact this

end Box
end Pinpoint
