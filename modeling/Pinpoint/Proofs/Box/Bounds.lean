import Pinpoint.Proofs.Box.Average
/-!
# Bounds — boxes that lie on a picture

A box lies within a picture when none of its edges is beyond the picture's (`Within`), and is a part of the picture when
it has area as well (`IsPart`).  Clipping gives parts; sharing, joining, averaging and merging of parts give parts again
(`IsPart.average`, `IsPart.mergeOverlapping`), whatever the size of the picture: a part starts where a corner can be.
-/
namespace Pinpoint
namespace Box

/-- **No edge is beyond the picture.** -/
def Within (w h : UInt32) (b : Box) : Prop := 0 ≤ b.left ∧ b.right ≤ w.toNat ∧ 0 ≤ b.top ∧ b.bottom ≤ h.toNat

instance (w h : UInt32) (b : Box) : Decidable (b.Within w h) := inferInstanceAs (Decidable (_ ∧ _ ∧ _ ∧ _))

/-- **A part of a picture**: a box with area within it. -/
structure IsPart (w h : UInt32) (b : Box) : Prop where
  within   : b.Within w h
  nonempty : b.isEmpty = false

variable {w h : UInt32} {a b c : Box}

theorem IsPart.left_lt_right (hb : IsPart w h b) : b.left < b.right := ((isEmpty_eq_false_iff b).1 hb.nonempty).1
theorem IsPart.top_lt_bottom (hb : IsPart w h b) : b.top < b.bottom := ((isEmpty_eq_false_iff b).1 hb.nonempty).2

theorem isPart_ofCorners {x1 y1 x2 y2 : Int} (hx : 0 ≤ x1) (hx' : x1 < 2 ^ 31) (hy : 0 ≤ y1) (hy' : y1 < 2 ^ 31)
    (hlx : x1 < x2) (hly : y1 < y2) (hw : x2 ≤ w.toNat) (hh : y2 ≤ h.toNat) : IsPart w h (ofCorners x1 y1 x2 y2) := by
  have hwb := w.toNat_lt
  have hhb := h.toNat_lt
  obtain ⟨hl, ht, hr, hb⟩ := edges_ofCorners x1 y1 x2 y2 (by omega) (by omega) (by omega) (by omega)
  exact ⟨⟨by omega, by omega, by omega, by omega⟩, (isEmpty_eq_false_iff _).2 ⟨by omega, by omega⟩⟩

theorem IsPart.inter? (ha : IsPart w h a) (hc : a.inter? b = some c) : IsPart w h c := by
  obtain ⟨hl, ht, hr, hb, hne⟩ := inter?_eq_some hc
  obtain ⟨h1, h2, h3, h4⟩ := ha.within
  exact ⟨⟨by omega, by omega, by omega, by omega⟩, hne⟩

theorem left_ofSize (w h : UInt32) : (ofSize w h).left = 0 := rfl
theorem top_ofSize (w h : UInt32) : (ofSize w h).top = 0 := rfl
theorem right_ofSize (w h : UInt32) : (ofSize w h).right = w.toNat := by rw [right, left_ofSize, Int.zero_add]; rfl
theorem bottom_ofSize (w h : UInt32) : (ofSize w h).bottom = h.toNat := by rw [bottom, top_ofSize, Int.zero_add]; rfl

/-- **What is left of a box on a picture is a part of it.** -/
theorem isPart_of_clip? (hc : b.clip? w h = some c) : IsPart w h c := by
  obtain ⟨hl, ht, hr, hb, hne⟩ := inter?_eq_some hc
  rw [left_ofSize] at hl
  rw [top_ofSize] at ht
  rw [right_ofSize] at hr
  rw [bottom_ofSize] at hb
  exact ⟨⟨by omega, by omega, by omega, by omega⟩, hne⟩

theorem IsPart.clip? (hb : IsPart w h b) : b.clip? w h = some b := by
  obtain ⟨h1, h2, h3, h4⟩ := hb.within
  cases hc : b.clip? w h with
  | none =>
    have hm := corner_mem hb.nonempty
    refine absurd ⟨hm, ?_⟩ ((inter?_eq_none_iff _ _).1 hc (b.left, b.top))
    rw [mem_iff, left_ofSize, top_ofSize, right_ofSize, bottom_ofSize]
    have := hb.left_lt_right
    have := hb.top_lt_bottom
    exact ⟨h1, by omega, h3, by omega⟩
  | some c =>
    obtain ⟨hl, ht, hr, hbt, -⟩ := inter?_eq_some hc
    rw [left_ofSize] at hl
    rw [top_ofSize] at ht
    rw [right_ofSize] at hr
    rw [bottom_ofSize] at hbt
    rw [ext_edges (a := c) (b := b) (by omega) (by omega) (by omega) (by omega)]

theorem clip?_of_isEmpty (he : b.isEmpty = true) : b.clip? w h = none := (inter?_eq_none_iff _ _).2 fun p hp => by
  have hp := (mem_iff b p).1 hp.1
  have := (isEmpty_eq_false_iff b).2 ⟨by omega, by omega⟩
  simp [he] at this

/-- Clipping a box that is within the picture, and keeping it where nothing is left, changes nothing. -/
theorem clip?_getD (hb : b.Within w h) : (b.clip? w h).getD b = b := by
  cases he : b.isEmpty with
  | false => rw [IsPart.clip? ⟨hb, he⟩, Option.getD_some]
  | true => rw [clip?_of_isEmpty he, Option.getD_none]

theorem IsPart.hull (ha : IsPart w h a) (hb : IsPart w h b) : IsPart w h (a.hull b) := by
  obtain ⟨h1, h2, h3, h4⟩ := ha.within
  obtain ⟨h5, h6, h7, h8⟩ := hb.within
  have := ha.left_lt_right
  have := ha.top_lt_bottom
  have := a.left_lt
  have := a.top_lt
  exact isPart_ofCorners (by omega) (by omega) (by omega) (by omega) (by omega) (by omega) (by omega) (by omega)

/-! ## Averages -/

/-- **The average of parts is a part**: every edge is between the edges it averages, and edges a pixel apart stay so. -/
theorem IsPart.average {α : Type} [Scalar α] [Scalar.Exact α] {l : List Box} (hl : ∀ b ∈ l, IsPart w h b)
    (hc : Box.average (α := α) l = some c) : IsPart w h c := by
  have hne : l ≠ [] := by
    rintro rfl
    simp [Box.average] at hc
  rw [average_eq hne] at hc
  obtain rfl := Option.some.inj hc
  have hx := nearest_mean_mem left 0 (2 ^ 31 - 1) hne fun b hb => by
    have := (hl b hb).within.1
    have := b.left_lt
    omega
  have hy := nearest_mean_mem top 0 (2 ^ 31 - 1) hne fun b hb => by
    have := (hl b hb).within.2.2.1
    have := b.top_lt
    omega
  have hr := nearest_mean_mem right 0 w.toNat hne fun b hb => by
    have := (hl b hb).within.1
    have := (hl b hb).within.2.1
    have := (hl b hb).left_lt_right
    omega
  have hb := nearest_mean_mem bottom 0 h.toNat hne fun b hb => by
    have := (hl b hb).within.2.2
    have := (hl b hb).top_lt_bottom
    omega
  exact isPart_ofCorners hx.1 (by omega) hy.1 (by omega) (nearest_mean_lt hne fun b hb => (hl b hb).left_lt_right)
    (nearest_mean_lt hne fun b hb => (hl b hb).top_lt_bottom) hr.2 hb.2

/-! ## Merging -/

theorem IsPart.absorb (hb : IsPart w h b) : ∀ l : List Box, (∀ o ∈ l, IsPart w h o) → ∀ o ∈ absorb b l, IsPart w h o
  | [], _, o, ho => by
    rw [Box.absorb, List.mem_singleton] at ho
    exact ho ▸ hb
  | d :: l, hl, o, ho => by
    rw [Box.absorb] at ho
    split at ho
    · rcases List.mem_cons.1 ho with rfl | ho
      · exact (hl d List.mem_cons_self).hull hb
      · exact hl o (List.mem_cons_of_mem _ ho)
    · rcases List.mem_cons.1 ho with rfl | ho
      · exact hl o List.mem_cons_self
      · exact IsPart.absorb hb l (fun o ho => hl o (List.mem_cons_of_mem _ ho)) o ho

theorem IsPart.mergePass {l : List Box} (hl : ∀ b ∈ l, IsPart w h b) : ∀ b ∈ mergePass l, IsPart w h b := by
  suffices ∀ (l out : List Box), (∀ b ∈ l, IsPart w h b) → (∀ b ∈ out, IsPart w h b) →
      ∀ b ∈ l.foldl (fun out b => Box.absorb b out) out, IsPart w h b from this l [] hl (by simp)
  intro l
  induction l with
  | nil => intro out _ hout; exact hout
  | cons c l ih =>
    intro out hl hout
    exact ih _ (fun b hb => hl b (List.mem_cons_of_mem _ hb)) (IsPart.absorb (hl c List.mem_cons_self) out hout)

/-- **Merging parts gives parts.** -/
theorem IsPart.mergeOverlapping {l : List Box} (hl : ∀ b ∈ l, IsPart w h b) :
    ∀ b ∈ mergeOverlapping l, IsPart w h b := by
  fun_induction Box.mergeOverlapping l with
  | case1 l _ ih => exact ih (IsPart.mergePass hl)
  | case2 l _ => exact IsPart.mergePass hl

end Box
end Pinpoint
