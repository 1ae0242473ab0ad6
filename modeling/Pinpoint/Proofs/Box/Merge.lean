import Mathlib.Data.Finset.Max
import Mathlib.Data.List.FinRange
import Mathlib.Data.List.Forall2
import Mathlib.Logic.Function.Iterate
import Pinpoint.Proofs.Box.Pixels
/-!
# Merge — what merging overlapping boxes comes to

A pass joins each box to the first earlier one that it overlaps, and the joined box may overlap what was kept before it;
so passes are repeated until one joins nothing.  A pass that joins nothing keeps its list, and it has found no two boxes
that overlap (`foldl_absorb_of_length`).  Whatever was joined on the way is a group of the boxes at the start, and its
box is the smallest one around the group, as long as one box can hold them all (`Grouped.mergeOverlapping`).
-/
namespace Pinpoint
namespace Box

/-! ## The smallest box around some boxes -/

/-- No edge is beyond the other box's. -/
def Inside (a b : Box) : Prop := b.left ≤ a.left ∧ a.right ≤ b.right ∧ b.top ≤ a.top ∧ a.bottom ≤ b.bottom

instance (a b : Box) : Decidable (a.Inside b) := inferInstanceAs (Decidable (_ ∧ _ ∧ _ ∧ _))

/-- **The smallest box around some boxes.** -/
structure Spans (b : Box) (members : List Box) : Prop where
  encloses : ∀ m ∈ members, m.Inside b
  least    : ∀ c : Box, (∀ m ∈ members, m.Inside c) → b.Inside c

/-- **The extent of a list fits a box**: no far edge is further from a near one than 32 bits can tell. -/
def FitsOne (l : List Box) : Prop :=
  ∀ a ∈ l, ∀ b ∈ l, b.right - a.left < 2 ^ 32 ∧ b.bottom - a.top < 2 ^ 32

instance (l : List Box) : Decidable (FitsOne l) := inferInstanceAs (Decidable (∀ a ∈ l, ∀ b ∈ l, _ ∧ _))

variable {a b c frame : Box} {g k l : List Box}

theorem Inside.refl (a : Box) : a.Inside a := ⟨Int.le_refl _, Int.le_refl _, Int.le_refl _, Int.le_refl _⟩

theorem Inside.trans (hab : a.Inside b) (hbc : b.Inside c) : a.Inside c := by
  obtain ⟨hl, hr, ht, hb⟩ := hab
  obtain ⟨hl', hr', ht', hb'⟩ := hbc
  exact ⟨by omega, by omega, by omega, by omega⟩

theorem spans_self (b : Box) : Spans b [b] where
  encloses _ hm := by
    rw [List.mem_singleton.1 hm]
    exact Inside.refl b
  least _ h := h b List.mem_cons_self

/-- **A list fits a box exactly if some box is around it.** -/
theorem fitsOne_iff : FitsOne l ↔ ∃ frame : Box, ∀ b ∈ l, b.Inside frame := by
  constructor
  · intro h
    by_cases hne : l = []
    · exact ⟨default, by simp [hne]⟩
    · have hs : l.toFinset.Nonempty := (List.toFinset_nonempty_iff l).2 hne
      obtain ⟨west, hwest, hleft⟩ := l.toFinset.exists_min_image left hs
      obtain ⟨north, hnorth, htop⟩ := l.toFinset.exists_min_image top hs
      obtain ⟨east, heast, hright⟩ := l.toFinset.exists_max_image right hs
      obtain ⟨south, hsouth, hbottom⟩ := l.toFinset.exists_max_image bottom hs
      simp only [List.mem_toFinset] at hwest hleft hnorth htop heast hright hsouth hbottom
      have hw := (h west hwest east heast).1
      have hh := (h north hnorth south hsouth).2
      have hx := And.intro west.left_lt east.edges_mem.1
      have hy := And.intro north.top_lt south.edges_mem.2
      obtain ⟨hl, ht, hr, hb⟩ := edges_ofCorners west.left north.top east.right south.bottom
        ⟨west.le_left, west.left_lt⟩ ⟨north.le_top, north.top_lt⟩ (by omega) (by omega)
      refine ⟨ofCorners west.left north.top east.right south.bottom, fun b hb' => ?_⟩
      have := hleft b hb'
      have := htop b hb'
      have := hright b hb'
      have := hbottom b hb'
      exact ⟨by omega, by omega, by omega, by omega⟩
  · rintro ⟨frame, h⟩ a ha b hb
    obtain ⟨hl, -, ht, -⟩ := h a ha
    obtain ⟨-, hr, -, hbt⟩ := h b hb
    have := frame.right_sub_left_lt
    have := frame.bottom_sub_top_lt
    omega

/-- **The edges of a hull** are the outermost ones, if one box can hold both. -/
theorem edges_hull (ha : a.Inside frame) (hb : b.Inside frame) :
    (a.hull b).left = min a.left b.left ∧ (a.hull b).top = min a.top b.top ∧
      (a.hull b).right = max a.right b.right ∧ (a.hull b).bottom = max a.bottom b.bottom := by
  obtain ⟨hl, hr, ht, hbt⟩ := ha
  obtain ⟨hl', hr', ht', hbt'⟩ := hb
  have hx := And.intro a.le_left (And.intro a.left_lt (And.intro b.le_left b.left_lt))
  have hy := And.intro a.le_top (And.intro a.top_lt (And.intro b.le_top b.top_lt))
  have hw := frame.right_sub_left_lt
  have hh := frame.bottom_sub_top_lt
  have hax := a.left_le_right
  have hay := a.top_le_bottom
  obtain ⟨hleft, htop, hright, hbottom⟩ := edges_ofCorners (min a.left b.left) (min a.top b.top) (max a.right b.right)
    (max a.bottom b.bottom) (by omega) (by omega) (by omega) (by omega)
  refine ⟨hleft, htop, ?_, ?_⟩
  · rw [hull, hright]
    omega
  · rw [hull, hbottom]
    omega

/-- **A hull is the smallest box around two groups.** -/
theorem Spans.hull (ha : Spans a g) (hb : Spans b k) (hg : ∀ m ∈ g, m.Inside frame) (hk : ∀ m ∈ k, m.Inside frame) :
    Spans (a.hull b) (g ++ k) := by
  obtain ⟨hl, ht, hr, hbt⟩ := edges_hull (ha.least frame hg) (hb.least frame hk)
  constructor
  · intro m hm
    rcases List.mem_append.1 hm with hm | hm
    · exact (ha.encloses m hm).trans ⟨by omega, by omega, by omega, by omega⟩
    · exact (hb.encloses m hm).trans ⟨by omega, by omega, by omega, by omega⟩
  · intro c hc
    obtain ⟨h1, h2, h3, h4⟩ := ha.least c fun m hm => hc m (List.mem_append_left _ hm)
    obtain ⟨h5, h6, h7, h8⟩ := hb.least c fun m hm => hc m (List.mem_append_right _ hm)
    exact ⟨by omega, by omega, by omega, by omega⟩

/-! ## Groups -/

section
variable {ι : Type} {box : ι → Box} {out : List Box} {groups : List (List ι)}

/-- **Boxes that span groups of places**, one group a box and none of them empty. -/
def Grouped (box : ι → Box) (out : List Box) (groups : List (List ι)) : Prop :=
  List.Forall₂ (fun b g => g ≠ [] ∧ Spans b (g.map box)) out groups

/-- A box with its group is added to a group whose box it overlaps, or becomes a group of its own. -/
theorem Grouped.absorb (h : Grouped box out groups) {g : List ι} (hg : g ≠ []) (hb : Spans b (g.map box))
    (hin : ∀ i ∈ groups.flatten ++ g, (box i).Inside frame) :
    ∃ groups', Grouped box (absorb b out) groups' ∧ groups'.flatten.Perm (groups.flatten ++ g) := by
  induction h with
  | nil => exact ⟨[g], .cons ⟨hg, hb⟩ .nil, by simp⟩
  | @cons o k out groups ho h ih =>
    rw [Box.absorb]
    split
    · have hk : ∀ m ∈ k.map box, m.Inside frame := by
        rintro m hm
        obtain ⟨i, hi, rfl⟩ := List.mem_map.1 hm
        exact hin i (by simp [hi])
      have hgin : ∀ m ∈ g.map box, m.Inside frame := by
        rintro m hm
        obtain ⟨i, hi, rfl⟩ := List.mem_map.1 hm
        exact hin i (by simp [hi])
      have hspans := ho.2.hull hb hk hgin
      rw [← List.map_append] at hspans
      refine ⟨(k ++ g) :: groups, .cons ⟨by simp [hg], hspans⟩ h, ?_⟩
      simp only [List.flatten_cons, List.append_assoc]
      exact List.perm_append_comm.append_left k
    · obtain ⟨groups', hgroups', hperm⟩ := ih fun i hi => hin i (by
        rw [List.flatten_cons, List.append_assoc]
        exact List.mem_append_right k hi)
      refine ⟨k :: groups', .cons ho hgroups', ?_⟩
      simp only [List.flatten_cons, List.append_assoc]
      exact hperm.append_left k

/-- **A pass keeps the places in groups.** -/
theorem Grouped.foldl_absorb {l : List Box} {ks : List (List ι)} (hl : Grouped box l ks) (h : Grouped box out groups)
    (hin : ∀ i ∈ groups.flatten ++ ks.flatten, (box i).Inside frame) :
    ∃ groups', Grouped box (l.foldl (fun out b => Box.absorb b out) out) groups' ∧
      groups'.flatten.Perm (groups.flatten ++ ks.flatten) := by
  induction hl generalizing out groups with
  | nil => exact ⟨groups, h, by simp⟩
  | @cons b k l ks hb hl ih =>
    rw [List.flatten_cons, ← List.append_assoc] at hin
    obtain ⟨groups₁, h₁, hperm₁⟩ := h.absorb hb.1 hb.2 fun i hi => hin i (List.mem_append_left _ hi)
    have hperm := hperm₁.append_right ks.flatten
    obtain ⟨groups₂, h₂, hperm₂⟩ := ih h₁ fun i hi => hin i (hperm.mem_iff.1 hi)
    refine ⟨groups₂, h₂, ?_⟩
    rw [List.flatten_cons, ← List.append_assoc]
    exact hperm₂.trans hperm

/-- **Merging keeps the places in groups.** -/
theorem Grouped.mergeOverlapping {l : List Box} {ks : List (List ι)} (hl : Grouped box l ks)
    (hin : ∀ i ∈ ks.flatten, (box i).Inside frame) :
    ∃ groups, Grouped box (mergeOverlapping l) groups ∧ groups.flatten.Perm ks.flatten := by
  have hnone : Grouped box [] [] := .nil
  fun_induction Box.mergeOverlapping l generalizing ks with
  | case1 l _ ih =>
    obtain ⟨groups, h, hperm⟩ := hl.foldl_absorb hnone hin
    obtain ⟨groups', h', hperm'⟩ := ih h fun i hi => hin i (hperm.mem_iff.1 hi)
    exact ⟨groups', h', hperm'.trans hperm⟩
  | case2 l _ => exact hl.foldl_absorb hnone hin

/-- At the start every place is a group. -/
theorem grouped_self (l : List Box) : Grouped l.get l ((List.finRange l.length).map fun i => [i]) := by
  have h : Grouped l.get ((List.finRange l.length).map l.get) ((List.finRange l.length).map fun i => [i]) := by
    rw [Grouped, List.forall₂_map_left_iff, List.forall₂_map_right_iff, List.forall₂_same]
    exact fun i _ => ⟨by simp, spans_self _⟩
  rwa [List.map_get_finRange] at h

end

/-! ## The last pass -/

/-- No pixel is common to two boxes of a list. -/
def Apart (l : List Box) : Prop := l.Pairwise fun a b => ∀ p, ¬ (p ∈ a ∧ p ∈ b)

theorem overlaps_eq_false_iff : a.overlaps b = false ↔ ∀ p, ¬ (p ∈ a ∧ p ∈ b) := by
  rw [overlaps, Option.isSome_eq_false_iff, Option.isNone_iff_eq_none, inter?_eq_none_iff]

/-- A box that overlaps one of a list leaves the list as long as it was; any other is put at its end. -/
theorem absorb_cases (b : Box) : ∀ l : List Box, (absorb b l).length = l.length ∨
    absorb b l = l ++ [b] ∧ ∀ o ∈ l, ∀ p, ¬ (p ∈ o ∧ p ∈ b)
  | []     => Or.inr ⟨rfl, by simp⟩
  | o :: l => by
    rw [absorb]
    split
    · exact Or.inl rfl
    · rename_i ho
      rcases absorb_cases b l with h | ⟨h, hl⟩
      · exact Or.inl (by rw [List.length_cons, h, List.length_cons])
      · exact Or.inr ⟨by rw [h, List.cons_append],
          List.forall_mem_cons.2 ⟨overlaps_eq_false_iff.1 (by simpa using ho), hl⟩⟩

theorem length_foldl_absorb (l out : List Box) :
    (l.foldl (fun out b => absorb b out) out).length ≤ out.length + l.length := by
  induction l generalizing out with
  | nil => simp
  | cons b l ih =>
    rw [List.foldl_cons, List.length_cons]
    have hle := ih (absorb b out)
    rcases absorb_cases b out with h | ⟨h, -⟩
    · omega
    · have hlen : (absorb b out).length = out.length + 1 := by rw [h, List.length_append, List.length_singleton]
      omega

/-- **A pass that shortens nothing keeps everything**, and no box overlaps an earlier one. -/
theorem foldl_absorb_of_length {l out : List Box} (hout : Apart out)
    (h : out.length + l.length ≤ (l.foldl (fun out b => absorb b out) out).length) :
    l.foldl (fun out b => absorb b out) out = out ++ l ∧ Apart (out ++ l) := by
  induction l generalizing out with
  | nil => exact ⟨by simp, by simpa using hout⟩
  | cons b l ih =>
    rw [List.foldl_cons, List.length_cons] at h
    rcases absorb_cases b out with hlen | ⟨heq, hapart⟩
    · -- the box was joined to another one, and nothing later makes up for it
      have := length_foldl_absorb l (absorb b out)
      omega
    · rw [List.foldl_cons, heq, List.append_cons out b l]
      rw [heq] at h
      have hlen : (out ++ [b]).length = out.length + 1 := by rw [List.length_append, List.length_singleton]
      exact ih (List.pairwise_append.2 ⟨hout, List.pairwise_singleton _ _, by simpa using hapart⟩) (by omega)

theorem mergePass_of_length {l : List Box} (h : ¬ (mergePass l).length < l.length) : mergePass l = l ∧ Apart l :=
  foldl_absorb_of_length (show Apart [] from .nil) (by simpa [mergePass] using h)

/-- **Merging ends where a pass changes nothing**, and there no boxes overlap. -/
theorem mergeOverlapping_settled (l : List Box) :
    mergePass (mergeOverlapping l) = mergeOverlapping l ∧ Apart (mergeOverlapping l) := by
  fun_induction mergeOverlapping l with
  | case1 l _ ih => exact ih
  | case2 l h =>
    obtain ⟨heq, hapart⟩ := mergePass_of_length h
    rw [heq]
    exact ⟨heq, hapart⟩

/-- **Merging takes no more passes than there are boxes.** -/
theorem iterate_mergePass (l : List Box) : mergePass^[l.length] l = mergeOverlapping l := by
  fun_induction mergeOverlapping l with
  | case1 l h ih =>
    obtain ⟨d, hd⟩ : ∃ d, l.length = (d + (mergePass l).length) + 1 := ⟨l.length - 1 - (mergePass l).length, by omega⟩
    rw [hd, Function.iterate_succ_apply, Function.iterate_add_apply, ih]
    exact Function.iterate_fixed (mergeOverlapping_settled _).1 d
  | case2 l h =>
    obtain ⟨heq, -⟩ := mergePass_of_length h
    rw [Function.iterate_fixed heq, heq]

/-! ## The whole -/

/-- **Merging is a partition into groups that do not overlap.**  For boxes whose extent fits a box, as many passes as there
are boxes settle it; the places of the boxes fall into groups, one for each box that comes out, which is the smallest box
around its group; and no two of those have a pixel in common.  So every box is inside one that comes out. -/
theorem mergeOverlapping_partition (hl : FitsOne l) :
    mergePass^[l.length] l = mergeOverlapping l ∧ mergePass (mergeOverlapping l) = mergeOverlapping l ∧
      (∃ groups : List (List (Fin l.length)), groups.flatten.Perm (List.finRange l.length) ∧
        List.Forall₂ (fun b g => g ≠ [] ∧ Spans b (g.map l.get)) (mergeOverlapping l) groups) ∧
      (mergeOverlapping l).Pairwise (fun a b => ∀ p, ¬ (p ∈ a ∧ p ∈ b)) ∧
      ∀ b ∈ l, ∃ o ∈ mergeOverlapping l, b.Inside o := by
  obtain ⟨frame, hframe⟩ := fitsOne_iff.1 hl
  obtain ⟨groups, hgroups, hperm⟩ := (grouped_self l).mergeOverlapping fun i _ => hframe _ (l.get_mem i)
  rw [← List.flatMap_def, List.flatMap_singleton'] at hperm
  obtain ⟨hfixed, hapart⟩ := mergeOverlapping_settled l
  refine ⟨iterate_mergePass l, hfixed, ⟨groups, hperm, hgroups⟩, hapart, fun b hb => ?_⟩
  obtain ⟨i, rfl⟩ := List.get_of_mem hb
  obtain ⟨g, hg, hi⟩ := List.mem_flatten.1 (hperm.mem_iff.2 (List.mem_finRange i))
  obtain ⟨p, hp, rfl⟩ := List.getElem_of_mem hg
  have hspans := (List.forall₂_iff_get.1 hgroups).2 p (by rw [hgroups.length_eq]; exact hp) hp
  exact ⟨_, List.get_mem _ _, hspans.2.encloses _ (List.mem_map_of_mem hi)⟩

/-! Two boxes with a third that bridges them: the first pass joins it to the first box, and only the second pass finds
that the second box overlaps now. -/

def bridged : List Box := [⟨0, 0, 10, 10⟩, ⟨20, 0, 10, 10⟩, ⟨8, 0, 14, 10⟩, ⟨100, 100, 5, 5⟩]

theorem mergeOverlapping_partition_bridged : FitsOne bridged ∧ mergePass bridged ≠ mergePass (mergePass bridged) ∧
    mergeOverlapping bridged = [⟨0, 0, 30, 10⟩, ⟨100, 100, 5, 5⟩] ∧
    ∃ groups : List (List (Fin 4)), groups.flatten.Perm (List.finRange 4) ∧
      List.Forall₂ (fun b g => g ≠ [] ∧ Spans b (g.map bridged.get)) [⟨0, 0, 30, 10⟩, ⟨100, 100, 5, 5⟩] groups := by
  have hfits : FitsOne bridged := by decide
  obtain ⟨hpasses, -, ⟨groups, hperm, hgroups⟩, -⟩ := mergeOverlapping_partition hfits
  have hout : mergeOverlapping bridged = [⟨0, 0, 30, 10⟩, ⟨100, 100, 5, 5⟩] := by
    rw [← hpasses]
    decide
  rw [hout] at hgroups
  exact ⟨hfits, by decide, hout, groups, hperm, hgroups⟩

end Box
end Pinpoint
