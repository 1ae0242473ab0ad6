import Mathlib.Data.List.Sort
import Pinpoint.Proofs.Cluster.Order
/-!
# Copies — clusters of equal things

Where only equal items are near each other and every item has enough copies, a cluster is all the copies of one item and
the clusters stand in the order in which their items come first (`Clustering.filterMap_copies`).  The average of a box
with itself is the box.  So the average boxes of a list in which different boxes are far enough apart are the boxes of
the list, each once (`averageBoxes_copies`).
-/
namespace Pinpoint

/-! ## Lists with repeats -/

section Repeats

variable {β : Type} [BEq β] [LawfulBEq β] {l k : List β}

theorem eraseDups_append_of_subset (h : k ⊆ l) : (l ++ k).eraseDups = l.eraseDups := by
  have hnone : k.removeAll l = [] := by
    refine List.filter_eq_nil_iff.2 fun a ha => ?_
    simpa using h ha
  rw [List.eraseDups_append, hnone, List.eraseDups_nil, List.append_nil]

theorem eraseDups_concat {x : β} (hx : x ∉ l) : (l ++ [x]).eraseDups = l.eraseDups ++ [x] := by
  have hone : [x].removeAll l = [x] := by
    refine List.filter_eq_self.2 fun a ha => ?_
    rw [List.mem_singleton.1 ha]
    simpa using hx
  rw [List.eraseDups_append, hone]
  rfl

/-- **What is left of a list without its repeats** stands in the order of the first places. -/
theorem pairwise_eraseDups (l : List β) : l.eraseDups.Pairwise fun a b => l.idxOf a < l.idxOf b := by
  induction l using List.reverseRecOn with
  | nil => exact List.Pairwise.nil
  | append_singleton l x ih =>
    have hkeep : l.eraseDups.Pairwise fun a b => (l ++ [x]).idxOf a < (l ++ [x]).idxOf b := by
      refine ih.imp_of_mem fun {a b} ha hb hab => ?_
      rwa [List.idxOf_append_of_mem (List.mem_eraseDups.1 ha), List.idxOf_append_of_mem (List.mem_eraseDups.1 hb)]
    by_cases hx : x ∈ l
    · rwa [eraseDups_append_of_subset (by simpa using hx)]
    · rw [eraseDups_concat hx]
      refine List.pairwise_append.2 ⟨hkeep, List.pairwise_singleton _ _, fun a ha b hb => ?_⟩
      obtain rfl := List.mem_singleton.1 hb
      have ha := List.mem_eraseDups.1 ha
      rw [List.idxOf_append_of_mem ha, List.idxOf_append_of_notMem hx]
      exact Nat.lt_add_right _ (List.idxOf_lt_length_of_mem ha)

theorem idxOf_get_le (l : List β) (i : Fin l.length) : l.idxOf (l.get i) ≤ i := by
  have hmem : l.get i ∈ l.take (i + 1) := List.mem_take_iff_getElem.2 ⟨i, by omega, rfl⟩
  exact Nat.le_of_lt_succ ((List.mem_take_iff_idxOf_lt (l.get_mem i)).1 hmem)

omit [BEq β] [LawfulBEq β] in
theorem mem_of_mem_replicate {n : Nat} {a : β} (h : a ∈ (List.replicate n l).flatten) : a ∈ l := by
  obtain ⟨_, hl, ha⟩ := List.mem_flatten.1 h
  rwa [List.eq_of_mem_replicate hl] at ha

/-- A list some times over has nothing that is not in it once. -/
theorem eraseDups_replicate {n : Nat} (hn : 1 ≤ n) (l : List β) :
    (List.replicate n l).flatten.eraseDups = l.eraseDups := by
  obtain ⟨n, rfl⟩ := Nat.exists_eq_add_of_le' hn
  rw [List.replicate_succ, List.flatten_cons]
  exact eraseDups_append_of_subset fun _ ha => mem_of_mem_replicate ha

theorem le_count_replicate (n : Nat) {a : β} (ha : a ∈ l) : n ≤ (List.replicate n l).flatten.count a := by
  rw [List.count_flatten, List.map_replicate, List.sum_replicate, smul_eq_mul]
  exact Nat.le_mul_of_pos_right n (List.count_pos_iff.2 ha)

end Repeats

namespace Cluster

/-! ## Clusters of copies -/

section Copies

variable {β : Type} {l : List β} {m : Nat} {out : List (List (Fin l.length))}

/-- An item with enough copies is a core. -/
theorem core_of_count [BEq β] [LawfulBEq β] {i : Fin l.length} (h : m ≤ l.count (l.get i)) :
    Core (fun i j : Fin l.length => l.get i = l.get j) m i := by
  classical
  refine (isCore_iff _ m i).1 (decide_eq_true ?_)
  calc m ≤ ((List.finRange l.length).map l.get).count (l.get i) := by rwa [List.map_get_finRange]
    _ = (List.finRange l.length).countP fun j => decide (l.get i = l.get j) := by
      rw [List.count, List.countP_map]
      refine List.countP_congr fun j _ => ?_
      rw [Function.comp_apply, beq_iff_eq, decide_eq_true_iff, eq_comm]

namespace Clustering

variable (h : Clustering (fun i j : Fin l.length => l.get i = l.get j) m out)
  (hcore : ∀ i, Core (fun i j : Fin l.length => l.get i = l.get j) m i)
include h hcore

/-- **A cluster is all the copies of one item.** -/
theorem mem_iff_get_eq {c : List (Fin l.length)} (hc : c ∈ out) {i : Fin l.length} (hi : i ∈ c) (j : Fin l.length) :
    j ∈ c ↔ l.get i = l.get j := by
  constructor
  · intro hj
    have hchain := (h.together i j (hcore i) (hcore j)).1 ⟨c, hc, hi, hj⟩
    clear hj
    induction hchain with
    | refl => rfl
    | tail _ hstep ih => exact ih.trans hstep.2.2
  · intro hij
    obtain ⟨d, hd, hid, hjd⟩ := (h.together i j (hcore i) (hcore j)).2 (.single ⟨hcore i, hcore j, hij⟩)
    rwa [h.eq_of_core_mem (hcore i) hc hd hi hid]

/-- **The clusters of a list in which every item has its copies** are its items, each once and in the order of their
first places. -/
theorem filterMap_copies [BEq β] [LawfulBEq β] {f : List (Fin l.length) → Option β}
    (hf : ∀ c ∈ out, ∀ i ∈ c, f c = some (l.get i)) : out.filterMap f = l.eraseDups := by
  have hirrefl : Std.Irrefl fun a b : β => l.idxOf a < l.idxOf b := ⟨fun _ => lt_irrefl _⟩
  have hantisymm : Std.Antisymm fun a b : β => l.idxOf a < l.idxOf b := ⟨fun _ _ hab hba => absurd hab hba.asymm⟩
  have hplaces : (out.filterMap f).Pairwise fun a b => l.idxOf a < l.idxOf b := by
    refine List.pairwise_filterMap.2 (h.ordered.imp_of_mem fun {c d} hc hd hcd a ha b hb => ?_)
    obtain ⟨i, hi, -, hbefore⟩ := hcd
    obtain ⟨j, hj⟩ := List.exists_mem_of_ne_nil d (h.ne_nil d hd)
    obtain rfl := Option.some.inj ((hf c hc i hi).symm.trans ha)
    obtain rfl := Option.some.inj ((hf d hd j hj).symm.trans hb)
    -- the first copy of the later item is in its cluster, behind a copy of the earlier one
    have hlt : l.idxOf (l.get j) < l.length := List.idxOf_lt_length_of_mem (l.get_mem j)
    have hfirst : (⟨_, hlt⟩ : Fin l.length) ∈ d := (h.mem_iff_get_eq hcore hd hj _).2 (List.getElem_idxOf hlt).symm
    exact lt_of_le_of_lt (idxOf_get_le l i) (hbefore _ hfirst (hcore _))
  refine hplaces.eq_of_mem_iff (pairwise_eraseDups l) fun a => ?_
  rw [List.mem_filterMap, List.mem_eraseDups]
  constructor
  · rintro ⟨c, hc, ha⟩
    obtain ⟨i, hi⟩ := List.exists_mem_of_ne_nil c (h.ne_nil c hc)
    obtain rfl := Option.some.inj ((hf c hc i hi).symm.trans ha)
    exact l.get_mem i
  · intro ha
    obtain ⟨i, rfl⟩ := List.get_of_mem ha
    obtain ⟨p, hp, -⟩ := h.core i (hcore i)
    exact ⟨_, List.getElem_mem p.2, hf _ (List.getElem_mem p.2) i hp⟩

end Clustering

end Copies

end Cluster

/-! ## Boxes that are one -/

namespace Box

theorem ofCorners_edges (b : Box) : ofCorners b.left b.top b.right b.bottom = b := by
  obtain ⟨⟨-, hlr, -⟩, -, htb, -⟩ := b.edges_mem
  have hw := b.right_sub_left_lt
  have hh := b.bottom_sub_top_lt
  obtain ⟨hl, ht, hr, hb⟩ := edges_ofCorners b.left b.top b.right b.bottom ⟨b.le_left, b.left_lt⟩ ⟨b.le_top, b.top_lt⟩
    (by omega) (by omega)
  exact ext_edges hl ht (hr.trans (max_eq_right b.left_le_right)) (hb.trans (max_eq_right b.top_le_bottom))

section Exact

variable {α : Type} [Scalar α] [Scalar.Exact α]

open Scalar (Is)

/-- **A box with area overlaps itself completely.** -/
theorem is_iou_self {b : Box} (h : b.isEmpty = false) : Is (b.iou b : α) 1 :=
  (overlap_eq_one_iff b b).2 ⟨rfl, h⟩ ▸ is_iou b b

/-- **The average of a box with itself** is the box. -/
theorem average_self {l : List Box} {b : Box} (hl : l ≠ []) (h : ∀ c ∈ l, c = b) : average (α := α) l = some b := by
  have hmean : ∀ f : Box → Int, Scalar.nearest (mean l f) = f b := fun f => by
    obtain ⟨hlo, hhi⟩ := nearest_mean_mem f (f b) (f b) hl fun c hc => by rw [h c hc]; exact ⟨le_rfl, le_rfl⟩
    exact le_antisymm hhi hlo
  rw [average_eq hl, hmean, hmean, hmean, hmean, ofCorners_edges]

end Exact

end Box

namespace Cluster

open Scalar (Is)

variable {α : Type} [Scalar α] [Scalar.Exact α] {iou : α} {t : ℝ} {a b : Box} {l : List Box} {m : Nat}

/-- Boxes whose overlap falls short of the threshold are as unlike as they should be. -/
theorem alike_iff_eq (hiou : Is iou t) (ht : t ≤ 1) (ha : a.isEmpty = false) (hab : a ≠ b → (a.iou b : α) < iou) :
    Alike iou a b ↔ a = b := by
  constructor
  · intro halike
    by_contra hne
    have hlt := ((Box.is_iou a b).lt hiou).1 (hab hne)
    have hle := ((Is.one.sub (Box.is_iou a b)).le (Is.one.sub hiou)).1 halike
    linarith
  · rintro rfl
    refine ((Is.one.sub (Box.is_iou_self ha)).le (Is.one.sub hiou)).2 ?_
    linarith

/-- **Boxes in several copies, different ones far enough apart, are averaged to themselves**, each once and in the order
in which they come first. -/
theorem averageBoxes_copies (hiou : Is iou t) (ht : t ≤ 1) (hne : ∀ b ∈ l, b.isEmpty = false)
    (hapart : ∀ a ∈ l, ∀ b ∈ l, a ≠ b → (a.iou b : α) < iou) (hm : ∀ b ∈ l, m ≤ l.count b) :
    averageBoxes l iou m = l.eraseDups := by
  have hnear : ∀ i j : Fin l.length, Alike iou (l.get i) (l.get j) ↔ l.get i = l.get j := fun i j =>
    alike_iff_eq hiou ht (hne _ (l.get_mem i)) (hapart _ (l.get_mem i) _ (l.get_mem j))
  have hclusters := clusters_clustering (fun i j => Alike iou (l.get i) (l.get j)) (fun _ _ h => h.symm) m
  have hrel : (fun i j : Fin l.length => Alike iou (l.get i) (l.get j)) = fun i j => l.get i = l.get j :=
    funext fun i => funext fun j => propext (hnear i j)
  have hcore : ∀ i, Core (fun i j : Fin l.length => l.get i = l.get j) (max m 1) i := fun i =>
    core_of_count (Nat.max_le.2 ⟨hm _ (l.get_mem i), List.count_pos_iff.2 (l.get_mem i)⟩)
  rw [averageBoxes_eq]
  generalize clusters _ m = out at hclusters
  rw [hrel] at hclusters
  refine hclusters.filterMap_copies hcore fun c hc i hi => Box.average_self ?_ fun b hb => ?_
  · exact List.map_eq_nil_iff.not.2 (hclusters.ne_nil c hc)
  · obtain ⟨j, hj, rfl⟩ := List.mem_map.1 hb
    exact ((hclusters.mem_iff_get_eq hcore hc hi j).1 hj).symm

end Cluster
end Pinpoint
