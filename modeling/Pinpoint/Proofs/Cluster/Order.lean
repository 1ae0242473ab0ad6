import Mathlib.Data.List.Nodup
import Mathlib.Data.Multiset.MapFold
import Mathlib.SetTheory.Cardinal.NatCard
import Pinpoint.Proofs.Box.Area
import Pinpoint.Proofs.Box.Average
import Pinpoint.Proofs.Cluster.Density
/-!
# Order — clusters that do not depend on the order of what is clustered

Where two neighbours make a core, an index that is no core has one neighbour at most, so no border is between two groups:
a cluster is everything bound to any of its cores (`Clustering.mem_iff_bound`).  Being bound does not know how indices are
numbered, so that a clustering of renumbered items has the same clusters renumbered (`Clustering.perm`), and the average
boxes of a list are, up to their order, those of every reordering of it (`averageBoxes_perm`).
-/
namespace Pinpoint

/-! ## Boxes without an order -/

namespace Box

theorem mean_perm {l l' : List Box} (h : l.Perm l') (f : Box → Int) : mean l f = mean l' f := by
  rw [mean, mean, h.length_eq, (h.map _).sum_eq]

/-- **An exact average does not depend on the order.** -/
theorem average_perm {α : Type} [Scalar α] [Scalar.Exact α] {l l' : List Box} (h : l.Perm l') :
    average (α := α) l = average (α := α) l' := by
  by_cases hl : l = []
  · subst hl
    rw [h.symm.eq_nil]
  · have hl' : l' ≠ [] := by
      rintro rfl
      exact hl h.eq_nil
    rw [average_eq hl, average_eq hl', mean_perm h left, mean_perm h top, mean_perm h right, mean_perm h bottom]

end Box

namespace Cluster

open Relation (ReflTransGen)

variable {n n' m : Nat} {near : Fin n → Fin n → Prop} {near' : Fin n' → Fin n' → Prop}

/-! ## What a core binds -/

/-- One step of a chain of cores. -/
def Steps (near : Fin n → Fin n → Prop) (m : Nat) (i j : Fin n) : Prop := Core near m i ∧ Core near m j ∧ near i j

/-- What a chain of cores from `i` comes to, and what is near the chain. -/
def Bound (near : Fin n → Fin n → Prop) (m : Nat) (i j : Fin n) : Prop :=
  ∃ k, ReflTransGen (Steps near m) i k ∧ (k = j ∨ near k j)

theorem core_of_steps {i k : Fin n} (hi : Core near m i) (h : ReflTransGen (Steps near m) i k) : Core near m k := by
  cases h with
  | refl => exact hi
  | tail _ hk => exact hk.2.1

/-- What is no core where two neighbours make one has no two of them. -/
theorem eq_of_near {i j k : Fin n} (hm : m ≤ 2) (hi : ¬ Core near m i) (hj : near i j) (hk : near i k) : j = k := by
  have hcard : Nat.card {j // near i j} ≤ 1 := by
    unfold Core at hi
    omega
  have := Finite.card_le_one_iff_subsingleton.1 hcard
  exact congrArg Subtype.val (Subsingleton.elim (⟨j, hj⟩ : {j // near i j}) ⟨k, hk⟩)

namespace Clustering

variable {out : List (List (Fin n))} {out' : List (List (Fin n'))}

theorem exists_core (h : Clustering near m out) {c : List (Fin n)} (hc : c ∈ out) : ∃ i ∈ c, Core near m i := by
  obtain ⟨i, hi⟩ := List.exists_mem_of_ne_nil c (h.ne_nil c hc)
  by_cases hci : Core near m i
  · exact ⟨i, hi, hci⟩
  · obtain ⟨p, hp, rfl⟩ := List.getElem_of_mem hc
    obtain ⟨k, hk, hck, -⟩ := (h.first i hci ⟨p, hp⟩ hi).1
    exact ⟨k, hk, hck⟩

theorem eq_of_core_mem (h : Clustering near m out) {i : Fin n} (hi : Core near m i) {c d : List (Fin n)} (hc : c ∈ out)
    (hd : d ∈ out) (hic : i ∈ c) (hid : i ∈ d) : c = d := by
  obtain ⟨p, hp, rfl⟩ := List.getElem_of_mem hc
  obtain ⟨q, hq, rfl⟩ := List.getElem_of_mem hd
  have hpq : (⟨p, hp⟩ : Fin out.length) = ⟨q, hq⟩ := (h.core i hi).unique hic hid
  cases hpq
  rfl

/-- **A cluster is what any core of it binds**, where two neighbours make a core. -/
theorem mem_iff_bound (h : Clustering near m out) (hsym : ∀ i j, near i j → near j i) (hm : m ≤ 2) {c : List (Fin n)}
    (hc : c ∈ out) {i : Fin n} (hic : i ∈ c) (hi : Core near m i) (j : Fin n) : j ∈ c ↔ Bound near m i j := by
  constructor
  · intro hj
    by_cases hcj : Core near m j
    · exact ⟨j, (h.together i j hi hcj).1 ⟨c, hc, hic, hj⟩, Or.inl rfl⟩
    · obtain ⟨p, hp, rfl⟩ := List.getElem_of_mem hc
      obtain ⟨k, hk, hck, hjk⟩ := (h.first j hcj ⟨p, hp⟩ hj).1
      exact ⟨k, (h.together i k hi hck).1 ⟨_, hc, hic, hk⟩, Or.inr (hsym _ _ hjk)⟩
  · rintro ⟨k, hik, hkj⟩
    have hck := core_of_steps hi hik
    have hkc : k ∈ c := by
      obtain ⟨d, hd, hid, hkd⟩ := (h.together i k hi hck).2 hik
      rwa [h.eq_of_core_mem hi hc hd hic hid]
    rcases hkj with rfl | hkj
    · exact hkc
    by_cases hcj : Core near m j
    · obtain ⟨d, hd, hkd, hjd⟩ := (h.together k j hck hcj).2 (ReflTransGen.single ⟨hck, hcj, hkj⟩)
      rwa [h.eq_of_core_mem hck hc hd hkc hkd]
    · -- the only neighbour of `j` is `k`, so the cluster that took `j` is the one of `k`
      obtain ⟨d, hd, hjd⟩ := (h.border j hcj).2 ⟨k, hck, hsym _ _ hkj⟩
      obtain ⟨p, hp, rfl⟩ := List.getElem_of_mem hd
      obtain ⟨k', hk', -, hjk'⟩ := (h.first j hcj ⟨p, hp⟩ hjd).1
      obtain rfl := eq_of_near hm hcj hjk' (hsym _ _ hkj)
      rwa [h.eq_of_core_mem hck hc hd hkc hk']

end Clustering

/-! ## Renumbering -/

section Renumber

variable (σ : Fin n ≃ Fin n') (hσ : ∀ i j, near' (σ i) (σ j) ↔ near i j)
include hσ

theorem core_renumber (i : Fin n) : Core near' m (σ i) ↔ Core near m i := by
  unfold Core
  rw [Nat.card_congr (σ.subtypeEquiv fun j => (hσ i j).symm)]

theorem Bound.renumber {i j : Fin n} (h : Bound near m i j) : Bound near' m (σ i) (σ j) := by
  obtain ⟨k, hik, hkj⟩ := h
  refine ⟨σ k, ReflTransGen.lift σ (fun a b hab => ?_) _ _ hik, hkj.imp (congrArg σ) (hσ k j).2⟩
  exact ⟨(core_renumber σ hσ a).2 hab.1, (core_renumber σ hσ b).2 hab.2.1, (hσ a b).2 hab.2.2⟩

theorem near_renumber_symm (i j : Fin n') : near (σ.symm i) (σ.symm j) ↔ near' i j := by
  rw [← hσ, σ.apply_symm_apply, σ.apply_symm_apply]

theorem symm_renumber (hsym : ∀ i j, near i j → near j i) (i j : Fin n') (h : near' i j) : near' j i :=
  (near_renumber_symm σ hσ j i).1 (hsym _ _ ((near_renumber_symm σ hσ i j).2 h))

theorem bound_renumber_iff {i : Fin n} {x : Fin n'} : Bound near' m (σ i) x ↔ Bound near m i (σ.symm x) := by
  constructor
  · intro h
    have := h.renumber σ.symm (near_renumber_symm σ hσ)
    rwa [σ.symm_apply_apply] at this
  · intro h
    have := h.renumber σ hσ
    rwa [σ.apply_symm_apply] at this

namespace Clustering

variable {out : List (List (Fin n))} {out' : List (List (Fin n'))}

theorem exists_renumbered (h : Clustering near m out) (h' : Clustering near' m out')
    (hsym : ∀ i j, near i j → near j i) (hm : m ≤ 2) {c : List (Fin n)} (hc : c ∈ out) :
    ∃ c' ∈ out', (c.map σ).Perm c' := by
  have hsym' := symm_renumber σ hσ hsym
  obtain ⟨i, hic, hi⟩ := h.exists_core hc
  have hi' := (core_renumber σ hσ i).2 hi
  obtain ⟨p, hp, -⟩ := h'.core (σ i) hi'
  refine ⟨out'[p], List.getElem_mem p.2, (List.perm_ext_iff_of_nodup ?_ ?_).2 fun x => ?_⟩
  · exact ((h.increasing c hc).imp ne_of_lt).map σ fun _ _ hne => σ.injective.ne hne
  · exact (h'.increasing _ (List.getElem_mem p.2)).imp ne_of_lt
  · have hx : x ∈ out'[p] ↔ σ.symm x ∈ c := by
      rw [h.mem_iff_bound hsym hm hc hic hi, ← bound_renumber_iff σ hσ]
      exact h'.mem_iff_bound hsym' hm (List.getElem_mem p.2) hp hi' x
    rw [hx, List.mem_map]
    constructor
    · rintro ⟨j, hj, rfl⟩
      rwa [σ.symm_apply_apply]
    · exact fun hx => ⟨_, hx, σ.apply_symm_apply x⟩

omit hσ in
theorem nodup_multisets (h : Clustering near m out) : (out.map Multiset.ofList).Nodup := by
  refine List.pairwise_map.2 (h.disjoint.imp_of_mem fun {c d} hc _ hdis heq => ?_)
  obtain ⟨i, hi⟩ := List.exists_mem_of_ne_nil c (h.ne_nil c hc)
  exact hdis hi ((Multiset.coe_eq_coe.1 heq).mem_iff.1 hi)

/-- **Renumbered items have the same clusters**, renumbered and in some order. -/
theorem perm (h : Clustering near m out) (h' : Clustering near' m out') (hsym : ∀ i j, near i j → near j i)
    (hm : m ≤ 2) : (out.map fun c => Multiset.ofList (c.map σ)).Perm (out'.map Multiset.ofList) := by
  have hsym' := symm_renumber σ hσ hsym
  have hnd : (out.map fun c => Multiset.ofList (c.map σ)).Nodup := by
    have := h.nodup_multisets.map (Multiset.map_injective σ.injective)
    rwa [List.map_map] at this
  refine (List.perm_ext_iff_of_nodup hnd h'.nodup_multisets).2 fun s => ?_
  simp only [List.mem_map]
  constructor
  · rintro ⟨c, hc, rfl⟩
    obtain ⟨c', hc', hp⟩ := exists_renumbered σ hσ h h' hsym hm hc
    exact ⟨c', hc', (Multiset.coe_eq_coe.2 hp).symm⟩
  · rintro ⟨c', hc', rfl⟩
    obtain ⟨c, hc, hp⟩ := exists_renumbered σ.symm (near_renumber_symm σ hσ) h' h hsym' hm hc'
    refine ⟨c, hc, Multiset.coe_eq_coe.2 ?_⟩
    have := (hp.map σ).symm
    rwa [List.map_map, σ.self_comp_symm, List.map_id] at this

end Clustering

end Renumber

/-! ## Average boxes -/

variable {α : Type} [Scalar α]

/-- Two boxes are one, as far as their overlap tells. -/
def Alike (iou : α) (a b : Box) : Prop := Scalar.ofInt 1 - (a.iou b : α) ≤ Scalar.ofInt 1 - iou

instance (iou : α) (a b : Box) : Decidable (Alike iou a b) := inferInstanceAs (Decidable (_ ≤ _))

theorem Alike.symm {iou : α} {a b : Box} (h : Alike iou a b) : Alike iou b a := by
  unfold Alike at h ⊢
  rwa [Box.iou_comm b a]

theorem averageBoxes_eq (l : List Box) (iou : α) (m : Nat) : averageBoxes l iou m =
    (clusters (fun i j : Fin l.length => decide (Alike iou (l.get i) (l.get j))) m).filterMap fun c =>
      Box.average (α := α) (c.map l.get) := rfl

/-- **The average boxes of a reordered list** are the same, in some order. -/
theorem averageBoxes_perm [Scalar.Exact α] {l l' : List Box} (hl : l.Perm l') (iou : α) (hm : m ≤ 2) :
    (averageBoxes l iou m).Perm (averageBoxes l' iou m) := by
  let σ : Fin l.length ≃ Fin l'.length :=
    ⟨hl.idxBij, hl.symm.idxBij, hl.idxBij_symm_leftInverse_idxBij, hl.idxBij_symm_rightInverse_idxBij⟩
  have hget : ∀ i, l'.get (σ i) = l.get i := hl.getElem_idxBij_eq_getElem
  have hσ : ∀ i j, Alike iou (l'.get (σ i)) (l'.get (σ j)) ↔ Alike iou (l.get i) (l.get j) := fun i j => by
    rw [hget, hget]
  have hclusters := (clusters_clustering (fun i j => Alike iou (l.get i) (l.get j)) (fun _ _ h => h.symm) m).perm σ hσ
    (clusters_clustering (fun i j => Alike iou (l'.get i) (l'.get j)) (fun _ _ h => h.symm) m) (fun _ _ h => h.symm)
    (Nat.max_le.2 ⟨hm, by decide⟩)
  -- the average of a cluster is one of its multiset of places, so it can be taken on either side
  let averageAt : Multiset (Fin l'.length) → Option Box :=
    Quotient.lift (fun c : List (Fin l'.length) => Box.average (α := α) (c.map l'.get)) fun _ _ h =>
      Box.average_perm (h.map _)
  have haverage := hclusters.filterMap averageAt
  rw [List.filterMap_map, List.filterMap_map] at haverage
  rw [averageBoxes_eq, averageBoxes_eq]
  refine List.Perm.trans (List.Perm.of_eq (List.filterMap_congr fun c _ => ?_)) haverage
  show Box.average (c.map l.get) = Box.average ((c.map σ).map l'.get)
  rw [List.map_map]
  exact congrArg _ (List.map_congr_left fun i _ => (hget i).symm)

end Cluster
end Pinpoint
