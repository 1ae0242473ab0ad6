import Mathlib.Data.List.Perm.Basic
import Mathlib.Logic.Relation
import Pinpoint.Cluster
/-!
# Flood — what one flood takes and what it leaves

A flood loses no index (`flood_perm`), takes only what it can come to from its front (`flood_reaches`), and stops at a
shore: no core that it took is near anything that it left (`flood_shore`).  Between the last two lies the exact answer,
for a start from one core in what is itself shored off (`mem_flood_iff`): the flood takes precisely what is free and
within reach.
-/
namespace Pinpoint
namespace Cluster

open Relation (ReflTransGen)

variable {n : Nat} {near : Fin n → Fin n → Bool} {core : Fin n → Bool}

/-- One step of a flood: from a core to what is near it. -/
def Spreads (near : Fin n → Fin n → Bool) (core : Fin n → Bool) (i j : Fin n) : Prop := core i = true ∧ near i j = true

/-- What a flood can come to from an index. -/
def Reaches (near : Fin n → Fin n → Bool) (core : Fin n → Bool) : Fin n → Fin n → Prop :=
  ReflTransGen (Spreads near core)

theorem partition_perm {β : Type} (p : β → Bool) (l : List β) : ((l.partition p).1 ++ (l.partition p).2).Perm l := by
  rw [List.partition_eq_filter_filter]
  exact List.filter_append_perm p l

theorem flood_perm (front free : List (Fin n)) :
    ((flood near core front free).1 ++ (flood near core front free).2).Perm (front ++ free) := by
  fun_induction flood near core front free with
  | case1 free => exact List.Perm.refl _
  | case2 i front free hc r ih =>
    refine (List.Perm.cons i ih).trans ?_
    rw [List.append_assoc, List.cons_append]
    exact List.Perm.cons i (List.Perm.append_left front (partition_perm (near i) free))
  | case3 i front free hc r ih => exact List.Perm.cons i ih

theorem flood_sublist (front free : List (Fin n)) : ((flood near core front free).2).Sublist free := by
  fun_induction flood near core front free with
  | case1 free => exact List.Sublist.refl _
  | case2 i front free hc r ih =>
    refine ih.trans ?_
    rw [List.partition_eq_filter_filter]
    exact List.filter_sublist
  | case3 i front free hc r ih => exact ih

theorem mem_flood_of_mem_front (front free : List (Fin n)) : ∀ i ∈ front, i ∈ (flood near core front free).1 := by
  fun_induction flood near core front free with
  | case1 free => simp
  | case2 i front free hc r ih =>
    intro j hj
    rcases List.mem_cons.1 hj with rfl | hj
    · exact List.mem_cons_self
    · exact List.mem_cons_of_mem _ (ih j (List.mem_append_left _ hj))
  | case3 i front free hc r ih =>
    intro j hj
    rcases List.mem_cons.1 hj with rfl | hj
    · exact List.mem_cons_self
    · exact List.mem_cons_of_mem _ (ih j hj)

/-- **A flood takes only what it can come to.** -/
theorem flood_reaches (front free : List (Fin n)) :
    ∀ j ∈ (flood near core front free).1, ∃ i ∈ front, Reaches near core i j := by
  fun_induction flood near core front free with
  | case1 free => simp
  | case2 i front free hc r ih =>
    intro j hj
    rcases List.mem_cons.1 hj with rfl | hj
    · exact ⟨j, List.mem_cons_self, ReflTransGen.refl⟩
    obtain ⟨k, hk, hkj⟩ := ih j hj
    rw [List.partition_eq_filter_filter, List.mem_append, List.mem_filter] at hk
    rcases hk with hk | ⟨-, hik⟩
    · exact ⟨k, List.mem_cons_of_mem _ hk, hkj⟩
    · exact ⟨i, List.mem_cons_self, ReflTransGen.head ⟨hc, hik⟩ hkj⟩
  | case3 i front free hc r ih =>
    intro j hj
    rcases List.mem_cons.1 hj with rfl | hj
    · exact ⟨j, List.mem_cons_self, ReflTransGen.refl⟩
    obtain ⟨k, hk, hkj⟩ := ih j hj
    exact ⟨k, List.mem_cons_of_mem _ hk, hkj⟩

/-- **A flood stops at a shore**: no core that it took is near anything that it left. -/
theorem flood_shore (front free : List (Fin n)) :
    ∀ i ∈ (flood near core front free).1, core i = true → ∀ j ∈ (flood near core front free).2, near i j = false := by
  fun_induction flood near core front free with
  | case1 free => simp
  | case2 i front free hc r ih =>
    intro k hk hck j hj
    rcases List.mem_cons.1 hk with rfl | hk
    · have := (flood_sublist _ _).subset hj
      rw [List.partition_eq_filter_filter, List.mem_filter] at this
      simpa using this.2
    · exact ih k hk hck j hj
  | case3 i front free hc r ih =>
    intro k hk hck j hj
    rcases List.mem_cons.1 hk with rfl | hk
    · exact absurd hck hc
    · exact ih k hk hck j hj

/-- Nothing free is near a core that is no longer free. -/
def Shored (near : Fin n → Fin n → Bool) (core : Fin n → Bool) (free : List (Fin n)) : Prop :=
  ∀ i, core i = true → i ∉ free → ∀ j ∈ free, near i j = false

def floodFrom (near : Fin n → Fin n → Bool) (core : Fin n → Bool) (i : Fin n) (free : List (Fin n)) :
    List (Fin n) × List (Fin n) :=
  flood near core [i] (free.erase i)

theorem floodFrom_perm (near : Fin n → Fin n → Bool) (core : Fin n → Bool) {i : Fin n} {free : List (Fin n)}
    (hi : i ∈ free) :
    ((floodFrom near core i free).1 ++ (floodFrom near core i free).2).Perm free :=
  (flood_perm [i] (free.erase i)).trans (List.perm_cons_erase hi).symm

/-- **A flood from a free core takes exactly what is free and within reach.**  A core within reach is free too, since
otherwise something free would be near a core that is not. -/
theorem mem_floodFrom_iff (hsym : ∀ i j, near i j = true → near j i = true) {i : Fin n} {free : List (Fin n)}
    (hi : i ∈ free) (hs : Shored near core free) (j : Fin n) :
    j ∈ (floodFrom near core i free).1 ↔ j ∈ free ∧ Reaches near core i j := by
  have hmem : ∀ k, k ∈ free ↔ k ∈ (floodFrom near core i free).1 ∨ k ∈ (floodFrom near core i free).2 := fun k => by
    rw [← (floodFrom_perm near core hi).mem_iff, List.mem_append]
  constructor
  · intro hj
    obtain ⟨k, hk, hkj⟩ := flood_reaches _ _ j hj
    rw [List.mem_singleton] at hk
    subst hk
    exact ⟨(hmem j).2 (Or.inl hj), hkj⟩
  · rintro ⟨hj, hij⟩
    -- along the way from `i`, an index is taken, or is a border index of an earlier flood
    have hway : j ∈ (floodFrom near core i free).1 ∨ (j ∉ free ∧ core j = false) := by
      clear hj
      induction hij with
      | refl => exact Or.inl (mem_flood_of_mem_front _ _ i (List.mem_singleton.2 rfl))
      | @tail a b _ hab ih =>
        obtain ⟨hca, hnab⟩ := hab
        have ha : a ∈ (floodFrom near core i free).1 := ih.resolve_right fun h => by simp [hca] at h
        by_cases hb : b ∈ free
        · refine Or.inl (((hmem b).1 hb).resolve_right fun hb2 => ?_)
          have := flood_shore _ _ a ha hca b hb2
          simp [hnab] at this
        · refine Or.inr ⟨hb, ?_⟩
          by_contra hcb
          have := hs b (by simpa using hcb) hb a ((hmem a).2 (Or.inl ha))
          simp [hsym a b hnab] at this
    exact hway.resolve_right fun h => h.1 hj

end Cluster
end Pinpoint
