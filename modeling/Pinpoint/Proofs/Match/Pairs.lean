import Pinpoint.Match.Feature
import Pinpoint.Proofs.Match.Hamming
import Pinpoint.Proofs.Scalar.Order
/-!
# Pairs — which descriptors match

One pass over the scene keeps the nearest descriptor and the distance of the second nearest.  After any number of
descriptors the first is where the least distance is for the first time, and the second is the least distance anywhere
else, which is the same one again when two are as near (`Nearest.Kept`).  A descriptor of the reference matches if its
nearest is near enough, and near enough compared with the second (`matchDescriptors_iff`).
-/
namespace Pinpoint
namespace Match

variable {l : List Nat} {s d e n : Nat}

/-- The least of some numbers is `d`, at `s` for the first time. -/
structure LeastAt (l : List Nat) (s d : Nat) : Prop where
  value : l[s]? = some d
  least {j e : Nat} : l[j]? = some e → d ≤ e
  first {j e : Nat} : l[j]? = some e → j < s → d < e

/-- The least of some numbers, without the one at `s`, is `d`. -/
structure LeastBeside (l : List Nat) (s d : Nat) : Prop where
  value : ∃ j, j ≠ s ∧ l[j]? = some d
  least {j e : Nat} : j ≠ s → l[j]? = some e → d ≤ e

theorem lt_length_of_getElem? {j : Nat} (h : l[j]? = some e) : j < l.length := (List.getElem?_eq_some_iff.1 h).1

theorem getElem?_concat_of_some {j : Nat} (h : l[j]? = some e) : (l ++ [n])[j]? = some e := by
  rw [List.getElem?_append_left (lt_length_of_getElem? h), h]

theorem getElem?_concat_iff {j : Nat} : (l ++ [n])[j]? = some e ↔ l[j]? = some e ∨ j = l.length ∧ n = e := by
  constructor
  · intro h
    by_cases hj : j < l.length
    · rw [List.getElem?_append_left hj] at h
      exact Or.inl h
    · have hlt := lt_length_of_getElem? h
      rw [List.length_append, List.length_singleton] at hlt
      obtain rfl : j = l.length := by omega
      rw [List.getElem?_concat_length] at h
      exact Or.inr ⟨rfl, Option.some.inj h⟩
  · rintro (h | ⟨rfl, rfl⟩)
    · exact getElem?_concat_of_some h
    · exact List.getElem?_concat_length

/-! ## One more number -/

namespace LeastAt

theorem unique {t : Nat} (h : LeastAt l s d) (h' : LeastAt l t e) : s = t ∧ d = e := by
  have hde := Nat.le_antisymm (h.least h'.value) (h'.least h.value)
  refine ⟨Nat.le_antisymm (Nat.le_of_not_lt fun hlt => ?_) (Nat.le_of_not_lt fun hlt => ?_), hde⟩
  · have := h.first h'.value hlt
    omega
  · have := h'.first h.value hlt
    omega

theorem concat_of_lt (h : LeastAt l s d) (hn : n < d) : LeastAt (l ++ [n]) l.length n where
  value := List.getElem?_concat_length
  least hj := by
    rcases getElem?_concat_iff.1 hj with hj | ⟨-, rfl⟩
    · exact hn.le.trans (h.least hj)
    · exact le_rfl
  first hj hlt := by
    rcases getElem?_concat_iff.1 hj with hj | ⟨rfl, -⟩
    · exact hn.trans_le (h.least hj)
    · exact absurd hlt (lt_irrefl _)

theorem concat_of_le (h : LeastAt l s d) (hn : d ≤ n) : LeastAt (l ++ [n]) s d where
  value := getElem?_concat_of_some h.value
  least hj := by
    rcases getElem?_concat_iff.1 hj with hj | ⟨-, rfl⟩
    · exact h.least hj
    · exact hn
  first hj hlt := by
    rcases getElem?_concat_iff.1 hj with hj | ⟨rfl, -⟩
    · exact h.first hj hlt
    · exact absurd hlt (lt_length_of_getElem? h.value).not_gt

/-- A new least number leaves the old one as the least beside it. -/
theorem beside_concat (h : LeastAt l s d) (n : Nat) : LeastBeside (l ++ [n]) l.length d where
  value := ⟨s, (lt_length_of_getElem? h.value).ne, getElem?_concat_of_some h.value⟩
  least hne hj := by
    rcases getElem?_concat_iff.1 hj with hj | ⟨rfl, -⟩
    · exact h.least hj
    · exact absurd rfl hne

end LeastAt

namespace LeastBeside

theorem unique (h : LeastBeside l s d) (h' : LeastBeside l s e) : d = e := by
  obtain ⟨i, hi, hd⟩ := h.value
  obtain ⟨j, hj, he⟩ := h'.value
  exact Nat.le_antisymm (h.least hj he) (h'.least hi hd)

theorem concat_of_lt (h : LeastBeside l s d) (hs : s < l.length) (hn : n < d) : LeastBeside (l ++ [n]) s n where
  value := ⟨l.length, hs.ne', List.getElem?_concat_length⟩
  least hne hj := by
    rcases getElem?_concat_iff.1 hj with hj | ⟨-, rfl⟩
    · exact hn.le.trans (h.least hne hj)
    · exact le_rfl

theorem concat_of_le (h : LeastBeside l s d) (hn : d ≤ n) : LeastBeside (l ++ [n]) s d where
  value := by
    obtain ⟨j, hne, hj⟩ := h.value
    exact ⟨j, hne, getElem?_concat_of_some hj⟩
  least hne hj := by
    rcases getElem?_concat_iff.1 hj with hj | ⟨-, rfl⟩
    · exact h.least hne hj
    · exact hn

end LeastBeside

/-! ## One pass -/

/-- **What one pass has found** among the distances it has seen. -/
inductive Nearest.Kept : List Nat → Nearest → Prop
  | nothing : Kept [] ⟨0, none, none⟩
  | one (d : Nat) : Kept [d] ⟨0, some d, none⟩
  | two {l : List Nat} {s d e : Nat} : LeastAt l s d → LeastBeside l s e → Kept l ⟨s, some d, some e⟩

theorem leastAt_singleton (d : Nat) : LeastAt [d] 0 d where
  value := rfl
  least hj := (List.mem_singleton.1 (List.mem_of_getElem? hj)).ge
  first _ hlt := absurd hlt (Nat.not_lt_zero _)

theorem leastBeside_pair (d n : Nat) : LeastBeside ([d] ++ [n]) 0 n where
  value := ⟨1, Nat.one_ne_zero, rfl⟩
  least {j e} hne hj := by
    rcases getElem?_concat_iff.1 hj with hj | ⟨-, rfl⟩
    · exact absurd (Nat.lt_one_iff.1 (lt_length_of_getElem? hj)) hne
    · exact le_rfl

namespace Nearest

/-- **One more distance** is the new least, the new second, or neither. -/
theorem Kept.push {k : Nearest} (h : Kept l k) (n : Nat) : Kept (l ++ [n]) (k.push l.length n) := by
  cases h with
  | nothing => exact one n
  | one d =>
    have hd := leastAt_singleton d
    by_cases hn : n < d
    · simpa [Nearest.push, below, hn] using two (hd.concat_of_lt hn) (hd.beside_concat n)
    · simpa [Nearest.push, below, hn] using two (hd.concat_of_le (not_lt.1 hn)) (leastBeside_pair d n)
  | @two _ s d e hd he =>
    by_cases hn : n < d
    · simpa [Nearest.push, below, hn] using two (hd.concat_of_lt hn) (hd.beside_concat n)
    · have hstay := hd.concat_of_le (not_lt.1 hn)
      by_cases hn' : n < e
      · simpa [Nearest.push, below, hn, hn'] using two hstay (he.concat_of_lt (lt_length_of_getElem? hd.value) hn')
      · simpa [Nearest.push, below, hn, hn'] using two hstay (he.concat_of_le (not_lt.1 hn'))

theorem Kept.foldl (p : Descriptor) (scene : List Descriptor) {k : Nearest} (h : Kept l k) :
    Kept (l ++ scene.map p.distance)
      (scene.foldl (fun (acc : Nat × Nearest) q => (acc.1 + 1, acc.2.push acc.1 (p.distance q))) (l.length, k)).2 := by
  induction scene generalizing l k with
  | nil => simpa using h
  | cons q scene ih => simpa using ih (h.push (p.distance q))

theorem kept_nearest (p : Descriptor) (scene : List Descriptor) : Kept (scene.map p.distance) (nearest p scene) :=
  Kept.nothing.foldl p scene

variable {ν : Type} [Scalar ν] {ratio : ν}

/-- **What passes**: the nearest is near enough, also compared with the second. -/
theorem Kept.passes_iff {k : Nearest} (h : Kept l k) :
    k.passes ratio = true ∧ k.index = s ↔ ∃ d e, LeastAt l s d ∧ d ≤ maxDistance ∧ LeastBeside l s e ∧
      (Scalar.ofNat d : ν) < ratio * Scalar.ofNat e := by
  cases h with
  | nothing =>
    refine iff_of_false (by simp [passes]) ?_
    rintro ⟨d, e, hd, -⟩
    cases hd.value
  | one d =>
    refine iff_of_false (by simp [passes]) ?_
    rintro ⟨d', e, hd, -, he, -⟩
    obtain ⟨j, hne, hj⟩ := he.value
    have hj := lt_length_of_getElem? hj
    have hs := lt_length_of_getElem? hd.value
    rw [List.length_singleton] at hj hs
    omega
  | @two _ t d e hd he =>
    rw [passes, Bool.and_eq_true, decide_eq_true_iff, decide_eq_true_iff]
    constructor
    · rintro ⟨⟨hmax, hlt⟩, rfl⟩
      exact ⟨d, e, hd, hmax, he, hlt⟩
    · rintro ⟨d', e', hd', hmax, he', hlt⟩
      obtain ⟨rfl, rfl⟩ := hd.unique hd'
      obtain rfl := he.unique he'
      exact ⟨⟨hmax, hlt⟩, rfl⟩

end Nearest

/-! ## Pairs -/

variable {ν : Type} [Scalar ν]

theorem pairwise_zipIdx {β : Type} (l : List β) : l.zipIdx.Pairwise fun a b => a.2 < b.2 := by
  rw [← List.pairwise_map (f := Prod.snd) (R := (· < ·)), List.zipIdx_map_snd]
  exact List.pairwise_lt_range'

theorem pairwise_matchDescriptors (ratio : ν) (reference scene : List Descriptor) :
    (matchDescriptors ratio reference scene).Pairwise fun a b => a.1 < b.1 := by
  unfold matchDescriptors
  split
  · exact List.Pairwise.nil
  · refine (pairwise_zipIdx reference).filterMap _ fun a b hab u hu v hv => ?_
    obtain ⟨-, rfl⟩ : _ ∧ (a.2, _) = u := by simpa using hu
    obtain ⟨-, rfl⟩ : _ ∧ (b.2, _) = v := by simpa using hv
    exact hab

theorem mem_matchDescriptors {ratio : ν} {reference scene : List Descriptor} {r s : Nat} :
    (r, s) ∈ matchDescriptors ratio reference scene ↔ 2 ≤ scene.length ∧ ∃ p, reference[r]? = some p ∧
      (nearest p scene).passes ratio = true ∧ (nearest p scene).index = s := by
  unfold matchDescriptors
  split
  · rename_i h
    simp [not_le.2 h]
  · rename_i h
    simp only [not_lt.1 h, List.mem_filterMap, true_and, Prod.exists, Option.ite_none_right_eq_some, Option.some.injEq,
      Prod.mk.injEq]
    constructor
    · rintro ⟨p, _, hp, hpasses, rfl, rfl⟩
      exact ⟨p, List.mk_mem_zipIdx_iff_getElem?.1 hp, hpasses, rfl⟩
    · rintro ⟨p, hp, hpasses, rfl⟩
      exact ⟨p, r, List.mk_mem_zipIdx_iff_getElem?.2 hp, hpasses, rfl, rfl⟩

/-- The Hamming distances of the descriptors of a scene. -/
def Descriptor.hammingDists (p : Descriptor) (scene : List Descriptor) : List Nat :=
  scene.map fun q => hammingDist p.bits q.bits

theorem map_distance (p : Descriptor) (scene : List Descriptor) : scene.map p.distance = p.hammingDists scene :=
  List.map_congr_left fun q _ => p.distance_eq_hammingDist q

/-- Of two least numbers at different places one is beside any third place. -/
theorem LeastBeside.eq_of_shared {i j t : Nat} (hl : ∀ e ∈ l, d ≤ e) (hij : i ≠ j) (hi : l[i]? = some d)
    (hj : l[j]? = some d) (h : LeastBeside l t e) : e = d := by
  obtain ⟨k, -, hk⟩ := h.value
  refine Nat.le_antisymm ?_ (hl e (List.mem_of_getElem? hk))
  by_cases hit : i = t
  · exact h.least (fun hjt => hij (hit.trans hjt.symm)) hj
  · exact h.least hit hi

/-- **Which descriptors match**: in the order of the reference, each with the first of its nearest, if that is near
enough and nearer by the ratio than all others.  So if two are the nearest, neither matches. -/
theorem matchDescriptors_iff (ratio : ν) (reference scene : List Descriptor) :
    (matchDescriptors ratio reference scene).Pairwise (fun a b => a.1 < b.1) ∧
    (∀ r s, (r, s) ∈ matchDescriptors ratio reference scene ↔ 2 ≤ scene.length ∧ ∃ p, reference[r]? = some p ∧
      ∃ d e, LeastAt (p.hammingDists scene) s d ∧ d ≤ 80 ∧ LeastBeside (p.hammingDists scene) s e ∧
        (Scalar.ofNat d : ν) < ratio * Scalar.ofNat e) ∧
    (∀ [Scalar.Contracting ν], ratio ≤ Scalar.ofInt 1 → ∀ (r : Nat) (p : Descriptor), reference[r]? = some p →
      ∀ i j d : Nat, i ≠ j → (p.hammingDists scene)[i]? = some d → (p.hammingDists scene)[j]? = some d →
        (∀ e ∈ p.hammingDists scene, d ≤ e) → ∀ s, (r, s) ∉ matchDescriptors ratio reference scene) := by
  have hiff : ∀ r s, (r, s) ∈ matchDescriptors ratio reference scene ↔ 2 ≤ scene.length ∧ ∃ p, reference[r]? = some p ∧
      ∃ d e, LeastAt (p.hammingDists scene) s d ∧ d ≤ 80 ∧ LeastBeside (p.hammingDists scene) s e ∧
        (Scalar.ofNat d : ν) < ratio * Scalar.ofNat e := by
    intro r s
    rw [mem_matchDescriptors]
    refine and_congr_right fun _ => exists_congr fun p => and_congr_right fun _ => ?_
    rw [(Nearest.kept_nearest p scene).passes_iff, map_distance]
    rfl
  refine ⟨pairwise_matchDescriptors ratio reference scene, hiff, ?_⟩
  intro _ hratio r p hp i j d hij hi hj hl s hmem
  obtain ⟨-, p', hp', d', e, hd, -, he, hlt⟩ := (hiff r s).1 hmem
  obtain rfl := Option.some.inj (hp.symm.trans hp')
  obtain rfl : d' = d := Nat.le_antisymm (hd.least hi) (hl d' (List.mem_of_getElem? hd.value))
  obtain rfl := he.eq_of_shared hl hij hi hj
  exact Scalar.Contracting.not_lt_mul e hratio hlt

/-! One bit against three, and two single bits at different places. -/

def dark : Descriptor := ⟨0, 0, 0, 0⟩
def oneNear : List Descriptor := [⟨7, 0, 0, 0⟩, ⟨1, 0, 0, 0⟩]
def twoNear : List Descriptor := [⟨1, 0, 0, 0⟩, ⟨0, 0, 0, 2⟩]

theorem matchDescriptors_iff_dark : (0, 1) ∈ matchDescriptors (3 / 4 : ℚ) [dark] oneNear ∧
    (1 : ℚ) ≤ Scalar.ofInt 1 ∧ ∀ s, (0, s) ∉ matchDescriptors (1 : ℚ) [dark] twoNear := by
  have honeNear : dark.hammingDists oneNear = [3, 1] := by decide +kernel
  have htwoNear : dark.hammingDists twoNear = [1, 1] := by decide +kernel
  have hd : LeastAt [3, 1] 1 1 := (leastAt_singleton 3).concat_of_lt (by decide)
  have he : LeastBeside [3, 1] 1 3 := (leastAt_singleton 3).beside_concat 1
  have hone : (1 : ℚ) ≤ Scalar.ofInt 1 := Int.cast_one.ge
  obtain ⟨-, hiff, -⟩ := matchDescriptors_iff (3 / 4 : ℚ) [dark] oneNear
  obtain ⟨-, -, hshared⟩ := matchDescriptors_iff (1 : ℚ) [dark] twoNear
  refine ⟨(hiff 0 1).2 ⟨by decide, dark, rfl, 1, 3, honeNear ▸ hd, by decide, honeNear ▸ he, by decide +kernel⟩, hone,
    hshared hone 0 dark rfl 0 1 1 (by decide) ?_ ?_ ?_⟩
  · rw [htwoNear]
    rfl
  · rw [htwoNear]
    rfl
  · rw [htwoNear]
    decide

end Match
end Pinpoint
