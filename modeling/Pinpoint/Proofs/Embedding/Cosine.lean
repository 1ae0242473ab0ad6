import Pinpoint.Embedding
import Pinpoint.Proofs.Match.Elimination
import Pinpoint.Proofs.Scalar.Cosine
import Pinpoint.Proofs.Scalar.Roots
/-!
# Cosine — how alike two vectors are

In exact arithmetic the cosine of two vectors is the one of their numbers (`IsVector.is_cosine`): it does not matter which
of them comes first, nor how long they are, and it is between minus one and one (`exists_is_cosine`).  A vector that is
not zero has cosine one with itself (`is_cosine_self`).  The vector of a text has one number for each bucket
(`embed_isVector`).
-/
namespace Pinpoint
namespace Embedding

open Linear (entry)
open Scalar (Is Exact ExactRoots isFinite is_val)

variable {ν : Type} [Scalar ν] [Exact ν] {v w : List ν} {n : Nat}

/-- **A vector of `n` real numbers.** -/
structure IsVector (n : Nat) (v : List ν) : Prop where
  size   : v.length = n
  finite : ∀ x ∈ v, isFinite x = true

omit [Exact ν] in
theorem sum_sq_eq (v : List ν) : Scalar.sum (v.map Scalar.sq) = dot v v := by
  rw [dot, List.zipWith_self]
  rfl

omit [Exact ν] in
theorem cosine_of_ne (h : v.length ≠ w.length) : cosine v w = Scalar.ofInt 0 := if_pos h

theorem isZero_iff {x : ν} {r : ℝ} (h : Is x r) : isZero x = true ↔ r = 0 := by
  rw [isZero, Bool.and_eq_true, decide_eq_true_iff, decide_eq_true_iff, h.le Is.zero, Is.zero.le h]
  exact le_antisymm_iff.symm

namespace IsVector

theorem is_dot (hv : IsVector n v) (hw : IsVector n w) : Is (dot v w) (∑ j : Fin n, entry v j * entry w j) :=
  Linear.is_dot hv.size hw.size hv.finite hw.finite

theorem is_length [ExactRoots ν] (hv : IsVector n v) : Is (length v) √(∑ j : Fin n, entry v j * entry v j) := by
  rw [Embedding.length, sum_sq_eq]
  exact ExactRoots.sqrt (hv.is_dot hv) Scalar.sum_mul_self_nonneg

/-- **The cosine of two vectors** is the cosine of their numbers. -/
theorem is_cosine [ExactRoots ν] (hv : IsVector n v) (hw : IsVector n w) :
    Is (cosine v w) (Scalar.cosine Finset.univ (fun j : Fin n => entry v j) fun j : Fin n => entry w j) := by
  have hlength : ¬ v.length ≠ w.length := not_not.2 (hv.size.trans hw.size.symm)
  unfold cosine
  rw [if_neg hlength]
  dsimp only
  by_cases hzero : (isZero (Embedding.length v) || isZero (Embedding.length w)) = true
  · rw [if_pos hzero, Scalar.cosine]
    rw [Bool.or_eq_true, isZero_iff hv.is_length, isZero_iff hw.is_length, ← mul_eq_zero] at hzero
    rw [hzero, div_zero]
    exact Is.zero
  · rw [if_neg hzero]
    rw [Bool.or_eq_true, isZero_iff hv.is_length, isZero_iff hw.is_length, ← mul_eq_zero] at hzero
    exact (hv.is_dot hw).div (hv.is_length.mul hw.is_length) hzero

variable {c : ν} {a : ℝ}

theorem map_mul (hv : IsVector n v) (hc : Is c a) : IsVector n (v.map (c * ·)) where
  size := by rw [List.length_map, hv.size]
  finite x hx := by
    obtain ⟨y, hy, rfl⟩ := List.mem_map.1 hx
    exact (hc.mul (is_val (hv.finite y hy))).1

theorem entry_map_mul (hv : IsVector n v) (hc : Is c a) (j : Fin n) : entry (v.map (c * ·)) j = a * entry v j := by
  have hj : (j : Nat) < v.length := hv.size ▸ j.2
  have hentry := List.getElem?_eq_getElem hj
  rw [Linear.entry_of_getElem? hentry, Linear.entry_of_getElem? (by rw [List.getElem?_map, hentry]; rfl)]
  exact (hc.mul (is_val (hv.finite _ (List.getElem_mem hj)))).2

/-- A positive factor changes no cosine. -/
theorem is_cosine_map_mul [ExactRoots ν] (hv : IsVector n v) (hw : IsVector n w) (hc : Is c a) (ha : 0 < a) :
    Is (cosine (v.map (c * ·)) w)
      (Scalar.cosine Finset.univ (fun j : Fin n => entry v j) fun j : Fin n => entry w j) := by
  have hscaled := (hv.map_mul hc).is_cosine hw
  rwa [funext (hv.entry_map_mul hc), Scalar.cosine_smul ha] at hscaled

end IsVector

variable [ExactRoots ν]

/-- **The laws of the cosine**: it is symmetric, between minus one and one, and blind to positive factors. -/
theorem exists_is_cosine (hv : ∀ x ∈ v, isFinite x = true) (hw : ∀ x ∈ w, isFinite x = true) :
    ∃ r, Is (cosine v w) r ∧ Is (cosine w v) r ∧ (-1 ≤ r ∧ r ≤ 1) ∧
      ∀ (c : ν) (a : ℝ), Is c a → 0 < a → Is (cosine (v.map (c * ·)) w) r ∧ Is (cosine v (w.map (c * ·))) r := by
  by_cases hlength : v.length = w.length
  · have hv' : IsVector w.length v := ⟨hlength, hv⟩
    have hw' : IsVector w.length w := ⟨rfl, hw⟩
    have hswapped := hw'.is_cosine hv'
    rw [Scalar.cosine_comm] at hswapped
    refine ⟨_, hv'.is_cosine hw', hswapped, abs_le.1 Scalar.abs_cosine_le_one, fun c a hc ha => ⟨?_, ?_⟩⟩
    · exact hv'.is_cosine_map_mul hw' hc ha
    · have hscaled := hv'.is_cosine (hw'.map_mul hc)
      rwa [funext (hw'.entry_map_mul hc), Scalar.cosine_comm, Scalar.cosine_smul ha, Scalar.cosine_comm] at hscaled
  · -- vectors of different dimensions have nothing to do with each other
    refine ⟨0, ?_, ?_, by norm_num, fun c a _ _ => ⟨?_, ?_⟩⟩
    · rw [cosine_of_ne hlength]
      exact Is.zero
    · rw [cosine_of_ne (Ne.symm hlength)]
      exact Is.zero
    · rw [cosine_of_ne (by rwa [List.length_map])]
      exact Is.zero
    · rw [cosine_of_ne (by rwa [List.length_map])]
      exact Is.zero

/-- **A vector that is not zero** has cosine one with itself. -/
theorem is_cosine_self (hv : ∀ x ∈ v, isFinite x = true) (hzero : ∃ x ∈ v, isZero x = false) : Is (cosine v v) 1 := by
  have hv' : IsVector v.length v := ⟨rfl, hv⟩
  obtain ⟨x, hx, hne⟩ := hzero
  obtain ⟨j, hj, rfl⟩ := List.getElem_of_mem hx
  have hentry : entry v j ≠ 0 := by
    rw [Linear.entry_of_getElem? (List.getElem?_eq_getElem hj), ne_eq, ← isZero_iff (is_val (hv _ hx)), hne]
    exact Bool.false_ne_true
  have hpos : 0 < ∑ j : Fin v.length, entry v j * entry v j :=
    Finset.sum_pos' (fun _ _ => mul_self_nonneg _) ⟨⟨j, hj⟩, Finset.mem_univ _, mul_self_pos.2 hentry⟩
  exact Scalar.cosine_self hpos ▸ hv'.is_cosine hv'

/-! ## Vectors of texts -/

omit [ExactRoots ν] in
theorem isFinite_fill {l : List (Feature ν)} (h : ∀ f ∈ l, isFinite f.weight = true) (d : Nat) :
    ∀ x ∈ fill d l, isFinite x = true := by
  intro x hx
  obtain ⟨i, -, rfl⟩ := List.mem_map.1 hx
  exact (Is.sum _ fun f hf => is_val (h f (List.mem_filter.1 hf).1)).1

omit [ExactRoots ν] in
theorem isFinite_feature {weight : ν} (h : isFinite weight = true) (d : Nat) (text : String) :
    isFinite (feature d weight text).weight = true := by
  unfold feature
  dsimp only
  split
  · exact h
  · exact (is_val h).neg.1

omit [ExactRoots ν] in
theorem isFinite_features (d : Nat) (text : String) : ∀ f ∈ (features d text : List (Feature ν)), isFinite f.weight = true := by
  intro f hf
  rcases List.mem_append.1 hf with hf | hf
  · obtain ⟨t, -, rfl⟩ := List.mem_map.1 hf
    exact isFinite_feature Is.one.1 d t
  · obtain ⟨t, -, rfl⟩ := List.mem_map.1 hf
    exact isFinite_feature (Is.ratio 1 two_ne_zero).1 d t

theorem IsVector.normalize (hv : IsVector n v) : IsVector n (normalize v) := by
  unfold Embedding.normalize
  dsimp only
  split
  · rename_i hpos
    have hlength := hv.is_length
    refine ⟨by rw [List.length_map, hv.size], fun x hx => ?_⟩
    obtain ⟨y, hy, rfl⟩ := List.mem_map.1 hx
    exact ((is_val (hv.finite y hy)).div hlength ((Is.zero.lt hlength).1 hpos).ne').1
  · exact hv

/-- **The vector of a text** has a number for each bucket. -/
theorem embed_isVector (d : Nat) (text : String) : IsVector d (embed d text : List ν) := by
  refine IsVector.normalize ⟨?_, isFinite_fill (isFinite_features d text) d⟩
  rw [fill, List.length_map, List.length_range]

/-- A vector that is not zero is not brought to zero. -/
theorem exists_isZero_normalize (hv : IsVector n v) (hzero : ∃ x ∈ v, isZero x = false) :
    ∃ x ∈ normalize v, isZero x = false := by
  obtain ⟨x, hx, hne⟩ := hzero
  have hlength := hv.is_length
  unfold normalize
  dsimp only
  split
  · rename_i hpos
    have hpos := (Is.zero.lt hlength).1 hpos
    refine ⟨_, List.mem_map_of_mem hx, Bool.eq_false_iff.2 fun h => ?_⟩
    have hx' := is_val (hv.finite x hx)
    rw [isZero_iff (hx'.div hlength hpos.ne'), div_eq_zero_iff, or_iff_left hpos.ne', ← isZero_iff hx', hne] at h
    cases h
  · exact ⟨x, hx, hne⟩

/-- **A single word has a vector that is not zero.** -/
theorem exists_isZero_embed {d : Nat} {text word : String} (hd : 0 < d) (hword : words text = [word]) :
    ∃ x ∈ (embed d text : List ν), isZero x = false := by
  have hfeatures : (features d text : List (Feature ν)) = [feature d (Scalar.ofInt 1) word] := by
    unfold features
    rw [hword]
    rfl
  have hvector : IsVector d (fill d (features d text) : List ν) :=
    ⟨by rw [fill, List.length_map, List.length_range], isFinite_fill (isFinite_features d text) d⟩
  refine exists_isZero_normalize hvector ⟨_, List.mem_map_of_mem (List.mem_range.2 (Nat.mod_lt (Text.hash word).toNat hd)), ?_⟩
  have hone : (features d text : List (Feature ν)).filter (fun f => f.bucket == (Text.hash word).toNat % d) =
      [feature d (Scalar.ofInt 1) word] := by
    rw [hfeatures]
    exact List.filter_cons_of_pos (beq_self_eq_true _)
  rw [hone]
  have hweight : ∃ r, Is (feature d (Scalar.ofInt 1 : ν) word).weight r ∧ r ≠ 0 := by
    unfold feature
    dsimp only
    split
    · exact ⟨1, Is.one, one_ne_zero⟩
    · exact ⟨-1, Is.one.neg, neg_ne_zero.2 one_ne_zero⟩
  obtain ⟨r, hr, hne⟩ := hweight
  have hsum := Is.zero.add hr
  rw [zero_add] at hsum
  exact Bool.eq_false_iff.2 fun h => hne ((isZero_iff hsum).1 h)

end Embedding
end Pinpoint
