import Pinpoint.Match.Homography
import Pinpoint.Proofs.Match.Pairs
/-!
# Consensus — the mapping that most pairs agree with

A search draws samples one after the other, passes over those without a model, keeps a model that more pairs agree with
than with the best so far, and stops once all agree.  No model has more inliers than there are pairs, so that stopping
changes nothing (`searchFrom_eq_exhaust`), and what is kept is the first of the models with the most inliers
(`Selected`).  The fit to its inliers may have other inliers; those of the mapping that is returned are returned with it
(`consensusWith_selected`).
-/
namespace Pinpoint
namespace Homography

variable {α : Type}

/-! ## Samples -/

/-- The first `k` samples. -/
def drawn {σ : Type} (next : σ → List Nat × σ) : (k : Nat) → σ → List (List Nat)
  | 0, _     => []
  | k + 1, s => (next s).1 :: drawn next k (next s).2

/-- The better of the best so far and the model of one more sample. -/
def keep (model : List Nat → Option (Consensus α)) (best : Option (Consensus α)) (idx : List Nat) :
    Option (Consensus α) :=
  match model idx, best with
  | none, _        => best
  | some m, none   => some m
  | some m, some b => if b.inliers.length < m.inliers.length then some m else some b

/-- **The search that tries every sample.** -/
def exhaust (model : List Nat → Option (Consensus α)) (samples : List (List Nat)) (best : Option (Consensus α)) :
    Option (Consensus α) :=
  samples.foldl (keep model) best

/-- **The model of the first sample with the most inliers** among those that have a model. -/
def Selected (model : List Nat → Option (Consensus α)) (samples : List (List Nat)) (b : Consensus α) : Prop :=
  ∃ before idx after, samples = before ++ idx :: after ∧ model idx = some b ∧
    (∀ i ∈ before, ∀ m, model i = some m → m.inliers.length < b.inliers.length) ∧
    ∀ i ∈ after, ∀ m, model i = some m → m.inliers.length ≤ b.inliers.length

/-- What a search has kept of some samples. -/
def Keeps (model : List Nat → Option (Consensus α)) (samples : List (List Nat)) : Option (Consensus α) → Prop
  | none   => ∀ i ∈ samples, model i = none
  | some b => Selected model samples b

variable {model : List Nat → Option (Consensus α)} {samples : List (List Nat)} {best : Option (Consensus α)}
  {b b' : Consensus α}

/-! ## Stopping early -/

theorem exhaust_cons (idx : List Nat) (samples : List (List Nat)) :
    exhaust model (idx :: samples) best = exhaust model samples (keep model best idx) := rfl

theorem keep_of_none {idx : List Nat} (h : model idx = none) : keep model best idx = best := by
  simp [keep, h]

theorem keep_none_of_some {idx : List Nat} {m : Consensus α} (h : model idx = some m) :
    keep model none idx = some m := by
  simp [keep, h]

theorem keep_some_of_some {idx : List Nat} {m : Consensus α} (h : model idx = some m) :
    keep model (some b) idx = if b.inliers.length < m.inliers.length then some m else some b := by
  simp [keep, h]

theorem exhaust_full {n : Nat} (hn : ∀ idx m, model idx = some m → m.inliers.length ≤ n) (hb : b.inliers.length = n) :
    exhaust model samples (some b) = some b := by
  induction samples with
  | nil => rfl
  | cons idx samples ih =>
    have hkeep : keep model (some b) idx = some b := by
      cases hm : model idx with
      | none   => exact keep_of_none hm
      | some m => rw [keep_some_of_some hm, if_neg (not_lt.2 (hb ▸ hn idx m hm))]
    rw [exhaust_cons, hkeep, ih]

/-- **Stopping once all pairs agree changes nothing.** -/
theorem searchFrom_eq_exhaust {σ : Type} {n : Nat} (hn : ∀ idx m, model idx = some m → m.inliers.length ≤ n)
    (next : σ → List Nat × σ) (k : Nat) (s : σ) (best : Option (Consensus α)) :
    searchFrom model n next k s best = exhaust model (drawn next k s) best := by
  induction k generalizing s best with
  | zero => rfl
  | succ k ih =>
    have hstop : ∀ m : Consensus α,
        (if m.inliers.length = n then some m else searchFrom model n next k (next s).2 (some m)) =
          exhaust model (drawn next k (next s).2) (some m) := by
      intro m
      by_cases hm : m.inliers.length = n
      · rw [if_pos hm, exhaust_full hn hm]
      · rw [if_neg hm, ih]
    simp only [searchFrom, drawn, exhaust_cons]
    cases hm : model (next s).1 with
    | none   => rw [keep_of_none hm, ← ih]
    | some m =>
      cases best with
      | none   => simpa [keep_none_of_some hm] using hstop m
      | some b =>
        by_cases hlt : b.inliers.length < m.inliers.length
        · simpa [keep_some_of_some hm, hlt] using hstop m
        · simpa [keep_some_of_some hm, hlt] using ih _ _

/-! ## The first of the best -/

namespace Selected

theorem exists_mem (h : Selected model samples b) : ∃ i ∈ samples, model i = some b := by
  obtain ⟨before, idx, after, rfl, hb, -, -⟩ := h
  exact ⟨idx, by simp, hb⟩

theorem le (h : Selected model samples b) {i : List Nat} (hi : i ∈ samples) {m : Consensus α}
    (hm : model i = some m) : m.inliers.length ≤ b.inliers.length := by
  obtain ⟨before, idx, after, rfl, hb, hbefore, hafter⟩ := h
  rcases List.mem_append.1 hi with hi | hi
  · exact (hbefore i hi m hm).le
  · rcases List.mem_cons.1 hi with rfl | hi
    · obtain rfl := Option.some.inj (hb.symm.trans hm)
      exact le_rfl
    · exact hafter i hi m hm

theorem unique (h : Selected model samples b) (h' : Selected model samples b') : b = b' := by
  obtain ⟨i, hi, hib⟩ := h.exists_mem
  obtain ⟨i', hi', hib'⟩ := h'.exists_mem
  have hlength := Nat.le_antisymm (h'.le hi hib) (h.le hi' hib')
  obtain ⟨before, idx, after, rfl, hb, hbefore, -⟩ := h
  obtain ⟨before', idx', after', heq, hb', hbefore', -⟩ := h'
  -- neither of the two comes before the other, as it would have less inliers
  rcases List.append_eq_append_iff.1 heq with ⟨l, rfl, hl⟩ | ⟨l, rfl, hl⟩
  · cases l with
    | nil =>
      obtain ⟨rfl, -⟩ := List.cons.inj hl
      exact Option.some.inj (hb.symm.trans hb')
    | cons j l =>
      obtain ⟨rfl, -⟩ := List.cons.inj hl
      exact absurd hlength (hbefore' idx (by simp) b hb).ne
  · cases l with
    | nil =>
      obtain ⟨rfl, -⟩ := List.cons.inj hl
      exact Option.some.inj (hb'.symm.trans hb).symm
    | cons j l =>
      obtain ⟨rfl, -⟩ := List.cons.inj hl
      exact absurd hlength (hbefore idx' (by simp) b' hb').ne'

/-- One more sample, no better than the best. -/
theorem concat (h : Selected model samples b) {idx : List Nat}
    (hidx : ∀ m, model idx = some m → m.inliers.length ≤ b.inliers.length) : Selected model (samples ++ [idx]) b := by
  obtain ⟨before, i, after, rfl, hb, hbefore, hafter⟩ := h
  refine ⟨before, i, after ++ [idx], by simp, hb, hbefore, fun j hj => ?_⟩
  rcases List.mem_append.1 hj with hj | hj
  · exact hafter j hj
  · rw [List.mem_singleton.1 hj]
    exact hidx

end Selected

/-- One more sample, better than all. -/
theorem selected_concat {idx : List Nat} (hb : model idx = some b)
    (h : ∀ i ∈ samples, ∀ m, model i = some m → m.inliers.length < b.inliers.length) :
    Selected model (samples ++ [idx]) b :=
  ⟨samples, idx, [], rfl, hb, h, by simp⟩

theorem Keeps.keep (h : Keeps model samples best) (idx : List Nat) :
    Keeps model (samples ++ [idx]) (keep model best idx) := by
  cases hm : model idx with
  | none =>
    rw [keep_of_none hm]
    cases best with
    | none   => simpa [Keeps, or_imp, forall_and, hm] using h
    | some b => exact Selected.concat h (by simp [hm])
  | some m =>
    cases best with
    | none =>
      rw [keep_none_of_some hm]
      exact selected_concat hm fun i hi m' hm' => absurd hm' (by simp [h i hi])
    | some b =>
      rw [keep_some_of_some hm]
      by_cases hlt : b.inliers.length < m.inliers.length
      · rw [if_pos hlt]
        exact selected_concat hm fun i hi m' hm' => (Selected.le h hi hm').trans_lt hlt
      · rw [if_neg hlt]
        refine Selected.concat h fun m' hm' => ?_
        obtain rfl := Option.some.inj (hm.symm.trans hm')
        exact not_lt.1 hlt

theorem keeps_exhaust (model : List Nat → Option (Consensus α)) (samples : List (List Nat)) :
    Keeps model samples (exhaust model samples none) := by
  suffices ∀ before best, Keeps model before best → Keeps model (before ++ samples) (exhaust model samples best) from
    this [] none (by simp [Keeps])
  induction samples with
  | nil => simp [exhaust]
  | cons idx samples ih =>
    intro before best h
    simpa [exhaust_cons] using ih _ _ (h.keep idx)

theorem exhaust_eq_some_iff : exhaust model samples none = some b ↔ Selected model samples b := by
  have hkeeps := keeps_exhaust model samples
  constructor
  · intro h
    rwa [h] at hkeeps
  · intro h
    cases hbest : exhaust model samples none with
    | none =>
      rw [hbest] at hkeeps
      obtain ⟨i, hi, hib⟩ := h.exists_mem
      exact absurd hib (by simp [hkeeps i hi])
    | some b' =>
      rw [hbest] at hkeeps
      rw [h.unique hkeeps]

/-! ## Inliers -/

variable [Scalar α] {m : Mat3 α} {threshold : α} {src dst : List (Point α)}

/-- How far from `q` a mapping takes `p`; none if it takes it to infinity. -/
def error? (m : Mat3 α) (p q : Point α) : Option α := (m.project p).map (distance · q)

/-- An error is at most a threshold, an infinite one at most an infinite threshold. -/
def Within (threshold : α) : Option α → Prop
  | some e => e ≤ threshold
  | none   => Scalar.ofInt 0 < threshold ∧ Scalar.isFinite threshold = false

theorem agrees_iff {p q : Point α} : agrees m threshold p q = true ↔ Within threshold (error? m p q) := by
  unfold agrees error?
  cases m.project p with
  | none   => simp [Within]
  | some r => exact decide_eq_true_iff

theorem mem_inliers {i : Nat} : i ∈ inliers m threshold src dst ↔
    ∃ p q, src[i]? = some p ∧ dst[i]? = some q ∧ Within threshold (error? m p q) := by
  have hmem : i ∈ inliers m threshold src dst ↔ (List.zipWith (agrees m threshold) src dst)[i]? = some true := by
    simp [inliers, List.mem_filterMap, List.mem_zipIdx_iff_getElem?]
  rw [hmem, List.getElem?_zipWith_eq_some]
  simp only [agrees_iff]

theorem pairwise_inliers : (inliers m threshold src dst).Pairwise (· < ·) := by
  refine (Match.pairwise_zipIdx _).filterMap _ fun a b hab u hu v hv => ?_
  obtain ⟨-, rfl⟩ : _ ∧ a.2 = u := by simpa using hu
  obtain ⟨-, rfl⟩ : _ ∧ b.2 = v := by simpa using hv
  exact hab

theorem length_inliers_le : (inliers m threshold src dst).length ≤ src.length := by
  refine (List.length_filterMap_le _ _).trans ?_
  rw [List.length_zipIdx, List.length_zipWith]
  exact min_le_left _ _

/-! ## Consensus -/

variable {fitting : List (Point α) → List (Point α) → Option (Mat3 α)}

theorem length_modelOf_le (idx : List Nat) (b : Consensus α) (h : modelOf fitting threshold src dst idx = some b) :
    b.inliers.length ≤ src.length := by
  obtain ⟨m, -, rfl⟩ := Option.map_eq_some_iff.1 h
  exact length_inliers_le

/-- **What a consensus is fitted to**: the inliers of another, whose mapping is taken if they have no fit. -/
theorem polish_eq_some {c : Consensus α} (h : polish fitting threshold src dst b = some c) : 4 ≤ b.inliers.length ∧
    c.mapping = (fitting (pickAll src b.inliers) (pickAll dst b.inliers)).getD b.mapping ∧
    c.inliers = inliers c.mapping threshold src dst ∧ 4 ≤ c.inliers.length := by
  unfold polish at h
  split at h
  · cases h
  · rename_i hb
    dsimp only at h
    split at h
    · rename_i hc
      cases h
      exact ⟨not_lt.1 hb, rfl, rfl, hc⟩
    · cases h

section
variable {σ : Type} {next : σ → List Nat × σ} {iterations : Nat} {s : σ} {c : Consensus α}

theorem searchFrom_eq_some_iff (k : Nat) :
    searchFrom (modelOf fitting threshold src dst) src.length next k s none = some b ↔
      Selected (modelOf fitting threshold src dst) (drawn next k s) b := by
  rw [searchFrom_eq_exhaust length_modelOf_le, exhaust_eq_some_iff]

theorem consensusWith_eq_some (h : consensusWith fitting next iterations threshold src dst s = some c) :
    4 ≤ src.length ∧ dst.length = src.length ∧
      ∃ b, Selected (modelOf fitting threshold src dst) (drawn next (max iterations 1) s) b ∧
        polish fitting threshold src dst b = some c := by
  unfold consensusWith at h
  split at h
  · cases h
  · rename_i hsizes
    obtain ⟨hlong, hsame⟩ := not_or.1 hsizes
    obtain ⟨b, hb, hpolish⟩ := Option.bind_eq_some_iff.1 h
    exact ⟨not_lt.1 hlong, not_not.1 hsame, b, (searchFrom_eq_some_iff _).1 hb, hpolish⟩

end

/-- **The mapping that most pairs agree with**, whatever the samples and the fit: it comes from the first sample with
the most inliers, also if the search stops early; its inliers are all pairs that it takes to within the threshold, four
at least. -/
theorem consensusWith_selected {σ : Type} (fitting : List (Point α) → List (Point α) → Option (Mat3 α))
    (next : σ → List Nat × σ) (iterations : Nat) (threshold : α) (src dst : List (Point α)) (s : σ) :
    let model := modelOf fitting threshold src dst
    let samples := drawn next (max iterations 1) s
    searchFrom model src.length next (max iterations 1) s none = exhaust model samples none ∧
    (∀ b, searchFrom model src.length next (max iterations 1) s none = some b ↔ Selected model samples b) ∧
    (∀ c, consensusWith fitting next iterations threshold src dst s = some c →
      (∃ b, Selected model samples b ∧ 4 ≤ b.inliers.length ∧
        c.mapping = (fitting (pickAll src b.inliers) (pickAll dst b.inliers)).getD b.mapping) ∧
      c.inliers.Pairwise (· < ·) ∧
      (∀ i, i ∈ c.inliers ↔
        ∃ p q, src[i]? = some p ∧ dst[i]? = some q ∧ Within threshold (error? c.mapping p q)) ∧
      4 ≤ c.inliers.length) ∧
    (src.length < 4 ∨ dst.length ≠ src.length ∨ (∀ i ∈ samples, ∀ b, model i = some b → b.inliers.length < 4) →
      consensusWith fitting next iterations threshold src dst s = none) := by
  intro model samples
  refine ⟨searchFrom_eq_exhaust length_modelOf_le next _ s none, fun b => searchFrom_eq_some_iff _, fun c hc => ?_,
    fun hnone => Option.eq_none_iff_forall_ne_some.2 fun c hc => ?_⟩
  · obtain ⟨-, -, b, hb, hpolish⟩ := consensusWith_eq_some hc
    obtain ⟨hfour, hmapping, hinliers, hfour'⟩ := polish_eq_some hpolish
    refine ⟨⟨b, hb, hfour, hmapping⟩, ?_, fun i => ?_, hfour'⟩
    · rw [hinliers]
      exact pairwise_inliers
    · rw [hinliers]
      exact mem_inliers
  · obtain ⟨hlong, hsame, b, hb, hpolish⟩ := consensusWith_eq_some hc
    obtain ⟨i, hi, hib⟩ := hb.exists_mem
    have hfour := (polish_eq_some hpolish).1
    rcases hnone with h | h | h
    · exact absurd hlong (not_le.2 h)
    · exact h hsame
    · exact absurd hfour (not_le.2 (h i hi b hib))

/-! The program's own search is one with samples from a seed and the fit by least squares. -/

example (iterations : Nat) (threshold : α) (seed : UInt64) (src dst : List (Point α)) :
    ransac iterations threshold seed src dst =
      consensusWith fit (Random.sample src.length 4) iterations threshold src dst (Random.ofSeed seed) := rfl

/-! A square that stays where it is, and a point that does not. -/

def fixed : Mat3 ℚ := ⟨1, 0, 0, 0, 1, 0, 0, 0, 1⟩
def start : List (Point ℚ) := [(0, 0), (1, 0), (0, 1), (1, 1), (5, 5)]
def goal : List (Point ℚ) := [(0, 0), (1, 0), (0, 1), (1, 1), (9, 9)]
def square (s : Unit) : List Nat × Unit := ([0, 1, 2, 3], s)

theorem consensusWith_selected_square :
    (∃ c, consensusWith (fun _ _ => some fixed) square 3 1 start goal () = some c ∧ c.inliers.Pairwise (· < ·) ∧
      4 ≤ c.inliers.length ∧ ¬ Within 1 (error? c.mapping (5, 5) (9, 9))) ∧
    start.tail.length ≠ goal.length ∧ consensusWith (fun _ _ => some fixed) square 3 1 goal start.tail () = none := by
  have hinliers : inliers fixed 1 start goal = [0, 1, 2, 3] := by decide +kernel
  have hlength : start.length = 5 := rfl
  have hlength' : goal.length = 5 := rfl
  have hc : consensusWith (fun _ _ => some fixed) square 3 1 start goal () = some ⟨fixed, [0, 1, 2, 3]⟩ := by
    simp [consensusWith, searchFrom, modelOf, polish, hinliers, hlength, hlength']
  obtain ⟨-, -, hsome, -⟩ := consensusWith_selected (fun _ _ => some fixed) square 3 1 start goal ()
  obtain ⟨-, hsorted, hmem, hfour⟩ := hsome _ hc
  obtain ⟨-, -, -, hnone⟩ := consensusWith_selected (fun _ _ => some fixed) square 3 1 goal start.tail ()
  have hne : start.tail.length ≠ goal.length := by decide
  refine ⟨⟨_, hc, hsorted, hfour, fun h => ?_⟩, hne, hnone (Or.inr (Or.inl hne))⟩
  have hin := (hmem 4).2 ⟨(5, 5), (9, 9), rfl, rfl, h⟩
  simp at hin

end Homography
end Pinpoint
