import Pinpoint.Proofs.Embedding.Cosine
import Pinpoint.Proofs.Store.Interleaving
import Pinpoint.Proofs.Store.Ranking
/-!
# OwnText — elements found by the text they are known by

However a store came about, the vector of an entry is the one of the text its element is known by, so that text has cosine
one with it; and no cosine is larger.  What that text finds first has score one: the element itself, or one stored before
it that the text fits as well (`found_by_own_text`).
-/
namespace Pinpoint
namespace Store

open Scalar (Is Exact ExactRoots isFinite)

variable {ν : Type} [Scalar ν]

/-- Where a place reaches the score that is wanted, it comes first or something ahead of it does. -/
theorem exists_first [Scalar.Ordered ν] {n : Nat} {worth : Fin n → ν} {minScore : ν} (hworth : ∀ i, worth i ≤ worth i)
    {k : Fin n} (hk : minScore ≤ worth k) :
    ∃ i rest, sortedPlaces worth minScore = i :: rest ∧ (i = k ∨ Ahead worth i k) := by
  have hmem : k ∈ sortedPlaces worth minScore := mem_sortedPlaces.2 hk
  have hpairs := sortedPlaces_pairwise hworth minScore
  cases hplaces : sortedPlaces worth minScore with
  | nil =>
    rw [hplaces] at hmem
    cases hmem
  | cons i rest =>
    rw [hplaces] at hmem hpairs
    refine ⟨i, rest, rfl, ?_⟩
    rcases List.mem_cons.1 hmem with rfl | hrest
    · exact Or.inl rfl
    · exact Or.inr ((List.pairwise_cons.1 hpairs).1 k hrest)

theorem find_eq (s : Store ν) {embed : Embedder ν} {text : String} {query : List ν} (htext : Text.isAllBlank text = false)
    (hquery : embed text = .ok query) (top : Nat) (minScore : ν) :
    s.find embed text top minScore = .ok (((sortedPlaces (s.score query) minScore).map (s.hit query)).take top) := by
  unfold find
  rw [htext, if_neg Bool.false_ne_true, hquery, ← ranked_eq]
  rfl

variable {dimension : Nat} {embed : Embedder ν}

theorem ofDimension_eq_ok (h : Embedder.ofDimension dimension = .ok embed) (text : String) :
    embed text = .ok (Embedding.embed dimension text) := by
  unfold Embedder.ofDimension at h
  split at h
  · cases h
  · rw [← Except.ok.inj h]

/-- **Every vector is the one of the text its element is known by.** -/
def Hashed (dimension : Nat) (s : Store ν) : Prop :=
  ∀ x ∈ s.entries, x.vector = Embedding.embed dimension (indexText x.element)

theorem Kept.hashed {log : List (Served ν)} {s : Store ν} (hk : Kept embed log s)
    (hd : Embedder.ofDimension dimension = .ok embed) : s.Hashed dimension := fun x hx =>
  Except.ok.inj ((hk.indexed x hx).symm.trans (ofDimension_eq_ok hd _))

namespace Hashed

variable {s : Store ν} (h : s.Hashed dimension)
include h

theorem vector_eq (j : Fin s.entries.length) :
    (s.entries.get j).vector = Embedding.embed dimension (indexText (s.entries.get j).element) := h _ (List.get_mem _ j)

variable [Exact ν] [ExactRoots ν]

theorem score_le_one (text : String) (j : Fin s.entries.length) :
    ∃ r, Is (s.score (Embedding.embed dimension text) j) r ∧ r ≤ 1 := by
  obtain ⟨r, hr, -, ⟨-, hle⟩, -⟩ := Embedding.exists_is_cosine (Embedding.embed_isVector (ν := ν) dimension text).finite
    (Embedding.embed_isVector dimension (indexText (s.entries.get j).element)).finite
  rw [← h.vector_eq j] at hr
  exact ⟨r, hr, hle⟩

/-- **What an element is known by fits it completely.** -/
theorem is_score_own {k : Fin s.entries.length}
    (hzero : ∃ x ∈ Embedding.embed dimension (indexText (s.entries.get k).element), Embedding.isZero (x : ν) = false) :
    Is (s.score (Embedding.embed dimension (indexText (s.entries.get k).element)) k) 1 := by
  change Is (Embedding.cosine _ (s.entries.get k).vector) 1
  rw [h.vector_eq k]
  exact Embedding.is_cosine_self (Embedding.embed_isVector dimension _).finite hzero

theorem score_le_self [Scalar.Ordered ν] (text : String) (j : Fin s.entries.length) :
    s.score (Embedding.embed dimension text) j ≤ s.score (Embedding.embed dimension text) j := by
  obtain ⟨r, hr, -⟩ := h.score_le_one text j
  exact Scalar.Ordered.finite hr.1

/-- **The first hit for what an element is known by** has score one: it is the element or stands before it. -/
theorem exists_first_hit [Scalar.Ordered ν] (hd : Embedder.ofDimension dimension = .ok embed) {k : Fin s.entries.length}
    (htext : Text.isAllBlank (indexText (s.entries.get k).element) = false)
    (hzero : ∃ x ∈ Embedding.embed dimension (indexText (s.entries.get k).element), Embedding.isZero (x : ν) = false)
    {top : Nat} {minScore : ν} (htop : 1 ≤ top) (hmin : minScore ≤ Scalar.ofInt 1) :
    ∃ i hits, s.find embed (indexText (s.entries.get k).element) top minScore =
        .ok (s.hit (Embedding.embed dimension (indexText (s.entries.get k).element)) i :: hits) ∧
      Is (s.score (Embedding.embed dimension (indexText (s.entries.get k).element)) i) 1 ∧ i ≤ k := by
  have hown := h.is_score_own hzero
  have hreach := Scalar.Ordered.trans hmin (((Is.one (α := ν)).le hown).2 le_rfl)
  obtain ⟨i, rest, hplaces, hfirst⟩ := exists_first (h.score_le_self _) hreach
  have hfind := find_eq s htext (ofDimension_eq_ok hd _) top minScore
  rw [hplaces, List.map_cons, List.take_cons htop] at hfind
  refine ⟨i, _, hfind, ?_⟩
  rcases hfirst with rfl | hahead
  · exact ⟨hown, le_rfl⟩
  · -- nothing is ahead by more than a tie
    obtain ⟨r, hr, hle⟩ := h.score_le_one _ i
    exact ⟨le_antisymm hle ((hown.le hr).1 hahead.1) ▸ hr, (hahead.2 ((hr.le hown).2 hle)).le⟩

end Hashed

/-- **Every text is found by itself.**  Cosines are symmetric, between minus one and one, and the same for a vector and a
positive multiple of it.  In a store that came about by calls in any order, what an element is known by, as long as its
vector is not zero, finds first a hit of score one, which is the element or stands before it; and nothing has a larger score. -/
theorem found_by_own_text [Exact ν] [ExactRoots ν] [Scalar.Ordered ν] :
    (∀ v w : List ν, (∀ x ∈ v, isFinite x = true) → (∀ x ∈ w, isFinite x = true) →
      ∃ r, Is (Embedding.cosine v w) r ∧ Is (Embedding.cosine w v) r ∧ (-1 ≤ r ∧ r ≤ 1) ∧
        ∀ (c : ν) (a : ℝ), Is c a → 0 < a →
          Is (Embedding.cosine (v.map (c * ·)) w) r ∧ Is (Embedding.cosine v (w.map (c * ·))) r) ∧
    ∀ (dimension : Nat) (embed : Embedder ν), Embedder.ofDimension dimension = .ok embed →
      ∀ (moves : List (Move ν)) (s : Store ν), (Desk.run embed moves).store = s →
      ∀ (k : Fin s.entries.length) (text : String), indexText (s.entries.get k).element = text →
      Text.isAllBlank text = false → (∃ x ∈ Embedding.embed dimension text, Embedding.isZero (x : ν) = false) →
      ∀ (top : Nat) (minScore : ν), 1 ≤ top → minScore ≤ Scalar.ofInt 1 →
      ∃ i hits, s.find embed text top minScore = .ok (s.hit (Embedding.embed dimension text) i :: hits) ∧
        Is (s.score (Embedding.embed dimension text) i) 1 ∧ Is (s.score (Embedding.embed dimension text) k) 1 ∧ i ≤ k ∧
        ∀ j, ∃ r, Is (s.score (Embedding.embed dimension text) j) r ∧ r ≤ 1 := by
  refine ⟨fun v w hv hw => Embedding.exists_is_cosine hv hw, ?_⟩
  rintro dimension embed hd moves s rfl k text rfl htext hzero top minScore htop hmin
  have hs := (Desk.run_kept embed moves).2.hashed hd
  obtain ⟨i, hits, hfind, hfirst, hle⟩ := hs.exists_first_hit hd htext hzero htop hmin
  exact ⟨i, hits, hfind, hfirst, hs.is_score_own hzero, hle, hs.score_le_one _⟩

/-! Two buttons, stored one after the other; the second is known by one word. -/

def buttons : List (Move Scalar.Precise) :=
  [.call (.insert { id := "1", name := "cancel", description := "" }), .call (.insert { id := "2", name := "save", description := "" }),
    .embed 0, .turn 0, .embed 0, .turn 0]

theorem found_by_own_text_button : ∃ (embed : Embedder Scalar.Precise) (s : Store Scalar.Precise),
    Embedder.ofDimension 512 = .ok embed ∧ (Desk.run embed buttons).store = s ∧
    (∃ hk : 1 < s.entries.length, indexText s.entries[1].element = "save   ") ∧
    Text.isAllBlank "save   " = false ∧
    (∃ x ∈ Embedding.embed 512 "save   ", Embedding.isZero (x : Scalar.Precise) = false) ∧
    ∃ i hits, s.find embed "save   " 1 (Scalar.ofInt 1) = .ok (s.hit (Embedding.embed 512 "save   ") i :: hits) ∧
      Is (s.score (Embedding.embed 512 "save   ") i) 1 := by
  have hd : Embedder.ofDimension (ν := Scalar.Precise) 512 = .ok fun text => .ok (Embedding.embed 512 text) := rfl
  have htext : Text.isAllBlank "save   " = false := by decide
  have hwords : Embedding.words "save   " = ["save"] := by decide +kernel
  have hzero : ∃ x ∈ Embedding.embed 512 "save   ", Embedding.isZero (x : Scalar.Precise) = false :=
    Embedding.exists_isZero_embed (by decide) hwords
  obtain ⟨i, hits, hfind, hone, -⟩ := found_by_own_text.2 512 _ hd buttons _ rfl ⟨1, Nat.le_refl 2⟩ "save   " rfl htext hzero 1
    (Scalar.ofInt 1) le_rfl (Is.one.le Is.one |>.2 le_rfl)
  exact ⟨_, _, hd, rfl, ⟨Nat.le_refl 2, rfl⟩, htext, hzero, i, hits, hfind, hone⟩

end Store
end Pinpoint
