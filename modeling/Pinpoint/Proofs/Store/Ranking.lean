import Pinpoint.Proofs.Scalar.Order
import Pinpoint.Store
/-!
# Ranking — which entries a text finds

Of the entries whose score reaches the least score wanted, a text finds the first `top` when they are put in the order
of their scores, those of one score in the order of the store (`Best`).  Sorting is stable: what ties keeps its order
(`filter_mergeSort`), so the sorted places are in this order pair by pair (`pairwise_mergeSort`), and whatever is cut off
stands behind everything that is kept (`best_take`).
-/
namespace Pinpoint
namespace Store

/-! ## Stable sorting -/

section Sorting

variable {n : Nat} {le : Fin n → Fin n → Bool} (htrans : ∀ i j k, le i j = true → le j k = true → le i k = true)
  (htotal : ∀ i j, (le i j || le j i) = true)
include htrans htotal

/-- **What ties keeps its order** when a list is sorted. -/
theorem filter_mergeSort (tie : Fin n → Bool) (htie : ∀ i j, tie i = true → tie j = true → le i j = true)
    (l : List (Fin n)) : (l.mergeSort le).filter tie = l.filter tie := by
  have hsorted : (l.filter tie).Pairwise fun i j => le i j = true :=
    List.pairwise_of_forall_mem_list fun i hi j hj => htie i j (List.mem_filter.1 hi).2 (List.mem_filter.1 hj).2
  have hsub := (List.sublist_mergeSort htrans htotal hsorted List.filter_sublist).filter tie
  simp only [List.filter_filter, Bool.and_self] at hsub
  exact (hsub.eq_of_length ((List.mergeSort_perm l le).filter tie).length_eq.symm).symm

/-- **A sorted list of places** is in the order of `le`, and in that of the places where `le` ties. -/
theorem pairwise_mergeSort {l : List (Fin n)} (hl : l.Pairwise (· < ·)) :
    (l.mergeSort le).Pairwise fun i j => le i j = true ∧ (le j i = true → i < j) := by
  rw [List.pairwise_iff_forall_sublist]
  intro i j hij
  have hle : le i j = true :=
    List.pairwise_iff_forall_sublist.1 (List.pairwise_mergeSort htrans htotal l) hij
  refine ⟨hle, fun hji => ?_⟩
  -- the places that tie with `i` stand in the sorted list as they stood before
  have hrefl : le i i = true := htrans i j i hle hji
  have hfilter := filter_mergeSort htrans htotal (fun k => le i k && le k i) (fun a b ha hb =>
    htrans a i b (Bool.and_eq_true_iff.1 ha).2 (Bool.and_eq_true_iff.1 hb).1) l
  have hsub := hij.filter fun k => le i k && le k i
  rw [hfilter] at hsub
  simp only [List.filter_cons, hrefl, hle, hji, Bool.and_self, if_true, List.filter_nil] at hsub
  exact List.pairwise_iff_forall_sublist.1 (hl.filter _) hsub

end Sorting

/-! ## The best places -/

variable {ν : Type} [Scalar ν] {n : Nat} {worth : Fin n → ν} {minScore : ν} {top : Nat}

/-- **One place is ahead of another**: it has the higher score, or comes first where neither has. -/
def Ahead (worth : Fin n → ν) (i j : Fin n) : Prop := worth j ≤ worth i ∧ (worth i ≤ worth j → i < j)

/-- **The best places**: at most `top` of those that reach a score, best first. -/
structure Best (worth : Fin n → ν) (minScore : ν) (top : Nat) (places : List (Fin n)) : Prop where
  length   : places.length = min top ((List.finRange n).countP fun i => decide (minScore ≤ worth i))
  nodup    : places.Nodup
  reaching : ∀ i ∈ places, minScore ≤ worth i
  ordered  : places.Pairwise (Ahead worth)
  /-- What reaches the score and is left out is behind all the others. -/
  left     : ∀ i ∈ places, ∀ j ∉ places, minScore ≤ worth j → Ahead worth i j

/-- The places that reach a score, best first. -/
def sortedPlaces (worth : Fin n → ν) (minScore : ν) : List (Fin n) :=
  ((List.finRange n).filter fun i => decide (minScore ≤ worth i)).mergeSort fun i j => decide (worth j ≤ worth i)

theorem mem_sortedPlaces {i : Fin n} : i ∈ sortedPlaces worth minScore ↔ minScore ≤ worth i := by
  rw [sortedPlaces, List.mem_mergeSort, List.mem_filter, decide_eq_true_eq]
  exact and_iff_right (List.mem_finRange i)

section Ordered

variable [Scalar.Ordered ν] (hworth : ∀ i, worth i ≤ worth i)
include hworth

theorem sortedPlaces_pairwise (minScore : ν) : (sortedPlaces worth minScore).Pairwise (Ahead worth) := by
  have hplaces : ((List.finRange n).filter fun i => decide (minScore ≤ worth i)).Pairwise (· < ·) :=
    (List.pairwise_lt_finRange n).filter _
  refine (pairwise_mergeSort (fun i j k hij hjk => ?_) (fun i j => ?_) hplaces).imp fun {i j} h => ?_
  · simp only [decide_eq_true_eq] at hij hjk ⊢
    exact Scalar.Ordered.trans hjk hij
  · simp only [Bool.or_eq_true, decide_eq_true_eq]
    exact Scalar.Ordered.total (hworth j) (hworth i)
  · simpa only [Ahead, decide_eq_true_eq] using h

/-- **The first of the sorted places are the best.** -/
theorem best_take (minScore : ν) (top : Nat) : Best worth minScore top ((sortedPlaces worth minScore).take top) := by
  have hpairs := sortedPlaces_pairwise hworth minScore
  have hsub : ((sortedPlaces worth minScore).take top).Sublist (sortedPlaces worth minScore) := List.take_sublist _ _
  constructor
  · rw [List.length_take, sortedPlaces, List.length_mergeSort, List.countP_eq_length_filter]
  · exact ((List.mergeSort_perm _ _).nodup_iff.2 ((List.nodup_finRange n).filter _)).sublist hsub
  · exact fun i hi => mem_sortedPlaces.1 (hsub.subset hi)
  · exact hpairs.sublist hsub
  · intro i hi j hj hreach
    have hsplit := List.take_append_drop top (sortedPlaces worth minScore)
    have hmem : j ∈ (sortedPlaces worth minScore).drop top := by
      have hsorted : j ∈ sortedPlaces worth minScore := mem_sortedPlaces.2 hreach
      rw [← hsplit] at hsorted
      exact (List.mem_append.1 hsorted).resolve_left hj
    rw [← hsplit] at hpairs
    exact (List.pairwise_append.1 hpairs).2.2 i hi j hmem

end Ordered

/-! ## Hits -/

variable {s : Store ν} {query : List ν}

/-- How alike the entry at a place is to a query. -/
def score (s : Store ν) (query : List ν) (i : Fin s.entries.length) : ν := Embedding.cosine query s.entries[i].vector

/-- The entry at a place as a hit. -/
def hit (s : Store ν) (query : List ν) (i : Fin s.entries.length) : Element × ν := (s.entries[i].element, s.score query i)

theorem ranked_eq (s : Store ν) (query : List ν) (minScore : ν) :
    ranked s.entries query minScore = (sortedPlaces (s.score query) minScore).map (s.hit query) := by
  have hentries : s.entries.map (fun e => (e.element, Embedding.cosine query e.vector)) =
      (List.finRange s.entries.length).map (s.hit query) := by
    conv_lhs => rw [← List.map_getElem_finRange s.entries, List.map_map]
    rfl
  have hsort : ∀ l : List (Fin s.entries.length),
      (l.mergeSort fun i j => decide (s.score query j ≤ s.score query i)).map (s.hit query) =
        (l.map (s.hit query)).mergeSort fun a b => decide (b.2 ≤ a.2) :=
    fun l => List.map_mergeSort fun _ _ _ _ => rfl
  rw [ranked, hentries, List.filter_map, sortedPlaces, hsort]
  rfl

/-- **What a text finds.**  A blank text is refused and a text without a vector fails as its embedding does; any other
finds the best entries, each with its score, as long as all scores are numbers. -/
theorem find_best [Scalar.Ordered ν] (embed : Embedder ν) (s : Store ν) (text : String) (top : Nat) (minScore : ν) :
    (Text.isAllBlank text = true → s.find embed text top minScore = .error (.invalidInput "empty retrieval query")) ∧
      (Text.isAllBlank text = false →
        (∀ f, embed text = .error f → s.find embed text top minScore = .error f) ∧
        ∀ query, embed text = .ok query → (∀ i, s.score query i ≤ s.score query i) →
          ∃ places, Best (s.score query) minScore top places ∧
            s.find embed text top minScore = .ok (places.map (s.hit query))) := by
  unfold find
  refine ⟨fun hblank => if_pos hblank, fun htext => ?_⟩
  rw [htext, if_neg Bool.false_ne_true]
  refine ⟨fun f hf => by rw [hf]; rfl, fun query hquery hscore => ⟨_, best_take hscore minScore top, ?_⟩⟩
  rw [hquery, List.map_take, ← ranked_eq]
  rfl

/-! Four elements, two of which are as far from the query as each other. -/

def stored (id : String) (vector : List ℚ) : Entry ℚ := ⟨{ id, name := id, description := id }, vector⟩

def shelf : Store ℚ := ⟨[stored "near" [3, 4], stored "same" [1, 0], stored "as near" [3, 4], stored "far" [0, 1]]⟩

theorem ranked_shelf : ranked shelf.entries [1, 0] (1 / 2) =
    [((stored "same" [1, 0]).element, 1), ((stored "near" [3, 4]).element, 3 / 5),
      ((stored "as near" [3, 4]).element, 3 / 5)] := by
  obtain ⟨hnear, hsame, hagain, hfar⟩ : Embedding.cosine [1, 0] (stored "near" [3, 4]).vector = 3 / 5 ∧
      Embedding.cosine [1, 0] (stored "same" [1, 0]).vector = 1 ∧
      Embedding.cosine [1, 0] (stored "as near" [3, 4]).vector = 3 / 5 ∧
      Embedding.cosine [1, 0] (stored "far" [0, 1]).vector = 0 := by decide +kernel
  simp only [ranked, shelf, List.map_cons, List.map_nil, hnear, hsame, hagain, hfar]
  norm_num [List.mergeSort, List.MergeSort.Internal.splitInTwo, List.merge, List.filter]

/-- The best one comes first, and of the two that tie the one stored first; the third that would do is cut off. -/
theorem find_best_shelf : Text.isAllBlank " " = true ∧
    shelf.find (fun _ => .ok [1, 0]) " " 2 (1 / 2) = .error (.invalidInput "empty retrieval query") ∧
    Text.isAllBlank "save" = false ∧ (∀ i, shelf.score [1, 0] i ≤ shelf.score [1, 0] i) ∧
    (∃ places, Best (shelf.score [1, 0]) (1 / 2) 2 places ∧
      shelf.find (fun _ => .ok [1, 0]) "save" 2 (1 / 2) = .ok (places.map (shelf.hit [1, 0]))) ∧
    (shelf.find (fun _ => .ok [1, 0]) "save" 2 (1 / 2)).toOption.map (fun l => l.map fun h => (h.1.id, h.2)) =
      some [("same", 1), ("near", 3 / 5)] := by
  have hblank : Text.isAllBlank " " = true := by decide
  have htext : Text.isAllBlank "save" = false := by decide
  have hscore : ∀ i, shelf.score [1, 0] i ≤ shelf.score [1, 0] i := fun _ => Rat.le_refl
  have hfound : (shelf.find (fun _ => .ok [1, 0]) "save" 2 (1 / 2)).toOption.map (fun l => l.map fun h => (h.1.id, h.2)) =
      some [("same", 1), ("near", 3 / 5)] := by
    show ((some (List.take 2 _)).map _) = _
    rw [ranked_shelf]
    rfl
  exact ⟨hblank, (find_best (fun _ => .ok [1, 0]) shelf " " 2 (1 / 2)).1 hblank, htext, hscore,
    ((find_best (fun _ => .ok [1, 0]) shelf "save" 2 (1 / 2)).2 htext).2 _ rfl hscore, hfound⟩

end Store
end Pinpoint
