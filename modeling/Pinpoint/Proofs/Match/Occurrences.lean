import Pinpoint.Proofs.Box.Least
import Pinpoint.Proofs.Match.Reads
import Pinpoint.Proofs.Match.Scores
/-!
# Occurrences — what a search by template reports

Proposed places carry their own scores and reach the threshold (`places_score`); those that are accepted are few and far
from each other (`length_accept`, `accept_apart`), and where all that is proposed is few and far already, all of it is
accepted (`accept_perm`).  Their windows are merged into boxes that share no pixel, so a box overlaps a window only by
holding it, and the score of a box is the best of the windows in it (`signalOf_best`).  `findTemplate_occurrences` says all
of this of a whole search.
-/
namespace Pinpoint
namespace Match

open Scalar (Ordered isFinite)

variable {ν ω : Type}

/-! ## Places that are accepted -/

/-- Neither place is within `w` and `h` of the other. -/
def Peak.Far (w h : Nat) (p q : Peak ν) : Prop := Peak.near w h p.x p.y q.x q.y = false

theorem Peak.Far.symm {w h : Nat} {p q : Peak ν} (hf : p.Far w h q) : q.Far w h p := by
  unfold Far at hf ⊢
  rwa [near_comm]

theorem Peak.far_iff {width height : Nat} {p q : Peak ν} : p.Far (width / 2) (height / 2) q ↔
    width < 2 * ((p.x : Int) - q.x).natAbs ∨ height < 2 * ((p.y : Int) - q.y).natAbs := by
  rw [Far, ← Bool.not_eq_true, near_iff]
  omega

/-- One more place, unless there are enough or it is near one of them. -/
def keep (w h limit : Nat) (kept : List (Peak ν)) (p : Peak ν) : List (Peak ν) :=
  if kept.length < limit && !(kept.any fun k => Peak.near w h k.x k.y p.x p.y) then kept ++ [p] else kept

theorem keep_cases (w h limit : Nat) (kept : List (Peak ν)) (p : Peak ν) :
    (keep w h limit kept p = kept ++ [p] ∧ kept.length < limit ∧ ∀ k ∈ kept, k.Far w h p) ∨
      (keep w h limit kept p = kept ∧ ¬ (kept.length < limit ∧ ∀ k ∈ kept, k.Far w h p)) := by
  have hiff : (kept.length < limit && !(kept.any fun k => Peak.near w h k.x k.y p.x p.y)) = true ↔
      kept.length < limit ∧ ∀ k ∈ kept, k.Far w h p := by
    simp [Peak.Far]
  unfold keep
  split
  · rename_i hc
    exact Or.inl ⟨rfl, hiff.1 hc⟩
  · rename_i hc
    exact Or.inr ⟨rfl, hiff.not.1 hc⟩

variable [Scalar ν]

theorem accept_eq (w h limit : Nat) (l : List (Peak ν)) :
    accept w h limit l = (l.mergeSort fun a b => decide (b.score ≤ a.score)).foldl (keep w h limit) [] := rfl

theorem length_accept (w h limit : Nat) (l : List (Peak ν)) : (accept w h limit l).length ≤ limit := by
  rw [accept_eq]
  refine List.foldlRecOn (motive := fun kept : List (Peak ν) => kept.length ≤ limit) _ _ (Nat.zero_le _)
    fun kept hkept p _ => ?_
  rcases keep_cases w h limit kept p with ⟨heq, hlt, -⟩ | ⟨heq, -⟩
  · rw [heq, List.length_append]
    exact hlt
  · rwa [heq]

theorem accept_apart (w h limit : Nat) (l : List (Peak ν)) : (accept w h limit l).Pairwise (Peak.Far w h) := by
  rw [accept_eq]
  refine List.foldlRecOn (motive := List.Pairwise (Peak.Far w h)) _ _ .nil fun kept hkept p _ => ?_
  rcases keep_cases w h limit kept p with ⟨heq, -, hfar⟩ | ⟨heq, -⟩
  · rw [heq]
    exact List.pairwise_append.2 ⟨hkept, List.pairwise_singleton _ _, fun k hk q hq =>
      List.mem_singleton.1 hq ▸ hfar k hk⟩
  · rwa [heq]

/-- **Places that are few enough and far from each other are all accepted.** -/
theorem accept_perm {w h limit : Nat} {l : List (Peak ν)} (hfar : l.Pairwise (Peak.Far w h)) (hfew : l.length ≤ limit) :
    (accept w h limit l).Perm l := by
  have hsorted : (l.mergeSort fun a b => decide (b.score ≤ a.score)).Perm l := List.mergeSort_perm ..
  have hall : ∀ rest kept : List (Peak ν), (kept ++ rest).Pairwise (Peak.Far w h) → (kept ++ rest).length ≤ limit →
      rest.foldl (keep w h limit) kept = kept ++ rest := by
    intro rest
    induction rest with
    | nil => simp
    | cons p rest ih =>
      intro kept hkept hlength
      have hkeep : keep w h limit kept p = kept ++ [p] := by
        rcases keep_cases w h limit kept p with ⟨heq, -⟩ | ⟨-, hnot⟩
        · exact heq
        · refine absurd ⟨?_, fun k hk => ?_⟩ hnot
          · rw [List.length_append, List.length_cons] at hlength
            omega
          · exact (List.pairwise_append.1 hkept).2.2 k hk p List.mem_cons_self
      rw [List.append_cons] at hkept hlength ⊢
      rw [List.foldl_cons, hkeep]
      exact ih _ hkept hlength
  rw [accept_eq, hall _ [] _ (by rw [List.nil_append, hsorted.length_eq]; exact hfew), List.nil_append]
  · exact hsorted
  · exact (hsorted.pairwise_iff Peak.Far.symm).2 hfar

/-! ## Places that are proposed -/

variable [Scalar ω] [Widening ν ω]

theorem getElem?_scoreMap (s : Search ν ω) (j : Nat) : s.scoreMap.cells[j]? =
    if j < s.across * s.down then some (some (s.scoreAt (j % s.across) (j / s.across))) else none := by
  unfold Search.scoreMap
  rw [Array.getElem?_map]
  split
  · rename_i hj
    simp [hj]
  · rename_i hj
    simp [hj]

/-- The cell of a place. -/
theorem cell_scoreMap (s : Search ν ω) {x y : Nat} (hx : x < s.across) (hy : y < s.down) :
    ∃ j, j % s.across = x ∧ j / s.across = y ∧ s.scoreMap.cells[j]? = some (some (s.scoreAt x y)) := by
  have hcolumn : (s.across * y + x) % s.across = x := by rw [Nat.mul_add_mod, Nat.mod_eq_of_lt hx]
  have hrow : (s.across * y + x) / s.across = y := by
    rw [Nat.mul_add_div (Nat.zero_lt_of_lt hx), Nat.div_eq_of_lt hx, Nat.add_zero]
  have hplace : s.across * y + x < s.across * s.down := by
    have hle : s.across * (y + 1) ≤ s.across * s.down := Nat.mul_le_mul_left _ hy
    rw [Nat.mul_add, Nat.mul_one] at hle
    omega
  exact ⟨_, hcolumn, hrow, by rw [getElem?_scoreMap, if_pos hplace, hcolumn, hrow]⟩

/-- Every cell is the cell of a place. -/
theorem exists_place_of_cell {s : Search ν ω} {j : Nat} {v : ν} (hj : s.scoreMap.cells[j]? = some (some v)) :
    j % s.across < s.across ∧ j / s.across < s.down ∧ v = s.scoreAt (j % s.across) (j / s.across) := by
  rw [getElem?_scoreMap] at hj
  split at hj
  · rename_i hlt
    obtain ⟨hx, hy⟩ := Peak.mod_div_lt hlt
    exact ⟨hx, hy, (Option.some.inj (Option.some.inj hj)).symm⟩
  · cases hj

theorem numbers_scoreMap {s : Search ν ω} (hs : s.Numbers) : Peak.Map.Numbers s.scoreMap.cells.toList := by
  refine Peak.Map.numbers_iff.2 fun j v hj => ?_
  obtain ⟨hx, hy, rfl⟩ := exists_place_of_cell hj
  exact hs _ _ hx hy

section
variable [Ordered ν] {c : TemplateSettings ν ω} {scene reference : Picture} {full : Search ν ω}

/-- **A proposed place has its own score**, and that reaches the threshold. -/
theorem places_score (ht : isFinite c.threshold = true) (hs : full.Numbers) :
    ∀ p ∈ places c scene reference full, p.score = full.scoreAt p.x p.y ∧ c.threshold ≤ p.score := by
  intro p hp
  unfold places at hp
  dsimp only at hp
  split at hp
  · obtain ⟨q, -, hq⟩ := List.mem_filterMap.1 hp
    obtain ⟨hp, hreach⟩ := Option.mem_filter_iff.1 hq
    exact ⟨full.refine_score _ _ _ p hp, of_decide_eq_true hreach⟩
  · obtain ⟨j, hx, hy, hj, hreach⟩ := Peak.exists_cell_of_mem_pick ht hp
    obtain ⟨hx', hy', hscore⟩ := exists_place_of_cell hj
    have hnumber : p.score ≤ p.score := by
      rw [hscore]
      exact hs _ _ hx' hy'
    rw [Ordered.not_lt_iff hnumber (Ordered.finite ht)] at hreach
    exact ⟨by rw [hscore, hx, hy]; rfl, hreach⟩

/-- **Without a coarse pass nothing is missed**: what reaches the threshold is near an accepted place, unless as many are
accepted as may be. -/
theorem accept_complete (ht : isFinite c.threshold = true) (hs : full.Numbers)
    (hcoarse : (coarse? scene reference (coarseFactor c reference.width reference.height : ω) :
      Option (Search ν ω)) = none)
    {x y : Nat} (hx : x < full.across) (hy : y < full.down) (hreach : c.threshold ≤ full.scoreAt x y) :
    (accept (reference.w / 2) (reference.h / 2) c.maxMatches (places c scene reference full)).length = c.maxMatches ∨
      ∃ p ∈ accept (reference.w / 2) (reference.h / 2) c.maxMatches (places c scene reference full),
        Peak.near (reference.w / 2) (reference.h / 2) x y p.x p.y = true := by
  have hpick : places c scene reference full =
      Peak.pick (reference.w / 2) (reference.h / 2) c.threshold c.maxMatches full.scoreMap := by
    unfold places
    dsimp only
    rw [hcoarse]
  have hlength : (places c scene reference full).length ≤ c.maxMatches := hpick ▸ Peak.length_pick ht
  have hperm := accept_perm (w := reference.w / 2) (h := reference.h / 2) (hpick ▸ Peak.pick_apart ht) hlength
  rw [hperm.length_eq]
  rcases Nat.lt_or_ge (places c scene reference full).length c.maxMatches with hlt | hge
  · obtain ⟨j, hcolumn, hrow, hj⟩ := cell_scoreMap full hx hy
    rw [hpick] at hlt
    obtain ⟨p, hp, hnear⟩ := Peak.pick_complete ht (numbers_scoreMap hs) hlt hj hreach
    have hwidth : full.scoreMap.width = full.across := rfl
    rw [hwidth, hcolumn, hrow] at hnear
    exact Or.inr ⟨p, hperm.mem_iff.2 (hpick ▸ hp), hnear⟩
  · exact Or.inl (Nat.le_antisymm hlength hge)

end

/-! ## Places as boxes -/

/-- The window of the size of the reference at a place. -/
def window (width height : UInt32) (p : Peak ν) : Box := ⟨Int32.ofInt p.x, Int32.ofInt p.y, width, height⟩

/-- **The score of a box** is the best of the accepted places whose windows are in it. -/
structure Best (width height : UInt32) (l : List (Peak ν)) (b : Box) (v : ν) : Prop where
  attained : ∃ p ∈ l, (window width height p).Inside b ∧ p.score = v
  most     : ∀ p ∈ l, (window width height p).Inside b → p.score ≤ v

theorem signalOf_boxes (width height : UInt32) (l : List (Peak ν)) :
    (signalOf width height l).boxes = Box.mergeOverlapping (l.map (window width height)) := by
  unfold signalOf
  dsimp only
  rw [List.map_map]
  rfl

theorem signalOf_scores (width height : UInt32) (l : List (Peak ν)) :
    (signalOf width height l).scores = (signalOf width height l).boxes.map fun b =>
      bestScore ((l.filter fun p => b.overlaps (window width height p)).map (·.score)) := by
  simp [signalOf, window, List.filter_map, Function.comp_def]

theorem bestScore_spec [Ordered ν] {l : List ν} (hne : l ≠ []) (hl : ∀ v ∈ l, v ≤ v) :
    bestScore l ∈ l ∧ ∀ v ∈ l, v ≤ bestScore l := by
  cases l with
  | nil => exact absurd rfl hne
  | cons a l =>
    obtain ⟨ha, hl⟩ := List.forall_mem_cons.1 hl
    exact Ordered.foldl_max_spec l hl ha

/-- **Every box has the best score of the windows in it.** -/
theorem signalOf_best [Ordered ν] {width height : UInt32} {l : List (Peak ν)}
    (hfits : Box.FitsOne (l.map (window width height)))
    (hne : ∀ p ∈ l, (window width height p).isEmpty = false) (hl : ∀ p ∈ l, p.score ≤ p.score) :
    List.Forall₂ (Best width height l) (signalOf width height l).boxes (signalOf width height l).scores := by
  rw [signalOf_scores, List.forall₂_map_right_iff, List.forall₂_same, signalOf_boxes]
  intro b hb
  have hiff : ∀ p ∈ l, b.overlaps (window width height p) = true ↔ (window width height p).Inside b := fun p hp =>
    Box.overlaps_merged_iff hfits hb (List.mem_map_of_mem hp) (hne p hp)
  obtain ⟨v, hv, hvb⟩ := Box.exists_inside_merged hfits hb
  obtain ⟨q, hq, rfl⟩ := List.mem_map.1 hv
  have hq' : q ∈ l.filter fun p => b.overlaps (window width height p) := List.mem_filter.2 ⟨hq, (hiff q hq).2 hvb⟩
  obtain ⟨hmem, hmost⟩ := bestScore_spec (List.ne_nil_of_mem (List.mem_map_of_mem (f := (·.score)) hq')) (by
    intro v hv
    obtain ⟨p, hp, rfl⟩ := List.mem_map.1 hv
    exact hl p (List.mem_filter.1 hp).1)
  obtain ⟨p, hp, hscore⟩ := List.mem_map.1 hmem
  obtain ⟨hpl, hpb⟩ := List.mem_filter.1 hp
  exact ⟨⟨p, hpl, (hiff p hpl).1 hpb, hscore⟩, fun r hr hrb =>
    hmost _ (List.mem_map_of_mem (List.mem_filter.2 ⟨hr, (hiff r hr).2 hrb⟩))⟩

theorem fitsOne_of_within {w h : UInt32} {l : List Box} (hl : ∀ b ∈ l, b.Within w h) : Box.FitsOne l := by
  intro a ha b hb
  obtain ⟨hax, -, hay, -⟩ := hl a ha
  obtain ⟨-, hbx, -, hby⟩ := hl b hb
  have := w.toNat_lt
  have := h.toNat_lt
  omega

/-! ## The whole search -/

/-- **The places that a search accepts**, best first. -/
def accepted (c : TemplateSettings ν ω) (scene reference : Picture) : List (Peak ν) :=
  if reference.isEmpty || c.maxMatches == 0 then []
  else match (Search.make? scene.toLuma reference.toLuma : Option (Search ν ω)) with
    | none      => []
    | some full =>
      accept (reference.w / 2) (reference.h / 2) c.maxMatches (places c scene.toLuma reference.toLuma full)

theorem signalOf_nil (width height : UInt32) : signalOf width height ([] : List (Peak ν)) = ⟨[], []⟩ := by
  have hboxes : (signalOf width height ([] : List (Peak ν))).boxes = [] := by
    rw [signalOf_boxes, ← List.length_eq_zero_iff]
    exact Nat.le_zero.1 (Box.length_mergeOverlapping_le _)
  have hscores : (signalOf width height ([] : List (Peak ν))).scores = [] := by
    rw [signalOf_scores, hboxes, List.map_nil]
  cases hsignal : signalOf width height ([] : List (Peak ν)) with
  | mk boxes scores =>
    rw [hsignal] at hboxes hscores
    rw [show boxes = [] from hboxes, show scores = [] from hscores]

theorem findTemplate_eq (c : TemplateSettings ν ω) (scene reference : Picture) :
    findTemplate c scene reference = signalOf reference.width reference.height (accepted c scene reference) := by
  unfold findTemplate accepted
  dsimp only
  rw [reference.isEmpty_toLuma]
  split
  · exact (signalOf_nil ..).symm
  · cases (Search.make? scene.toLuma reference.toLuma : Option (Search ν ω)) with
    | none => exact (signalOf_nil ..).symm
    | some full =>
      dsimp only
      rw [reference.width_toLuma, reference.height_toLuma, reference.w_toLuma, reference.h_toLuma]

/-- An accepted place is one of a search. -/
theorem exists_search_of_mem_accepted {c : TemplateSettings ν ω} {scene reference : Picture} {p : Peak ν}
    (hp : p ∈ accepted c scene reference) :
    ∃ full : Search ν ω, Search.make? scene.toLuma reference.toLuma = some full ∧
      p ∈ places c scene.toLuma reference.toLuma full := by
  unfold accepted at hp
  split at hp
  · cases hp
  · split at hp
    · cases hp
    · rename_i full hfull
      exact ⟨full, hfull, mem_of_mem_accept _ _ _ _ p hp⟩

theorem accepted_bounded (c : TemplateSettings ν ω) (scene reference : Picture) :
    (accepted c scene reference).length ≤ c.maxMatches ∧
      (accepted c scene reference).Pairwise (Peak.Far (reference.w / 2) (reference.h / 2)) := by
  unfold accepted
  split
  · exact ⟨Nat.zero_le _, .nil⟩
  · split
    · exact ⟨Nat.zero_le _, .nil⟩
    · exact ⟨length_accept .., accept_apart ..⟩

/-- **What a search accepts and what it reports.**  Distances are compared with half a side by doubling them. -/
structure Occurrences (c : TemplateSettings ν ω) (scene reference : Picture) (l : List (Peak ν))
    (t : TemplateSignal ν) : Prop where
  few      : l.length ≤ c.maxMatches
  scored   : ∀ p ∈ l, p.x + reference.w ≤ scene.w ∧ p.y + reference.h ≤ scene.h ∧ c.threshold ≤ p.score ∧
    ∃ full : Search ν ω, Search.make? scene.toLuma reference.toLuma = some full ∧ p.score = full.scoreAt p.x p.y
  spaced   : l.Pairwise fun p q =>
    reference.w < 2 * ((p.x : Int) - q.x).natAbs ∨ reference.h < 2 * ((p.y : Int) - q.y).natAbs
  aligned  : t.boxes.length = t.scores.length ∧ t.boxes.length ≤ c.maxMatches
  parts    : ∀ b ∈ t.boxes, Box.IsPart scene.width scene.height b
  disjoint : t.boxes.Pairwise fun a b => ∀ p, ¬ (p ∈ a ∧ p ∈ b)
  reached  : ∀ v ∈ t.scores, c.threshold ≤ v
  best     : List.Forall₂ (Best reference.width reference.height l) t.boxes t.scores
  complete : ¬ (coarseFactor c reference.width reference.height : ω) < Scalar.ofInt 1 → l.length = c.maxMatches ∨
    ∀ full : Search ν ω, Search.make? scene.toLuma reference.toLuma = some full →
      ∀ x y : Nat, x + reference.w ≤ scene.w → y + reference.h ≤ scene.h → c.threshold ≤ full.scoreAt x y →
        ∃ p ∈ l, 2 * ((x : Int) - p.x).natAbs ≤ reference.w ∧ 2 * ((y : Int) - p.y).natAbs ≤ reference.h

section
variable [Ordered ν] [Scoring ν ω] {c : TemplateSettings ν ω} {scene reference : Picture}

theorem accepted_scored (c : TemplateSettings ν ω) (scene : Picture) (hne : reference.isEmpty = false)
    (ht : isFinite c.threshold = true) :
    ∀ p ∈ accepted c scene reference, p.x + reference.w ≤ scene.w ∧ p.y + reference.h ≤ scene.h ∧
      c.threshold ≤ p.score ∧ p.score ≤ p.score ∧ ∃ full : Search ν ω,
        Search.make? scene.toLuma reference.toLuma = some full ∧ p.score = full.scoreAt p.x p.y := by
  intro p hp
  obtain ⟨full, hfull, hplace⟩ := exists_search_of_mem_accepted hp
  have hnumbers : full.Numbers := Scoring.numbers hfull (reference.isEmpty_toLuma ▸ hne)
  have hhas := places_has c _ _ full p hplace
  obtain ⟨hscore, hreach⟩ := places_score ht hnumbers p hplace
  have hinside := (Search.has_iff hfull).1 hhas
  rw [scene.w_toLuma, scene.h_toLuma, reference.w_toLuma, reference.h_toLuma] at hinside
  exact ⟨hinside.1, hinside.2, hreach, hscore ▸ hnumbers _ _ hhas.1 hhas.2, full, hfull, hscore⟩

theorem accepted_complete (hne : reference.isEmpty = false) (ht : isFinite c.threshold = true)
    (hfactor : ¬ (coarseFactor c reference.width reference.height : ω) < Scalar.ofInt 1) :
    (accepted c scene reference).length = c.maxMatches ∨
      ∀ full : Search ν ω, Search.make? scene.toLuma reference.toLuma = some full →
        ∀ x y : Nat, x + reference.w ≤ scene.w → y + reference.h ≤ scene.h → c.threshold ≤ full.scoreAt x y →
          ∃ p ∈ accepted c scene reference, Peak.near (reference.w / 2) (reference.h / 2) x y p.x p.y = true := by
  cases hmake : (Search.make? scene.toLuma reference.toLuma : Option (Search ν ω)) with
  | none => exact Or.inr fun full hfull => by cases hfull
  | some full =>
    have hnumbers : full.Numbers := Scoring.numbers hmake (reference.isEmpty_toLuma ▸ hne)
    have hcoarse : (coarse? scene.toLuma reference.toLuma
        (coarseFactor c reference.toLuma.width reference.toLuma.height : ω) : Option (Search ν ω)) = none := by
      rw [reference.width_toLuma, reference.height_toLuma]
      exact if_neg hfactor
    by_cases hmany : (accepted c scene reference).length = c.maxMatches
    · exact Or.inl hmany
    · refine Or.inr fun full' hfull' x y hx hy hreach => ?_
      obtain rfl := Option.some.inj hfull'
      have hhas : x < full.across ∧ y < full.down := (Search.has_iff hmake (p := ⟨full.scoreAt x y, x, y⟩)).2 (by
        rw [scene.w_toLuma, scene.h_toLuma, reference.w_toLuma, reference.h_toLuma]
        exact ⟨hx, hy⟩)
      have haccepted : accepted c scene reference = accept (reference.toLuma.w / 2) (reference.toLuma.h / 2)
          c.maxMatches (places c scene.toLuma reference.toLuma full) := by
        have hsome : (reference.isEmpty || c.maxMatches == 0) = false := by
          rw [hne, Bool.false_or, beq_eq_false_iff_ne]
          intro hzero
          have hfew := (accepted_bounded c scene reference).1
          omega
        rw [accepted, hsome, if_neg Bool.false_ne_true, hmake, reference.w_toLuma, reference.h_toLuma]
      have hcomplete := accept_complete ht hnumbers hcoarse hhas.1 hhas.2 hreach
      rw [← haccepted, reference.w_toLuma, reference.h_toLuma] at hcomplete
      exact hcomplete.resolve_left hmany

/-- **What is found by template**, for every scene and every picture with pixels that is looked for in it, whether on the
way through smaller pictures or not.  Every value that is read is there.  The accepted places are places of windows with
scores that reach the threshold, never more than asked for and more than half the reference apart; the boxes are parts of
the scene that share no pixel, each with the best score of the windows in it; and without smaller pictures every place
that reaches the threshold is near an accepted one, unless as many are accepted as may be. -/
theorem findTemplate_occurrences (hp : scene.Addressable) (hne : reference.isEmpty = false)
    (ht : isFinite c.threshold = true) :
    findTemplate? c scene reference = some (findTemplate c scene reference) ∧
      Occurrences c scene reference (accepted c scene reference) (findTemplate c scene reference) := by
  have hscored := accepted_scored c scene hne ht
  obtain ⟨hfew, hfar⟩ := accepted_bounded c scene reference
  have hparts : ∀ p ∈ accepted c scene reference,
      Box.IsPart scene.width scene.height (window reference.width reference.height p) := by
    intro p hp'
    obtain ⟨hx, hy, -⟩ := hscored p hp'
    exact isPart_window hp hne hx hy
  have hfits : Box.FitsOne ((accepted c scene reference).map (window reference.width reference.height)) :=
    fitsOne_of_within fun b hb => by
      obtain ⟨p, hp', rfl⟩ := List.mem_map.1 hb
      exact (hparts p hp').within
  have hbest := signalOf_best hfits (fun p hp' => (hparts p hp').nonempty) fun p hp' => (hscored p hp').2.2.2.1
  have hmerged : (findTemplate c scene reference).boxes.length ≤ (accepted c scene reference).length := by
    rw [findTemplate_eq, signalOf_boxes]
    exact (Box.length_mergeOverlapping_le _).trans_eq (List.length_map _)
  rw [← findTemplate_eq] at hbest
  refine ⟨findTemplate?_eq, ?_⟩
  constructor
  case few => exact hfew
  case scored =>
    intro p hp'
    obtain ⟨hx, hy, hreach, -, hfull⟩ := hscored p hp'
    exact ⟨hx, hy, hreach, hfull⟩
  case spaced => exact hfar.imp Peak.far_iff.1
  case aligned => exact ⟨hbest.length_eq, hmerged.trans hfew⟩
  case parts => exact findTemplate_isPart c scene reference hp
  case disjoint =>
    rw [findTemplate_eq, signalOf_boxes]
    exact (Box.mergeOverlapping_settled _).2
  case reached =>
    intro v hv
    obtain ⟨n, hn, rfl⟩ := List.getElem_of_mem hv
    obtain ⟨⟨p, hp', -, hscore⟩, -⟩ := (List.forall₂_iff_get.1 hbest).2 n (hbest.length_eq ▸ hn) hn
    obtain ⟨-, -, hreach, -⟩ := hscored p hp'
    rw [hscore] at hreach
    exact hreach
  case best => exact hbest
  case complete =>
    intro hfactor
    refine (accepted_complete hne ht hfactor).imp_right fun hall full hfull x y hx hy hreach => ?_
    obtain ⟨p, hp', hnear⟩ := hall full hfull x y hx hy hreach
    rw [Peak.near_iff] at hnear
    exact ⟨p, hp', by omega, by omega⟩

end

/-! A dark page with a mark on it that is looked for without smaller pictures. -/

def mark : Picture := Picture.ofFn 2 2 .luma fun x y _ => if x = y then 200 else 20

def page : Picture := Picture.ofFn 5 4 .luma fun x y _ => if x = y + 1 ∧ 0 < y ∧ y < 3 then 200 else 20

def direct : TemplateSettings ℚ ℚ := { threshold := 4 / 5, coarseScale := 1, maxMatches := 3 }

theorem findTemplate_occurrences_page : page.Addressable ∧ mark.isEmpty = false ∧
    isFinite direct.threshold = true ∧ ¬ (coarseFactor direct mark.width mark.height : ℚ) < Scalar.ofInt 1 ∧
    (findTemplate direct page mark).boxes = [⟨2, 1, 2, 2⟩] ∧
    findTemplate? direct page mark = some (findTemplate direct page mark) ∧
    Occurrences direct page mark (accepted direct page mark) (findTemplate direct page mark) := by
  have hpage : page.Addressable := ⟨by decide, by decide⟩
  exact ⟨hpage, rfl, rfl, by decide +kernel, by decide +kernel, findTemplate_occurrences hpage rfl rfl⟩

end Match
end Pinpoint
