import Mathlib.Data.List.Induction
import Pinpoint.Match.Peaks
import Pinpoint.Proofs.Scalar.Order
/-!
# Peaks — the best places of a map of numbers

The best of a map is one of its cells and none is better (`Map.best_atMost`).  So peaks are cells that reach the threshold
(`exists_cell_of_mem_pick`), each far from those before it (`pick_apart`), and nothing that reaches the threshold is far
from all of them unless the limit is reached (`pick_complete`).
-/
namespace Pinpoint
namespace Match
namespace Peak

open Scalar (Ordered)

variable {ν : Type}

theorem near_iff {w h x y u v : Nat} : near w h x y u v = true ↔ (x ≤ u + w ∧ u ≤ x + w) ∧ y ≤ v + h ∧ v ≤ y + h := by
  simp [near]

theorem near_comm (w h x y u v : Nat) : near w h x y u v = near w h u v x y := by
  rw [Bool.eq_iff_iff, near_iff, near_iff]
  omega

namespace Map

variable {m : Map ν}

theorem getElem?_blank (m : Map ν) (w h x y j : Nat) :
    (m.blank w h x y).cells[j]? =
      m.cells[j]?.map fun c => if near w h (j % m.width) (j / m.width) x y then none else c :=
  Array.getElem?_mapIdx

theorem blank_eq_some {w h x y j : Nat} {v : ν} (hj : (m.blank w h x y).cells[j]? = some (some v)) :
    m.cells[j]? = some (some v) ∧ near w h (j % m.width) (j / m.width) x y = false := by
  rw [getElem?_blank] at hj
  obtain ⟨c, hc, hcv⟩ := Option.map_eq_some_iff.1 hj
  split at hcv
  · cases hcv
  · rename_i hfar
    exact ⟨hcv ▸ hc, Bool.not_eq_true _ ▸ hfar⟩

theorem blank_of_far {w h x y j : Nat} (hfar : near w h (j % m.width) (j / m.width) x y = false) :
    (m.blank w h x y).cells[j]? = m.cells[j]? := by
  rw [getElem?_blank, hfar]
  simp

variable [Scalar ν]

/-- **No better cell**; a blank is worse than any number. -/
def AtMost : Option ν → Option ν → Prop
  | none, _        => True
  | some a, some b => a ≤ b
  | some _, none   => False

/-- Every score on the map is a number. -/
def Numbers (cells : List (Option ν)) : Prop := ∀ v, some v ∈ cells → v ≤ v

theorem numbers_iff : Numbers m.cells.toList ↔ ∀ (j : Nat) v, m.cells[j]? = some (some v) → v ≤ v := by
  constructor
  · intro hm j v hj
    exact hm v (List.mem_of_getElem? (Array.getElem?_toList ▸ hj))
  · intro hm v hv
    obtain ⟨j, hj⟩ := List.mem_iff_getElem?.1 hv
    exact hm j v (Array.getElem?_toList ▸ hj)

theorem numbers_blank (hm : Numbers m.cells.toList) (w h x y : Nat) : Numbers (m.blank w h x y).cells.toList :=
  numbers_iff.2 fun j v hj => numbers_iff.1 hm j v (blank_eq_some hj).1

/-- The best cell so far, with one more to look at. -/
def better (best : Nat × Option (Nat × Option ν)) (c : Option ν) : Nat × Option (Nat × Option ν) :=
  (best.1 + 1, match best.2 with
    | some b => if beats b.2 c then some b else some (best.1, c)
    | none   => some (best.1, c))

theorem foldl_better (cells : List (Option ν)) :
    (cells.foldl better (0, none)).1 = cells.length ∧
      ((cells.foldl better (0, none)).2 = none → cells = []) ∧
      ∀ b ∈ (cells.foldl better (0, none)).2, cells[b.1]? = some b.2 := by
  induction cells using List.reverseRecOn with
  | nil => simp
  | append_singleton cells c ih =>
    obtain ⟨hlength, -, hcell⟩ := ih
    rw [List.foldl_append, List.foldl_cons, List.foldl_nil]
    generalize cells.foldl better (0, none) = s at hlength hcell
    have hnew : (cells ++ [c])[s.1]? = some c := by rw [hlength, List.getElem?_concat_length]
    refine ⟨by rw [better, hlength, List.length_append, List.length_singleton], ?_⟩
    unfold better
    cases hs : s.2 with
    | none => simp [hnew]
    | some b =>
      have hb := hcell b hs
      have hlt : b.1 < cells.length := (List.getElem?_eq_some_iff.1 hb).1
      by_cases hbeats : beats b.2 c
      · simp [hbeats, List.getElem?_append_left hlt, hb]
      · simp [hbeats, hnew]

variable {i : Nat} {c : Option ν}

theorem best_eq (m : Map ν) : m.best = (m.cells.toList.foldl better (0, none)).2 := by
  rw [best, ← Array.foldl_toList]
  rfl

/-- The best is a cell of the map. -/
theorem best_cell (h : m.best = some (i, c)) : m.cells[i]? = some c := by
  rw [best_eq] at h
  rw [← Array.getElem?_toList]
  exact (foldl_better m.cells.toList).2.2 _ h

theorem best_lt (h : m.best = some (i, c)) : i < m.cells.size :=
  (Array.getElem?_eq_some_iff.1 (best_cell h)).1

theorem best_ne_none (hm : m.cells.toList ≠ []) : m.best ≠ none := by
  rw [best_eq]
  exact mt (foldl_better m.cells.toList).2.1 hm

/-! ### No cell is better -/

theorem AtMost.refl {c : Option ν} (hc : ∀ v ∈ c, v ≤ v) : AtMost c c := by
  cases c with
  | none => trivial
  | some v => exact hc v rfl

section
variable [Ordered ν]

theorem AtMost.trans {a b c : Option ν} (hab : AtMost a b) (hbc : AtMost b c) : AtMost a c := by
  cases a with
  | none => trivial
  | some a =>
    cases b with
    | none => cases hab
    | some b =>
      cases c with
      | none => cases hbc
      | some c => exact Ordered.trans hab hbc

theorem atMost_of_beats {b c : Option ν} (hb : ∀ v ∈ b, v ≤ v) (hc : ∀ v ∈ c, v ≤ v) :
    if beats b c then AtMost c b else AtMost b c := by
  cases b with
  | none => trivial
  | some b =>
    cases c with
    | none => trivial
    | some c =>
      by_cases h : c < b
      · rw [if_pos (show beats (some b) (some c) = true from decide_eq_true h)]
        exact Ordered.le_of_lt (hc c rfl) (hb b rfl) h
      · rw [if_neg (show ¬ beats (some b) (some c) = true from mt of_decide_eq_true h)]
        exact (Ordered.not_lt_iff (hc c rfl) (hb b rfl)).1 h

theorem foldl_better_atMost {cells : List (Option ν)} (hcells : Numbers cells) :
    ∀ b ∈ (cells.foldl better (0, none)).2, ∀ c ∈ cells, AtMost c b.2 := by
  induction cells using List.reverseRecOn with
  | nil => simp
  | append_singleton cells c ih =>
    have hbefore : Numbers cells := fun v hv => hcells v (List.mem_append_left _ hv)
    have hc : ∀ v ∈ c, v ≤ v := by
      rintro v rfl
      exact hcells v (by simp)
    have hcell := (foldl_better cells).2.2
    have hnone := (foldl_better cells).2.1
    have hall := ih hbefore
    rw [List.foldl_append, List.foldl_cons, List.foldl_nil]
    generalize cells.foldl better (0, none) = s at hcell hnone hall
    unfold better
    cases hs : s.2 with
    | none => simp [hnone hs, AtMost.refl hc]
    | some b =>
      have hb : ∀ v ∈ b.2, v ≤ v := by
        rintro v hv
        exact hbefore v (List.mem_of_getElem? ((hcell b hs).trans (congrArg some hv)))
      have hcmp := atMost_of_beats hb hc
      by_cases hbeats : beats b.2 c
      · rw [if_pos hbeats] at hcmp
        simpa [hbeats, or_imp, forall_and, hcmp] using hall b hs
      · rw [if_neg hbeats] at hcmp
        simpa [hbeats, or_imp, forall_and, AtMost.refl hc] using fun d hd => (hall b hs d hd).trans hcmp

/-- **The best cell of a map**: none is better. -/
theorem best_atMost (hm : Numbers m.cells.toList) (h : m.best = some (i, c)) : ∀ d ∈ m.cells.toList, AtMost d c := by
  rw [best_eq] at h
  exact foldl_better_atMost hm _ h

/-- A map with a score has a best score. -/
theorem exists_best (hm : Numbers m.cells.toList) {v : ν} (hv : some v ∈ m.cells.toList) :
    ∃ i s, m.best = some (i, some s) ∧ m.cells[i]? = some (some s) ∧ v ≤ s := by
  obtain ⟨b, hb⟩ := Option.ne_none_iff_exists'.1 (best_ne_none (List.ne_nil_of_mem hv))
  obtain ⟨i, c⟩ := b
  have hmost : AtMost (some v) c := best_atMost hm hb _ hv
  cases c with
  | none => cases hmost
  | some s => exact ⟨i, s, hb, best_cell hb, hmost⟩

end

end Map

/-! ## Picking -/

variable [Scalar ν] {w h limit : Nat} {threshold : ν} {m : Map ν}

/-- One step of picking with a finite threshold. -/
theorem pick_succ (ht : Scalar.isFinite threshold = true) :
    pick w h threshold (limit + 1) m = match m.best with
      | some (i, some s) =>
        if s < threshold then []
        else ⟨s, i % m.width, i / m.width⟩ :: pick w h threshold limit (m.blank w h (i % m.width) (i / m.width))
      | _ => [] := by
  rw [pick]
  rcases m.best with _ | ⟨i, _ | s⟩
  · rfl
  · simp [ht]
  · rfl

theorem length_pick (ht : Scalar.isFinite threshold = true) : (pick w h threshold limit m).length ≤ limit := by
  induction limit generalizing m with
  | zero => exact Nat.le_refl 0
  | succ limit ih =>
    rw [pick_succ ht]
    split
    · split
      · exact Nat.zero_le _
      · exact Nat.succ_le_succ ih
    · exact Nat.zero_le _

/-- **A peak is a cell of the map** that is not below the threshold. -/
theorem exists_cell_of_mem_pick (ht : Scalar.isFinite threshold = true) {p : Peak ν}
    (hp : p ∈ pick w h threshold limit m) :
    ∃ j, p.x = j % m.width ∧ p.y = j / m.width ∧ m.cells[j]? = some (some p.score) ∧ ¬ p.score < threshold := by
  induction limit generalizing m with
  | zero => cases hp
  | succ limit ih =>
    rw [pick_succ ht] at hp
    split at hp
    · rename_i i s hbest
      split at hp
      · cases hp
      · rename_i hs
        rcases List.mem_cons.1 hp with rfl | hp
        · exact ⟨i, rfl, rfl, Map.best_cell hbest, hs⟩
        · obtain ⟨j, hx, hy, hj, hpt⟩ := ih hp
          exact ⟨j, hx, hy, (Map.blank_eq_some hj).1, hpt⟩
    · cases hp

/-- **No two peaks are near each other.** -/
theorem pick_apart (ht : Scalar.isFinite threshold = true) :
    (pick w h threshold limit m).Pairwise fun p q => near w h p.x p.y q.x q.y = false := by
  induction limit generalizing m with
  | zero => exact .nil
  | succ limit ih =>
    rw [pick_succ ht]
    split
    · split
      · exact .nil
      · refine List.pairwise_cons.2 ⟨fun q hq => ?_, ih⟩
        obtain ⟨j, hx, hy, hj, -⟩ := exists_cell_of_mem_pick ht hq
        rw [near_comm, hx, hy]
        exact (Map.blank_eq_some hj).2
    · exact .nil

/-- **Nothing that reaches the threshold is far from every peak**, unless the limit is reached. -/
theorem pick_complete [Ordered ν] (ht : Scalar.isFinite threshold = true) (hm : Map.Numbers m.cells.toList)
    (hlimit : (pick w h threshold limit m).length < limit) {j : Nat} {v : ν} (hj : m.cells[j]? = some (some v))
    (hv : threshold ≤ v) :
    ∃ p ∈ pick w h threshold limit m, near w h (j % m.width) (j / m.width) p.x p.y = true := by
  induction limit generalizing m with
  | zero => cases hlimit
  | succ limit ih =>
    have hjmem : some v ∈ m.cells.toList := List.mem_of_getElem? (Array.getElem?_toList ▸ hj)
    obtain ⟨i, s, hbest, hcell, hvs⟩ := Map.exists_best hm hjmem
    have hs : ¬ s < threshold := by
      rw [Ordered.not_lt_iff (Map.numbers_iff.1 hm i s hcell) (Ordered.finite ht)]
      exact Ordered.trans hv hvs
    have htake : pick w h threshold (limit + 1) m = ⟨s, i % m.width, i / m.width⟩ ::
        pick w h threshold limit (m.blank w h (i % m.width) (i / m.width)) := by
      rw [pick_succ ht, hbest]
      exact if_neg hs
    rw [htake] at hlimit ⊢
    cases hnear : near w h (j % m.width) (j / m.width) (i % m.width) (i / m.width) with
    | true => exact ⟨_, List.mem_cons_self, hnear⟩
    | false =>
      obtain ⟨p, hp, hpj⟩ := ih (Map.numbers_blank hm _ _ _ _) (Nat.lt_of_succ_lt_succ hlimit)
        ((Map.blank_of_far hnear).trans hj)
      exact ⟨p, List.mem_cons_of_mem _ hp, hpj⟩

end Peak
end Match
end Pinpoint
