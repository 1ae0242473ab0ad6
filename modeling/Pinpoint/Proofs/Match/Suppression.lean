import Pinpoint.Proofs.Match.Neighbours
import Pinpoint.Proofs.Match.Places
import Pinpoint.Proofs.Scalar.Binary
/-!
# Suppression — peaks picked in place

A search picks peaks on a map of plain numbers and overwrites the window around each with a number that is lower than the
threshold (`pickInPlace?`).  Its map and the one with blank cells agree on every cell that can still be a peak, which is
what lets the two pick the same (`pickInPlace?_eq`); a write beyond the map would make the first give up, and none is.
What is picked of a map of scores is said in `pick_ofScores`.
-/
namespace Pinpoint
namespace Match
namespace Peak

open Scalar (Ordered isFinite)

variable {ν : Type}

/-- A map that has no blank cell yet. -/
def Map.ofScores (width : Nat) (scores : Array ν) : Map ν := ⟨width, scores.map some⟩

/-- The numbers of a map, where a blank cell counts as `low`. -/
def Map.plain (low : ν) (m : Map ν) : Array ν := m.cells.map fun c => c.getD low

theorem getElem?_plain (low : ν) (m : Map ν) (j : Nat) : (m.plain low)[j]? = m.cells[j]?.map fun c => c.getD low :=
  Array.getElem?_map

theorem getElem?_ofScores (width : Nat) (scores : Array ν) (j : Nat) (v : ν) :
    (Map.ofScores width scores).cells[j]? = some (some v) ↔ scores[j]? = some v := by
  simp [Map.ofScores]

theorem plain_ofScores (low : ν) (width : Nat) (scores : Array ν) :
    (Map.ofScores width scores).plain low = scores := by
  simp [Map.plain, Map.ofScores]

theorem numbers_cells_ofScores [Scalar ν] {width : Nat} {scores : Array ν} (hscores : ∀ v ∈ scores, v ≤ v) :
    Map.Numbers (Map.ofScores width scores).cells.toList :=
  Map.numbers_iff.2 fun j v hj => hscores v (Array.mem_of_getElem? ((getElem?_ofScores width scores j v).1 hj))

/-! ## Picking in place -/

/-- Overwrites the number at a place, or gives up if there is none. -/
def lower? (low : ν) (width : Nat) (scores : Array ν) (p : Nat × Nat) : Option (Array ν) :=
  let i := p.2 * width + p.1
  if i < scores.size then some (scores.setIfInBounds i low) else none

section
variable [Scalar ν]

/-- The larger of a number so far and the next, which is number `best.1`; the next of equal ones. -/
def larger (best : Nat × Option (Nat × ν)) (v : ν) : Nat × Option (Nat × ν) :=
  (best.1 + 1, match best.2 with
    | some b => if v < b.2 then some b else some (best.1, v)
    | none   => some (best.1, v))

/-- The last of the largest numbers. -/
def largest (scores : Array ν) : Option (Nat × ν) := (scores.foldl larger (0, none)).2

/-- **Picking on plain numbers**: the largest is taken and the window around it lowered, place by place. -/
def pickInPlace? (low : ν) (width rows w h : Nat) (threshold : ν) : (limit : Nat) → Array ν → Option (List (Peak ν))
  | 0, _              => some []
  | limit + 1, scores =>
    match largest scores with
    | none        => some []
    | some (i, s) =>
      if s < threshold then some []
      else do
        let x := i % width
        let y := i / width
        let lowered ← (neighbours width rows w h x y).foldlM (lower? low width) scores
        let rest ← pickInPlace? low width rows w h threshold limit lowered
        return ⟨s, x, y⟩ :: rest

end

/-! ### Lowering a window -/

/-- **Lowering the numbers of some places**, all of which are there: these become low, and the others stay. -/
theorem foldlM_lower? (low : ν) (width : Nat) {l : List (Nat × Nat)} {scores : Array ν}
    (hl : ∀ p ∈ l, p.2 * width + p.1 < scores.size) :
    ∃ lowered, l.foldlM (lower? low width) scores = some lowered ∧
      (∀ p ∈ l, lowered[p.2 * width + p.1]? = some low) ∧
      ∀ j, (∀ p ∈ l, p.2 * width + p.1 ≠ j) → lowered[j]? = scores[j]? := by
  induction l generalizing scores with
  | nil => exact ⟨scores, rfl, by simp, fun j _ => rfl⟩
  | cons p l ih =>
    obtain ⟨hp, hl⟩ := List.forall_mem_cons.1 hl
    have hrest : ∀ q ∈ l, q.2 * width + q.1 < (scores.setIfInBounds (p.2 * width + p.1) low).size := by
      rwa [Array.size_setIfInBounds]
    obtain ⟨lowered, hrun, hin, hout⟩ := ih hrest
    refine ⟨lowered, ?_, List.forall_mem_cons.2 ⟨?_, hin⟩, fun j hj => ?_⟩
    · rw [List.foldlM_cons, lower?, if_pos hp]
      exact hrun
    · by_cases hagain : ∃ q ∈ l, q.2 * width + q.1 = p.2 * width + p.1
      · obtain ⟨q, hq, heq⟩ := hagain
        exact heq ▸ hin q hq
      · rw [hout _ (by simpa using hagain), Array.getElem?_setIfInBounds_self_of_lt hp]
    · obtain ⟨hpj, hj⟩ := List.forall_mem_cons.1 hj
      rw [hout j hj, Array.getElem?_setIfInBounds_ne hpj]

/-- **Lowering a window is blanking what is near its middle**, and every place of the window is on the map. -/
theorem lower?_neighbours (low : ν) {m : Map ν} {rows : Nat} (hm : m.cells.size = m.width * rows) {x y : Nat}
    (hx : x < m.width) (hy : y < rows) (w h : Nat) :
    (neighbours m.width rows w h x y).foldlM (lower? low m.width) (m.plain low) =
      some ((m.blank w h x y).plain low) := by
  have hsize : (m.plain low).size = m.width * rows := by rw [Map.plain, Array.size_map, hm]
  have hplaces : ∀ p ∈ neighbours m.width rows w h x y, p.2 * m.width + p.1 < (m.plain low).size := fun p hp => by
    obtain ⟨⟨hi, hj⟩, -⟩ := (mem_neighbours_iff hx hy).1 hp
    exact hsize ▸ cell_lt hi hj
  obtain ⟨lowered, hrun, hin, hout⟩ := foldlM_lower? low m.width hplaces
  rw [hrun]
  refine congrArg some (Array.ext_getElem? fun j => ?_)
  rw [getElem?_plain, Map.getElem?_blank]
  by_cases hnear : j < m.width * rows ∧ near w h (j % m.width) (j / m.width) x y = true
  · obtain ⟨hj, hnear⟩ := hnear
    have hplace : (j % m.width, j / m.width) ∈ neighbours m.width rows w h x y :=
      (mem_neighbours_iff hx hy).2 ⟨mod_div_lt hj, hnear⟩
    have hlow := hin _ hplace
    dsimp only at hlow
    rw [cell_mod_div] at hlow
    rw [hlow, Array.getElem?_eq_getElem (hm ▸ hj), Option.map_some, if_pos hnear]
    rfl
  · have hother : ∀ p ∈ neighbours m.width rows w h x y, p.2 * m.width + p.1 ≠ j := by
      rintro ⟨u, v⟩ hp rfl
      obtain ⟨⟨hu, hv⟩, hnearuv⟩ := (mem_neighbours_iff hx hy).1 hp
      exact hnear ⟨cell_lt hu hv, by rwa [cell_mod hu, cell_div hu]⟩
    rw [hout j hother, getElem?_plain]
    cases hcell : m.cells[j]? with
    | none => rfl
    | some c =>
      have hj : j < m.width * rows := hm ▸ (Array.getElem?_eq_some_iff.1 hcell).1
      rw [Option.map_some, Option.map_some, if_neg fun h => hnear ⟨hj, h⟩, Option.map_some]

/-! ### The largest number -/

section
variable [Scalar ν] {low t : ν}

/-- A number below the threshold. -/
def Short (t v : ν) : Prop := v ≤ v ∧ v < t

/-- **The best cell and the largest number are the same**, or neither reaches the threshold. -/
def Agree (t : ν) : Option (Nat × Option ν) → Option (Nat × ν) → Prop
  | none, none               => True
  | some (i, c), some (j, v) => (c = some v ∧ i = j ∧ v ≤ v) ∨ ((∀ u ∈ c, Short t u) ∧ Short t v)
  | _, _                     => False

theorem Agree.of_short {p p' : Nat × Option ν} {q q' : Nat × ν} (hp : ∀ u ∈ p.2, Short t u) (hp' : ∀ u ∈ p'.2, Short t u)
    (hq : Short t q.2) (hq' : Short t q'.2) {P Q : Prop} [Decidable P] [Decidable Q] :
    Agree t (if P then some p else some p') (if Q then some q else some q') := by
  have hagree : ∀ {p : Nat × Option ν} {q : Nat × ν}, (∀ u ∈ p.2, Short t u) → Short t q.2 → Agree t (some p) (some q) :=
    fun hp hq => Or.inr ⟨hp, hq⟩
  split
  · split
    · exact hagree hp hq
    · exact hagree hp hq'
  · split
    · exact hagree hp' hq
    · exact hagree hp' hq'

variable [Ordered ν]

theorem Short.not_lt {u v : ν} (ht : t ≤ t) (hu : u ≤ u) (htu : ¬ u < t) (hv : Short t v) : ¬ u < v := by
  rw [Ordered.not_lt_iff hu ht] at htu
  rw [Ordered.not_lt_iff hu hv.1]
  exact Ordered.trans (Ordered.le_of_lt hv.1 ht hv.2) htu

/-- One more cell on the one side is one more number on the other. -/
theorem Agree.step (ht : t ≤ t) (hlow : Short t low) {best : Option (Nat × Option ν)} {top : Option (Nat × ν)}
    (h : Agree t best top) (n : Nat) {c : Option ν} (hc : ∀ u ∈ c, u ≤ u) :
    Agree t (Map.better (n, best) c).2 (larger (n, top) (c.getD low)).2 := by
  unfold Map.better larger
  cases best with
  | none =>
    cases top with
    | some q => cases h
    | none =>
      cases c with
      | none => exact Or.inr ⟨by simp, hlow⟩
      | some u => exact Or.inl ⟨rfl, rfl, hc u rfl⟩
  | some p =>
    cases top with
    | none => cases h
    | some q =>
      obtain ⟨i, d⟩ := p
      obtain ⟨j, v⟩ := q
      dsimp only
      rcases h with ⟨rfl, rfl, hv⟩ | ⟨hd, hv⟩
      · cases c with
        | none =>
          rw [if_pos (show Map.beats (some v) none = true from rfl), Option.getD_none]
          split
          · exact Or.inl ⟨rfl, rfl, hv⟩
          · rename_i hlv
            -- `low` is not less than the largest so far only if that is short itself
            have hvt : Short t v := ⟨hv, by
              rw [Ordered.not_lt_iff hlow.1 hv] at hlv
              rw [Ordered.lt_iff hv ht]
              exact fun htv => (Ordered.lt_iff hlow.1 ht).1 hlow.2 (Ordered.trans htv hlv)⟩
            exact Or.inr ⟨by simpa using hvt, hlow⟩
        | some u =>
          have hbeats : Map.beats (some v) (some u) = decide (u < v) := rfl
          rw [hbeats, Option.getD_some]
          by_cases huv : u < v
          · rw [if_pos (decide_eq_true huv), if_pos huv]
            exact Or.inl ⟨rfl, rfl, hv⟩
          · rw [if_neg (mt of_decide_eq_true huv), if_neg huv]
            exact Or.inl ⟨rfl, rfl, hc u rfl⟩
      · by_cases hreach : ∃ u ∈ c, ¬ u < t
        · obtain ⟨u, rfl, hut⟩ := hreach
          have hnot : ¬ Map.beats d (some u) = true := by
            cases d with
            | none => exact Bool.false_ne_true
            | some w => exact mt of_decide_eq_true ((hd w rfl).not_lt ht (hc u rfl) hut)
          rw [if_neg hnot, Option.getD_some, if_neg (hv.not_lt ht (hc u rfl) hut)]
          exact Or.inl ⟨rfl, rfl, hc u rfl⟩
        · have hshort : ∀ u ∈ c, Short t u := fun u hu =>
            ⟨hc u hu, Decidable.not_not.1 fun hut => hreach ⟨u, hu, hut⟩⟩
          refine .of_short hd hshort hv ?_
          cases c with
          | none => exact hlow
          | some u => exact hshort u rfl

theorem agree_foldl (ht : t ≤ t) (hlow : Short t low) {cells : List (Option ν)} (hcells : Map.Numbers cells) :
    (cells.foldl Map.better (0, none)).1 = ((cells.map fun c => c.getD low).foldl larger (0, none)).1 ∧
      Agree t (cells.foldl Map.better (0, none)).2 ((cells.map fun c => c.getD low).foldl larger (0, none)).2 := by
  induction cells using List.reverseRecOn with
  | nil => exact ⟨rfl, trivial⟩
  | append_singleton cells c ih =>
    obtain ⟨hnumber, hagree⟩ := ih fun v hv => hcells v (List.mem_append_left _ hv)
    rw [List.map_append, List.foldl_append, List.foldl_append]
    generalize cells.foldl Map.better (0, none) = a at hnumber hagree
    generalize (cells.map fun c => c.getD low).foldl larger (0, none) = b at hnumber hagree
    obtain ⟨n, best⟩ := a
    obtain ⟨m, top⟩ := b
    obtain rfl : n = m := hnumber
    exact ⟨rfl, hagree.step ht hlow n fun u hu => hcells u (by simp [Option.mem_def.1 hu])⟩

/-- **The best of a map and the largest of its numbers.** -/
theorem agree_largest (ht : t ≤ t) (hlow : Short t low) {m : Map ν} (hm : Map.Numbers m.cells.toList) :
    Agree t m.best (largest (m.plain low)) := by
  rw [Map.best_eq, largest, ← Array.foldl_toList, Map.plain, Array.toList_map]
  exact (agree_foldl ht hlow hm).2

/-- **Picking in place picks the same** and stays on the map. -/
theorem pickInPlace?_eq (ht : isFinite t = true) (hlow : Short t low) {rows : Nat} (w h limit : Nat) {m : Map ν}
    (hsize : m.cells.size = m.width * rows) (hm : Map.Numbers m.cells.toList) :
    pickInPlace? low m.width rows w h t limit (m.plain low) = some (pick w h t limit m) := by
  induction limit generalizing m with
  | zero => rfl
  | succ limit ih =>
    have hagree := agree_largest (Ordered.finite ht) hlow hm
    rw [pick_succ ht, pickInPlace?]
    cases hbest : m.best with
    | none =>
      cases hlargest : largest (m.plain low) with
      | none => rfl
      | some q => rw [hbest, hlargest] at hagree; cases hagree
    | some p =>
      cases hlargest : largest (m.plain low) with
      | none => rw [hbest, hlargest] at hagree; cases hagree
      | some q =>
        obtain ⟨i, c⟩ := p
        obtain ⟨j, s⟩ := q
        rw [hbest, hlargest] at hagree
        dsimp only
        rcases hagree with ⟨rfl, rfl, -⟩ | ⟨hc, hs⟩
        · dsimp only
          split
          · rfl
          · obtain ⟨hx, hy⟩ := mod_div_lt (hsize ▸ Map.best_lt hbest)
            have hrest := ih (m := m.blank w h (i % m.width) (i / m.width))
              (by rw [Map.blank, Array.size_mapIdx, hsize]) (Map.numbers_blank hm _ _ _ _)
            rw [lower?_neighbours low hsize hx hy, Option.bind_eq_bind, Option.bind_some]
            exact Option.bind_eq_some_iff.2 ⟨_, hrest, rfl⟩
        · rw [if_pos hs.2]
          cases c with
          | none => rfl
          | some u => exact congrArg some (if_pos (hc u rfl).2).symm

/-! ### What is picked of a map of scores -/

/-- **Peaks come best first.** -/
theorem pick_sorted (ht : isFinite t = true) {w h limit : Nat} {m : Map ν} (hm : Map.Numbers m.cells.toList) :
    (pick w h t limit m).Pairwise fun p q => q.score ≤ p.score := by
  induction limit generalizing m with
  | zero => exact .nil
  | succ limit ih =>
    rw [pick_succ ht]
    split
    · rename_i i s hbest
      split
      · exact .nil
      · refine List.pairwise_cons.2 ⟨fun q hq => ?_, ih (Map.numbers_blank hm _ _ _ _)⟩
        obtain ⟨j, -, -, hj, -⟩ := exists_cell_of_mem_pick ht hq
        have hcell := (Map.blank_eq_some hj).1
        exact Map.best_atMost hm hbest _ (List.mem_of_getElem? (Array.getElem?_toList ▸ hcell))
    · exact .nil

/-- **The peaks of a map of scores.**  Overwriting the map in place, with any number below the threshold, never writes beyond
it and picks the same as blanking.  There are at most `limit` peaks, best first; each has the score that the map had at its
place, and that reaches the threshold; of any two one is more than `w` columns or more than `h` rows away from the other;
and if there are fewer than `limit`, every place whose score reaches the threshold is within `w` columns and `h` rows of a
peak. -/
theorem pick_ofScores (w h limit : Nat) (ht : isFinite t = true) {width rows : Nat} {scores : Array ν}
    (hsize : scores.size = width * rows) (hscores : ∀ v ∈ scores, v ≤ v) :
    let peaks := pick w h t limit (.ofScores width scores)
    (∀ low, low ≤ low → low < t → pickInPlace? low width rows w h t limit scores = some peaks) ∧
    peaks.length ≤ limit ∧
    peaks.Pairwise (fun p q => q.score ≤ p.score) ∧
    (∀ p ∈ peaks, p.x < width ∧ p.y < rows ∧ scores[p.y * width + p.x]? = some p.score ∧ t ≤ p.score) ∧
    peaks.Pairwise (fun p q => w < ((p.x : Int) - q.x).natAbs ∨ h < ((p.y : Int) - q.y).natAbs) ∧
    (peaks.length < limit → ∀ x y v, x < width → y < rows → scores[y * width + x]? = some v → t ≤ v →
      ∃ p ∈ peaks, ((x : Int) - p.x).natAbs ≤ w ∧ ((y : Int) - p.y).natAbs ≤ h) := by
  intro peaks
  have hm : (Map.ofScores width scores).cells.size = (Map.ofScores width scores).width * rows := by
    rw [Map.ofScores, Array.size_map, hsize]
  have hnumbers : Map.Numbers (Map.ofScores width scores).cells.toList := numbers_cells_ofScores hscores
  refine ⟨fun low hlow hlt => ?_, length_pick ht, pick_sorted ht hnumbers, fun p hp => ?_, ?_,
    fun hfew x y v hx hy hv htv => ?_⟩
  · have hrun := pickInPlace?_eq ht ⟨hlow, hlt⟩ w h limit hm hnumbers
    rwa [plain_ofScores] at hrun
  · obtain ⟨hx, hy⟩ := pick_has w h t limit _ hm p hp
    obtain ⟨j, hjx, hjy, hj, hreach⟩ := exists_cell_of_mem_pick ht hp
    have hcell : p.y * width + p.x = j := by
      rw [hjx, hjy]
      exact cell_mod_div width j
    have hscore := (getElem?_ofScores width scores j _).1 hj
    rw [Ordered.not_lt_iff (hscores _ (Array.mem_of_getElem? hscore)) (Ordered.finite ht)] at hreach
    exact ⟨hx, hy, hcell ▸ hscore, hreach⟩
  · refine (pick_apart ht).imp fun hfar => ?_
    rw [← Bool.not_eq_true, near_iff] at hfar
    omega
  · obtain ⟨p, hp, hnear⟩ := pick_complete ht hnumbers hfew ((getElem?_ofScores width scores _ v).2 hv) htv
    have hxmod : (y * width + x) % (Map.ofScores width scores).width = x := cell_mod hx
    have hydiv : (y * width + x) / (Map.ofScores width scores).width = y := cell_div hx
    rw [hxmod, hydiv, near_iff] at hnear
    exact ⟨p, hp, by omega, by omega⟩

end

/-- Four columns and three rows. -/
def humps : Array Float32 := #[1, 0.25, 0.75, 0.75, 0.5, 0.25, 0.25, 0.25, -1 / 0, 0.25, 0.5, 0.5]

/-- Three peaks in single precision, at three corners: of equal scores the last is taken, and the half below the one is
near it. -/
theorem pick_ofScores_humps : isFinite (0.5 : Float32) = true ∧ humps.size = 4 * 3 ∧ (∀ v ∈ humps, v ≤ v) ∧
    (pick 1 1 0.5 5 (.ofScores 4 humps)).map (fun p => (p.x, p.y)) = [(0, 0), (3, 0), (3, 2)] ∧
    pickInPlace? (-1 / 0) 4 3 1 1 0.5 5 humps = some (pick 1 1 0.5 5 (.ofScores 4 humps)) ∧
    ∃ p ∈ pick 1 1 0.5 5 (.ofScores 4 humps), ((0 : Int) - p.x).natAbs ≤ 1 ∧ ((1 : Int) - p.y).natAbs ≤ 1 := by
  have ht : isFinite (0.5 : Float32) = true := by decide +kernel
  have hsize : humps.size = 4 * 3 := by decide
  have hscores : ∀ v ∈ humps, v ≤ v := by decide +kernel
  have hplaces : (pick 1 1 0.5 5 (.ofScores 4 humps)).map (fun p => (p.x, p.y)) = [(0, 0), (3, 0), (3, 2)] := by
    decide +kernel
  have hlow : (-1 / 0 : Float32) ≤ -1 / 0 ∧ (-1 / 0 : Float32) < 0.5 := by decide +kernel
  obtain ⟨hrun, -, -, -, -, hnear⟩ := pick_ofScores 1 1 5 ht hsize hscores
  have hfew : (pick 1 1 0.5 5 (.ofScores 4 humps)).length < 5 := by
    rw [← List.length_map (fun p : Peak Float32 => (p.x, p.y)), hplaces]
    decide
  exact ⟨ht, hsize, hscores, hplaces, hrun _ hlow.1 hlow.2,
    hnear hfew 0 1 0.5 (by decide) (by decide) (by decide +kernel) (by decide +kernel)⟩

end Peak
end Match
end Pinpoint
