import Pinpoint.Match.Corner
import Pinpoint.Proofs.Match.Neighbours
/-!
# Thinning — corners kept by a grid of marks

Thinning marks the place of every corner it keeps on a grid, and looks at the marks around a corner in place of the
corners kept so far.  As the marks are those of the corners kept (`Marks`), that is the naive scan, which compares a corner
with all that were kept before it (`thin_eq_scan`).  What the scan keeps is few, apart and complete; `thin_scanned` says so
of thinning, and that every mark it looks at or makes is on the grid.
-/
namespace Pinpoint
namespace Match
namespace Corner

/-- Within three pixels of each other, across and down. -/
def Near (a b : Corner) : Prop := ((a.x : Int) - b.x).natAbs ≤ 3 ∧ ((a.y : Int) - b.y).natAbs ≤ 3

instance (a b : Corner) : Decidable (a.Near b) := inferInstanceAs (Decidable (_ ∧ _))

/-- The corner is in a picture of size `w` by `h`. -/
def Inside (w h : Nat) (c : Corner) : Prop := c.x < w ∧ c.y < h

instance (w h : Nat) (c : Corner) : Decidable (c.Inside w h) := inferInstanceAs (Decidable (_ ∧ _))

/-! ## The naive scan -/

/-- **A corner may be kept**: fewer than `limit` are, and none of them is near it. -/
def Free (limit : Nat) (kept : List Corner) (c : Corner) : Prop := kept.length < limit ∧ ∀ k ∈ kept, ¬ k.Near c

instance (limit : Nat) (kept : List Corner) (c : Corner) : Decidable (Free limit kept c) :=
  inferInstanceAs (Decidable (_ ∧ _))

/-- A corner in a list of its own if it may be kept. -/
def ifFree (limit : Nat) (kept : List Corner) (c : Corner) : List Corner := if Free limit kept c then [c] else []

/-- **The naive scan**: every corner is compared with all that were kept before it. -/
def scan (limit : Nat) (kept l : List Corner) : List Corner := l.foldl (fun kept c => kept ++ ifFree limit kept c) kept

variable {limit : Nat} {kept l : List Corner} {c : Corner}

theorem scan_append (limit : Nat) (kept l l' : List Corner) :
    scan limit kept (l ++ l') = scan limit (scan limit kept l) l' := List.foldl_append

theorem scan_cons (limit : Nat) (kept : List Corner) (c : Corner) (l : List Corner) :
    scan limit kept (c :: l) = scan limit (kept ++ ifFree limit kept c) l := rfl

/-- What is kept further on comes after what is kept already, and is some of what is scanned. -/
theorem exists_scan (limit : Nat) (kept l : List Corner) : ∃ rest, rest.Sublist l ∧ scan limit kept l = kept ++ rest := by
  induction l generalizing kept with
  | nil => exact ⟨[], .slnil, (List.append_nil kept).symm⟩
  | cons c l ih =>
    obtain ⟨rest, hrest, heq⟩ := ih (kept ++ ifFree limit kept c)
    refine ⟨ifFree limit kept c ++ rest, ?_, by rw [scan_cons, heq, List.append_assoc]⟩
    unfold ifFree
    split
    · exact hrest.cons_cons c
    · exact hrest.cons c

theorem scan_of_full (h : limit ≤ kept.length) (l : List Corner) : scan limit kept l = kept := by
  induction l with
  | nil => rfl
  | cons c l ih =>
    rw [scan_cons, ifFree, if_neg fun hfree => absurd hfree.1 (Nat.not_lt.2 h), List.append_nil]
    exact ih

theorem scan_induction {P : List Corner → Prop} (hkept : P kept)
    (hstep : ∀ kept c, P kept → Free limit kept c → P (kept ++ [c])) (l : List Corner) : P (scan limit kept l) := by
  refine List.foldlRecOn (motive := P) _ _ hkept fun kept hP c _ => ?_
  unfold ifFree
  split
  · rename_i hfree
    exact hstep kept c hP hfree
  · rwa [List.append_nil]

theorem length_scan (l : List Corner) : (scan limit [] l).length ≤ limit :=
  scan_induction (P := fun kept => kept.length ≤ limit) (Nat.zero_le _) (fun _ _ _ hfree => by
    rw [List.length_append]
    exact hfree.1) l

theorem scan_apart (l : List Corner) : (scan limit [] l).Pairwise fun a b => ¬ a.Near b :=
  scan_induction (P := List.Pairwise fun a b => ¬ a.Near b) .nil (fun _ _ hapart hfree =>
    List.pairwise_append.2 ⟨hapart, List.pairwise_singleton _ _, fun k hk _ hd => List.mem_singleton.1 hd ▸ hfree.2 k hk⟩) l

/-! ## Marks -/

/-- **The marks of a grid are at the places of what is kept.** -/
structure Marks (w h : Nat) (taken : Array Bool) (kept : List Corner) : Prop where
  size : taken.size = w * h
  inside : ∀ k ∈ kept, k.Inside w h
  marked (i : Nat) : taken.getD i false = true ↔ ∃ k ∈ kept, k.y * w + k.x = i

variable {w h : Nat} {taken : Array Bool}

theorem marks_nil (w h : Nat) : Marks w h (Array.replicate (w * h) false) [] where
  size := Array.size_replicate
  inside := by simp
  marked i := by
    rw [Array.getD_eq_getD_getElem?, Array.getElem?_replicate]
    split <;> simp

theorem Marks.mark (hm : Marks w h taken kept) (hc : c.Inside w h) :
    Marks w h (taken.setIfInBounds (c.y * w + c.x) true) (kept ++ [c]) where
  size := by rw [Array.size_setIfInBounds, hm.size]
  inside k hk := by
    rcases List.mem_append.1 hk with hk | hk
    · exact hm.inside k hk
    · exact List.mem_singleton.1 hk ▸ hc
  marked i := by
    have hlt : c.y * w + c.x < taken.size := hm.size ▸ cell_lt hc.1 hc.2
    rw [Array.getD_eq_getD_getElem?, Array.getElem?_setIfInBounds]
    by_cases hi : c.y * w + c.x = i
    · subst hi
      simp [hlt]
    · rw [if_neg hi, ← Array.getD_eq_getD_getElem?, hm.marked]
      simp [hi]

theorem around_eq (w h x y : Nat) : around w h x y = neighbours w h 3 3 x y := rfl

/-- **A mark around a corner** is that of a corner near it. -/
theorem Marks.any_around_iff (hm : Marks w h taken kept) (hc : c.Inside w h) :
    ((around w h c.x c.y).any fun p => taken.getD (p.2 * w + p.1) false) = true ↔ ∃ k ∈ kept, k.Near c := by
  rw [List.any_eq_true, around_eq]
  constructor
  · rintro ⟨⟨i, j⟩, hp, hmark⟩
    obtain ⟨⟨hi, -⟩, hnear⟩ := (mem_neighbours_iff hc.1 hc.2).1 hp
    obtain ⟨k, hk, hcell⟩ := (hm.marked _).1 hmark
    obtain ⟨rfl, rfl⟩ := cell_inj (hm.inside k hk).1 hi hcell
    rw [Peak.near_iff] at hnear
    exact ⟨k, hk, by omega, by omega⟩
  · rintro ⟨k, hk, hx, hy⟩
    refine ⟨(k.x, k.y), (mem_neighbours_iff hc.1 hc.2).2 ⟨hm.inside k hk, ?_⟩, (hm.marked _).2 ⟨k, hk, rfl⟩⟩
    rw [Peak.near_iff]
    omega

/-- **Thinning goes on as the scan does.** -/
theorem Marks.thinFrom_eq (hm : Marks w h taken kept) {cs : List Corner} (hcs : ∀ c ∈ cs, c.Inside w h) (left : Nat) :
    kept ++ thinFrom w h left taken cs = scan (kept.length + left) kept cs := by
  induction cs generalizing left taken kept with
  | nil => cases left <;> simp [thinFrom, scan]
  | cons c cs ih =>
    cases left with
    | zero => rw [thinFrom, List.append_nil, Nat.add_zero, scan_of_full (Nat.le_refl _)]
    | succ left =>
      obtain ⟨hc, hcs⟩ := List.forall_mem_cons.1 hcs
      rw [thinFrom, scan_cons, ifFree]
      by_cases hmarked : ((around w h c.x c.y).any fun p => taken.getD (p.2 * w + p.1) false) = true
      · obtain ⟨k, hk, hnear⟩ := (hm.any_around_iff hc).1 hmarked
        rw [if_pos hmarked, if_neg fun hfree => hfree.2 k hk hnear, List.append_nil]
        exact ih hm hcs (left + 1)
      · have hfree : Free (kept.length + (left + 1)) kept c :=
          ⟨by omega, fun k hk hnear => hmarked ((hm.any_around_iff hc).2 ⟨k, hk, hnear⟩)⟩
        have hrest := ih (hm.mark hc) hcs left
        rw [List.length_append, List.length_singleton, Nat.add_assoc, Nat.add_comm 1, List.append_assoc] at hrest
        rw [if_neg hmarked, if_pos hfree]
        exact hrest

/-- **Thinning is the naive scan.** -/
theorem thin_eq_scan (hl : ∀ c ∈ l, c.Inside w h) (limit : Nat) : thin w h limit l = scan limit [] l := by
  have heq := (marks_nil w h).thinFrom_eq hl limit
  rwa [List.nil_append, List.length_nil, Nat.zero_add] at heq

theorem thin_sublist (hl : ∀ c ∈ l, c.Inside w h) (limit : Nat) : (thin w h limit l).Sublist l := by
  obtain ⟨rest, hrest, heq⟩ := exists_scan limit [] l
  rw [thin_eq_scan hl, heq, List.nil_append]
  exact hrest

/-- A whole number that 32 bits with a sign hold. -/
def int32? (n : Int) : Option Int := if -2 ^ 31 ≤ n ∧ n < 2 ^ 31 then some n else none

/-- The coordinates below `n` that are at most three from `i`. -/
def reach? (n i : Nat) : Option (List Nat) := do
  let first ← int32? (i - 3)
  let last ← int32? (i + 3)
  let edge ← int32? (n - 1)
  return List.range' (max first 0).toNat (min last edge + 1 - max first 0).toNat

def around? (w h x y : Nat) : Option (List (Nat × Nat)) := do
  let rows ← reach? h y
  let columns ← reach? w x
  return rows.flatMap fun j => columns.map fun i => (i, j)

def cell? (w x y : Nat) : Option Nat := do
  let row ← int32? (y * w)
  let cell ← int32? (row + x)
  return cell.toNat

/-- The mark at a place, or nothing if the place is not on the grid. -/
def mark? (w : Nat) (taken : Array Bool) (p : Nat × Nat) : Option Bool := (cell? w p.1 p.2).bind fun i => taken[i]?

/-- The grid with one more mark. -/
def markAt? (w : Nat) (taken : Array Bool) (c : Corner) : Option (Array Bool) := do
  let i ← cell? w c.x c.y
  if i < taken.size then return taken.setIfInBounds i true else none

def thinFrom? (w h : Nat) : (left : Nat) → (taken : Array Bool) → List Corner → Option (List Corner)
  | 0, _, _                  => some []
  | _ + 1, _, []             => some []
  | left + 1, taken, c :: cs => do
    let places ← around? w h c.x c.y
    let near ← places.anyM (mark? w taken)
    if near then thinFrom? w h (left + 1) taken cs
    else do
      let marked ← markAt? w taken c
      let rest ← thinFrom? w h left marked cs
      return c :: rest

/-- **Thinning that gives up** where a number leaves 32 bits or a mark is not on the grid; it looks at the marks around a
corner up to the first that is set. -/
def thin? (w h limit : Nat) (l : List Corner) : Option (List Corner) := do
  let cells ← int32? (w * h)
  thinFrom? w h limit (Array.replicate cells.toNat false) l

theorem int32?_eq {n : Int} (h : -2 ^ 31 ≤ n) (h' : n < 2 ^ 31) : int32? n = some n := if_pos ⟨h, h'⟩

theorem reach?_eq {n i : Nat} (hn : n + 2 < 2 ^ 31) (hi : i < n) :
    reach? n i = some (List.range' (i - 3) (min (i + 3) (n - 1) + 1 - (i - 3))) := by
  rw [reach?, int32?_eq (by omega) (by omega), int32?_eq (by omega) (by omega), int32?_eq (by omega) (by omega)]
  have hfirst : (max ((i : Int) - 3) 0).toNat = i - 3 := by omega
  have hlength : (min ((i : Int) + 3) (n - 1) + 1 - max ((i : Int) - 3) 0).toNat = min (i + 3) (n - 1) + 1 - (i - 3) := by
    omega
  dsimp only [Option.bind_eq_bind, Option.bind_some]
  rw [hfirst, hlength]
  rfl

theorem around?_eq (hw : w + 2 < 2 ^ 31) (hh : h + 2 < 2 ^ 31) (hc : c.Inside w h) :
    around? w h c.x c.y = some (around w h c.x c.y) := by
  rw [around?, reach?_eq hh hc.2, reach?_eq hw hc.1]
  rfl

theorem cell?_eq (hsize : w * h < 2 ^ 31) {x y : Nat} (hx : x < w) (hy : y < h) : cell? w x y = some (y * w + x) := by
  have hcell := cell_lt hx hy
  rw [cell?, ← Nat.cast_mul, int32?_eq (by omega) (by omega), Option.bind_eq_bind, Option.bind_some, ← Nat.cast_add,
    int32?_eq (by omega) (by omega)]
  rfl

theorem anyM_eq_some {α : Type} {f : α → Option Bool} {g : α → Bool} {l : List α} (hf : ∀ a ∈ l, f a = some (g a)) :
    l.anyM f = some (l.any g) := by
  induction l with
  | nil => rfl
  | cons a l ih =>
    obtain ⟨ha, hl⟩ := List.forall_mem_cons.1 hf
    rw [List.anyM, ha, List.any_cons, Option.bind_eq_bind, Option.bind_some]
    cases g a with
    | true => rfl
    | false => exact ih hl

/-- **Thinning never gives up** where 32 bits hold the coordinates three beyond the edges. -/
theorem thinFrom?_eq (hw : w + 2 < 2 ^ 31) (hh : h + 2 < 2 ^ 31) (hsize : w * h < 2 ^ 31) {cs : List Corner}
    (hcs : ∀ c ∈ cs, c.Inside w h) (htaken : taken.size = w * h) (left : Nat) :
    thinFrom? w h left taken cs = some (thinFrom w h left taken cs) := by
  induction cs generalizing left taken with
  | nil => cases left <;> rfl
  | cons c cs ih =>
    cases left with
    | zero => rfl
    | succ left =>
      obtain ⟨hc, hcs⟩ := List.forall_mem_cons.1 hcs
      have hmarks : (around w h c.x c.y).anyM (mark? w taken) =
          some ((around w h c.x c.y).any fun p => taken.getD (p.2 * w + p.1) false) := by
        refine anyM_eq_some fun p hp => ?_
        obtain ⟨⟨hx, hy⟩, -⟩ := (mem_neighbours_iff hc.1 hc.2).1 hp
        have hlt : p.2 * w + p.1 < taken.size := htaken ▸ cell_lt hx hy
        rw [mark?, cell?_eq hsize hx hy, Option.bind_some, Array.getElem?_eq_getElem hlt, Array.getD_eq_getD_getElem?,
          Array.getElem?_eq_getElem hlt, Option.getD_some]
      have hmark : markAt? w taken c = some (taken.setIfInBounds (c.y * w + c.x) true) := by
        rw [markAt?, cell?_eq hsize hc.1 hc.2]
        exact if_pos (htaken ▸ cell_lt hc.1 hc.2)
      rw [thinFrom?, thinFrom, around?_eq hw hh hc, Option.bind_eq_bind, Option.bind_some, hmarks, Option.bind_eq_bind,
        Option.bind_some]
      split
      · exact ih hcs htaken (left + 1)
      · have hmarked : (taken.setIfInBounds (c.y * w + c.x) true).size = w * h := by rw [Array.size_setIfInBounds, htaken]
        rw [hmark, Option.bind_eq_bind, Option.bind_some, ih hcs hmarked left]
        rfl

theorem thin?_eq (hw : w + 2 < 2 ^ 31) (hh : h + 2 < 2 ^ 31) (hsize : w * h < 2 ^ 31) (hl : ∀ c ∈ l, c.Inside w h)
    (limit : Nat) : thin? w h limit l = some (thin w h limit l) := by
  rw [thin?, ← Nat.cast_mul, int32?_eq (by omega) (by omega), Option.bind_eq_bind, Option.bind_some, Int.toNat_natCast]
  exact thinFrom?_eq hw hh hsize hl Array.size_replicate limit

/-! ## What is kept -/

/-- The scan up to a corner, at it and behind it. -/
theorem exists_scan_split (limit : Nat) (before after : List Corner) (c : Corner) : ∃ rest, rest.Sublist after ∧
    scan limit [] (before ++ c :: after) =
      scan limit [] before ++ ifFree limit (scan limit [] before) c ++ rest := by
  obtain ⟨rest, hrest, heq⟩ := exists_scan limit (scan limit [] before ++ ifFree limit (scan limit [] before) c) after
  exact ⟨rest, hrest, by rw [scan_append, scan_cons, heq]⟩

/-- **What thinning keeps.**  It is what the naive scan keeps: from the first corner on, a corner is kept if fewer than
`limit` were kept before it and none of these is within three pixels of it.  So what is kept is some of the corners in their
order and no more than `limit`, any two are more than three columns or rows apart, and unless the limit is reached a corner
is left out only for one that was kept before it and is near it.  Every mark looked at or made is on the grid; and where 32
bits hold the places three beyond the edges, they hold every number on the way. -/
theorem thin_scanned (hl : ∀ c ∈ l, c.Inside w h) (hsize : w * h < 2 ^ 31) (limit : Nat) :
    thin w h limit l = scan limit [] l ∧
    (∀ before c after, l = before ++ c :: after → ∃ rest, rest.Sublist after ∧
      thin w h limit l = thin w h limit before ++ ifFree limit (thin w h limit before) c ++ rest) ∧
    (thin w h limit l).Pairwise (fun a b => 3 < ((a.x : Int) - b.x).natAbs ∨ 3 < ((a.y : Int) - b.y).natAbs) ∧
    (thin w h limit l).Sublist l ∧ (thin w h limit l).length ≤ limit ∧
    ((thin w h limit l).length < limit → ∀ before c after, l = before ++ c :: after →
      ¬ Free limit (thin w h limit before) c → ∃ k ∈ thin w h limit before, k.Near c) ∧
    (∀ c ∈ l, c.y * w + c.x < w * h ∧ ∀ p ∈ around w h c.x c.y, p.2 * w + p.1 < w * h) ∧
    (w + 2 < 2 ^ 31 → h + 2 < 2 ^ 31 → thin? w h limit l = some (thin w h limit l)) := by
  have hscan := thin_eq_scan hl limit
  have hsplit : ∀ before c after, l = before ++ c :: after → ∃ rest, rest.Sublist after ∧
      thin w h limit l = thin w h limit before ++ ifFree limit (thin w h limit before) c ++ rest := by
    rintro before c after rfl
    rw [hscan, thin_eq_scan (fun d hd => hl d (List.mem_append_left _ hd)) limit]
    exact exists_scan_split limit before after c
  refine ⟨hscan, hsplit, ?_, thin_sublist hl limit, hscan ▸ length_scan l, fun hfew before c after heq hdropped => ?_,
    fun c hc => ?_, fun hw hh => thin?_eq hw hh hsize hl limit⟩
  · rw [hscan]
    refine (scan_apart l).imp fun hfar => ?_
    rw [Near] at hfar
    omega
  · -- fewer than `limit` in all, so fewer than `limit` before the corner
    obtain ⟨rest, -, hthin⟩ := hsplit before c after heq
    have hlength := congrArg List.length hthin
    rw [List.length_append, List.length_append] at hlength
    by_contra hnone
    exact hdropped ⟨by omega, fun k hk hnear => hnone ⟨k, hk, hnear⟩⟩
  · obtain ⟨hx, hy⟩ := hl c hc
    refine ⟨cell_lt hx hy, fun p hp => ?_⟩
    obtain ⟨⟨hpx, hpy⟩, -⟩ := (mem_neighbours_iff hx hy).1 hp
    exact cell_lt hpx hpy

/-- Six corners, two of them at one place. -/
def crowd : List Corner := [⟨3, 2, 90⟩, ⟨6, 4, 80⟩, ⟨7, 0, 70⟩, ⟨7, 0, 70⟩, ⟨0, 0, 60⟩, ⟨7, 4, 50⟩]

/-- The second corner is near the first, the fourth is the third again and the fifth is near the first. -/
theorem thin_scanned_crowd : (∀ c ∈ crowd, c.Inside 8 5) ∧ 8 * 5 < 2 ^ 31 ∧
    thin 8 5 5 crowd = [⟨3, 2, 90⟩, ⟨7, 0, 70⟩, ⟨7, 4, 50⟩] ∧ thin? 8 5 5 crowd = some (thin 8 5 5 crowd) ∧
    ∃ k ∈ thin 8 5 5 (crowd.take 3), k.Near ⟨7, 0, 70⟩ := by
  have hinside : ∀ c ∈ crowd, c.Inside 8 5 := by decide
  have hsize : 8 * 5 < 2 ^ 31 := by decide
  have hthin : thin 8 5 5 crowd = [⟨3, 2, 90⟩, ⟨7, 0, 70⟩, ⟨7, 4, 50⟩] := by decide +kernel
  have hagain : ¬ Free 5 (thin 8 5 5 (crowd.take 3)) ⟨7, 0, 70⟩ := by decide +kernel
  obtain ⟨-, -, -, -, -, hleft, -, hrun⟩ := thin_scanned hinside hsize 5
  exact ⟨hinside, hsize, hthin, hrun (by decide) (by decide),
    hleft (by rw [hthin]; decide) (crowd.take 3) ⟨7, 0, 70⟩ [⟨0, 0, 60⟩, ⟨7, 4, 50⟩] rfl hagain⟩

end Corner
end Match
end Pinpoint
