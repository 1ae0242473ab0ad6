import Mathlib.Data.List.Basic
import Pinpoint.Ballot
import Pinpoint.Proofs.Fusion.Collapse
/-!
# Count — what a ballot lists and when it has a winner

A ballot lists the candidates it was drawn for, each once (`candidates_draw`).  It has a winner as soon as a single vote
names one of them (`winner_isSome_iff`): most votes are then more than none, and somebody has most.
-/
namespace Pinpoint
namespace Ballot

/-! ## What is listed -/

theorem candidates_assign {σ : Type} (next : σ → Fin 36 × σ) (len retry : Nat) :
    ∀ (taken : List String) (l : List Candidate) (g : σ),
      (assign next len retry taken l g).1.map (·.candidate) = l
  | _, [], _         => rfl
  | taken, c :: l, g => by
    rw [assign, List.map_cons, candidates_assign next len retry _ l]

/-- **A ballot lists what it was drawn for**, once candidates of one box are one. -/
theorem candidates_draw {σ : Type} (next : σ → Fin 36 × σ) (len retry : Nat) (l : List Candidate) (g : σ) :
    (draw next len retry l g).1.items.map (·.candidate) = Candidate.collapse l :=
  candidates_assign next len retry [] _ g

/-- The labels that a source of letters gives to so many candidates. -/
def labels {σ : Type} (next : σ → Fin 36 × σ) (len retry : Nat) : (taken : List String) → Nat → σ → List String
  | _, 0, _         => []
  | taken, n + 1, g =>
    let d := Label.fresh next taken len retry g
    d.1 :: labels next len retry (d.1 :: taken) n d.2

theorem assign_eq_zipWith {σ : Type} (next : σ → Fin 36 × σ) (len retry : Nat) :
    ∀ (taken : List String) (l : List Candidate) (g : σ), (assign next len retry taken l g).1 =
      List.zipWith Labelled.mk (labels next len retry taken l.length g) l
  | _, [], _         => rfl
  | taken, c :: l, g => by
    rw [assign, List.length_cons, labels, List.zipWith_cons_cons, assign_eq_zipWith next len retry _ l]

/-- **A ballot is drawn by its labels**: of the letters nothing else matters. -/
theorem draw_congr {σ τ : Type} {next : σ → Fin 36 × σ} {next' : τ → Fin 36 × τ} {len retry : Nat} {g : σ} {g' : τ}
    (h : ∀ n, labels next len retry [] n g = labels next' len retry [] n g') (l : List Candidate) :
    (draw next len retry l g).1 = (draw next' len retry l g').1 := by
  have hitems := assign_eq_zipWith next len retry [] (Candidate.collapse l) g
  have hitems' := assign_eq_zipWith next' len retry [] (Candidate.collapse l) g'
  exact congrArg Ballot.mk (by rw [hitems, hitems', h])

/-! ## Who wins -/

variable {b : Ballot} {votes : List String} {c : Labelled}

theorem get?_isSome_iff {v : String} : (b.get? v).isSome = true ↔ ∃ c ∈ b.items, c.label = canonical v := by
  rw [get?, List.find?_isSome]
  simp only [beq_iff_eq]

theorem mem_of_get? {v : String} (h : b.get? v = some c) : c ∈ b.items := List.mem_of_find?_eq_some h

theorem count_pos_iff : 0 < b.count votes c ↔ ∃ v ∈ votes, (b.get? v).map (·.label) = some c.label := by
  rw [count, List.countP_pos_iff]
  simp only [beq_iff_eq]

theorem isSome_larger (best : Labelled) (c : Labelled) : (larger (some best) c).isSome = true := by
  unfold larger
  dsimp only
  split <;> rfl

/-- Some candidate is the largest of some. -/
theorem isSome_foldl_larger {l : List Labelled} (hl : l ≠ []) : (l.foldl larger none).isSome = true := by
  cases l with
  | nil => exact absurd rfl hl
  | cons c l =>
    have hstart : (larger none c).isSome = true := rfl
    refine List.foldlRecOn (motive := fun best => best.isSome = true) l larger hstart fun best hbest d _ => ?_
    obtain ⟨c, rfl⟩ := Option.isSome_iff_exists.1 hbest
    exact isSome_larger c d

/-- The most votes that a candidate has. -/
def most (b : Ballot) (votes : List String) : Nat := (b.items.map (b.count votes)).foldl max 0

theorem winner_eq (b : Ballot) (votes : List String) : b.winner votes = if b.most votes = 0 then none
    else (b.items.filter fun c => b.count votes c == b.most votes).foldl larger none := rfl

theorem most_eq (b : Ballot) (votes : List String) : b.most votes = (b.items.map (b.count votes)).max?.getD 0 := by
  rw [most, List.foldl_max, Nat.zero_max]

theorem count_le_most (hc : c ∈ b.items) : b.count votes c ≤ b.most votes := by
  rw [most_eq]
  exact List.le_max?_getD_of_mem (List.mem_map_of_mem hc)

/-- Most votes are somebody's, unless nobody has any. -/
theorem exists_count_eq_most (h : b.most votes ≠ 0) : ∃ c ∈ b.items, b.count votes c = b.most votes := by
  rw [most_eq] at h ⊢
  cases hmax : (b.items.map (b.count votes)).max? with
  | none =>
    rw [hmax] at h
    exact absurd rfl h
  | some most => exact List.mem_map.1 (List.max?_eq_some_iff.1 hmax).1

/-- **Somebody wins exactly if a vote names a candidate.** -/
theorem winner_isSome_iff : (b.winner votes).isSome = true ↔ ∃ v ∈ votes, (b.get? v).isSome = true := by
  rw [winner_eq]
  by_cases hzero : b.most votes = 0
  · rw [if_pos hzero]
    constructor
    · intro h
      cases h
    · rintro ⟨v, hv, hnames⟩
      obtain ⟨c, hc⟩ := Option.isSome_iff_exists.1 hnames
      have hpos : 0 < b.count votes c := count_pos_iff.2 ⟨v, hv, by rw [hc]; rfl⟩
      have hle : b.count votes c ≤ b.most votes := count_le_most (mem_of_get? hc)
      omega
  · obtain ⟨c, hc, hcount⟩ := exists_count_eq_most hzero
    rw [if_neg hzero]
    constructor
    · intro _
      obtain ⟨v, hv, hlabel⟩ := count_pos_iff.1 (hcount ▸ Nat.pos_of_ne_zero hzero)
      obtain ⟨d, hd, -⟩ := Option.map_eq_some_iff.1 hlabel
      exact ⟨v, hv, by rw [hd]; rfl⟩
    · intro _
      exact isSome_foldl_larger (List.ne_nil_of_mem (List.mem_filter.2 ⟨hc, beq_iff_eq.2 hcount⟩))

end Ballot
end Pinpoint
