import Pinpoint.Label
/-!
# Fresh — what a drawn label looks like

However the letters fall, a fresh label is a word that nobody has taken, drawn at the length asked for or at a greater
one (`fresh_drawn`); so it is not empty and has nothing but letters and digits.
-/
namespace Pinpoint
namespace Label

variable {σ : Type} (next : σ → Fin 36 × σ)

theorem exists_letter_of_mem_draw {c : Char} : ∀ (k : Nat) (g : σ), c ∈ (draw next k g).1 → ∃ i, c = letter i
  | 0, _, h     => by cases h
  | k + 1, g, h => by
    rcases List.mem_cons.1 h with rfl | h
    · exact ⟨_, rfl⟩
    · exact exists_letter_of_mem_draw k _ h

theorem freshFrom_drawn (taken : List String) (tries len left : Nat) (g : σ) :
    (freshFrom next taken tries len left g).1 ∉ taken ∧
      ∃ k g', len ≤ k ∧ (freshFrom next taken tries len left g).1 = String.ofList (draw next k g').1 := by
  fun_induction freshFrom next taken tries len left g with
  | case1 len g w label _ left ih => exact ih
  | case2 len g w label _ ih =>
    obtain ⟨hnew, k, g', hk, hword⟩ := ih
    exact ⟨hnew, k, g', Nat.le_of_succ_le hk, hword⟩
  | case3 len left g w label hnew => exact ⟨hnew, len, g, Nat.le_refl len, rfl⟩

/-- **A fresh label is a new word** of the length asked for or a greater one. -/
theorem fresh_drawn (taken : List String) (len retry : Nat) (g : σ) :
    (fresh next taken len retry g).1 ∉ taken ∧
      ∃ k g', max len 1 ≤ k ∧ (fresh next taken len retry g).1 = String.ofList (draw next k g').1 :=
  freshFrom_drawn next taken (max retry 1 - 1) (max len 1) (max retry 1 - 1) g

theorem fresh_not_mem (taken : List String) (len retry : Nat) (g : σ) : (fresh next taken len retry g).1 ∉ taken :=
  (fresh_drawn next taken len retry g).1

theorem exists_letter_of_mem_fresh (taken : List String) (len retry : Nat) (g : σ) :
    ∀ c ∈ (fresh next taken len retry g).1.toList, ∃ i, c = letter i := by
  obtain ⟨-, k, g', -, hword⟩ := fresh_drawn next taken len retry g
  rw [hword, String.toList_ofList]
  exact fun c hc => exists_letter_of_mem_draw next k g' hc

theorem fresh_ne_empty (taken : List String) (len retry : Nat) (g : σ) : (fresh next taken len retry g).1 ≠ "" := by
  obtain ⟨-, k, g', hk, hword⟩ := fresh_drawn next taken len retry g
  intro hempty
  have hlength : (fresh next taken len retry g).1.length = k := by
    rw [hword, String.length_ofList, length_draw]
  rw [hempty, String.length_empty] at hlength
  omega

end Label
end Pinpoint
