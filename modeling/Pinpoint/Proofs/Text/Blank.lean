import Mathlib.Data.List.TakeWhile
import Pinpoint.Text.Blank
/-!
# Blank — what trimming takes off

A text with no blank at either end is trimmed already (`trimChars_of_tight`), every trimmed text is one (`tight_trimChars`),
and blanks put around a text are trimmed again (`trimChars_pad`).
-/
namespace Pinpoint
namespace Text

variable {c : Char} {cs pre post : List Char}

/-- **No blank at either end.** -/
def Tight (cs : List Char) : Prop := (∀ c ∈ cs.head?, isBlank c = false) ∧ ∀ c ∈ cs.getLast?, isBlank c = false

theorem dropWhile_of_head? (h : ∀ c ∈ cs.head?, isBlank c = false) : cs.dropWhile isBlank = cs := by
  cases cs with
  | nil => rfl
  | cons c cs =>
    have hc : isBlank c = false := h c rfl
    rw [List.dropWhile_cons_of_neg (by simp [hc])]

theorem trimChars_of_tight (h : Tight cs) : trimChars cs = cs := by
  have hback : ∀ c ∈ cs.reverse.head?, isBlank c = false := by
    rw [List.head?_reverse]
    exact h.2
  unfold trimChars
  rw [dropWhile_of_head? h.1, dropWhile_of_head? hback, List.reverse_reverse]

theorem head?_dropWhile_isBlank (cs : List Char) : ∀ c ∈ (cs.dropWhile isBlank).head?, isBlank c = false := by
  intro c hc
  have hnot := List.head?_dropWhile_not isBlank cs
  rw [Option.mem_def.1 hc] at hnot
  simpa using hnot

theorem tight_trimChars (cs : List Char) : Tight (trimChars cs) := by
  obtain ⟨ts, hts⟩ : trimChars cs <+: cs.dropWhile isBlank := by
    have hsuffix := List.dropWhile_suffix (l := (cs.dropWhile isBlank).reverse) isBlank
    rwa [← List.reverse_prefix, List.reverse_reverse] at hsuffix
  constructor
  · intro c hc
    refine head?_dropWhile_isBlank cs c ?_
    rw [← hts, List.head?_append, Option.mem_def.1 hc]
    rfl
  · rw [trimChars, List.getLast?_reverse]
    exact head?_dropWhile_isBlank _

theorem mem_of_mem_trimChars (h : c ∈ trimChars cs) : c ∈ cs := by
  rw [trimChars, List.mem_reverse] at h
  have h' := (List.dropWhile_suffix isBlank).subset h
  rw [List.mem_reverse] at h'
  exact (List.dropWhile_suffix isBlank).subset h'

/-- **Blanks at the ends are trimmed.** -/
theorem trimChars_pad (hpre : ∀ c ∈ pre, isBlank c = true) (hpost : ∀ c ∈ post, isBlank c = true) :
    trimChars (pre ++ cs ++ post) = trimChars cs := by
  have hback : ∀ c ∈ post.reverse, isBlank c = true := fun c hc => hpost c (List.mem_reverse.1 hc)
  unfold trimChars
  rw [List.append_assoc, List.dropWhile_append_of_pos hpre, List.dropWhile_append]
  by_cases hblank : cs.dropWhile isBlank = []
  · have hnone : post.dropWhile isBlank = [] := List.dropWhile_eq_nil_iff.2 hpost
    simp [hblank, hnone]
  · rw [if_neg (by simpa using hblank), List.reverse_append, List.dropWhile_append_of_pos hback]

end Text
end Pinpoint
