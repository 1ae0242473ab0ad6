import Mathlib.Data.Nat.Find
import Mathlib.Logic.Function.Iterate
import Pinpoint.Proofs.Label.Fresh
/-!
# Tries — how long it takes to find a label

What is tried does not depend on what is taken: so many words of one length, one after the other, then as many that are a
letter longer (`length_tried`).  A label is the first of them that nobody has taken (`Try.search_eq`).  Words that are longer
than every taken one are free, which bounds the tries and the length of the label however the letters fall
(`fresh_first`).
-/
namespace Pinpoint
namespace Label

/-- **A word about to be tried**: its length, how many more of that length follow, and the draws it is made of. -/
structure Try (σ : Type) where
  len   : Nat
  left  : Nat
  draws : σ

variable {σ : Type} (next : σ → Fin 36 × σ)

namespace Try

def word (t : Try σ) : String := String.ofList (draw next t.len t.draws).1

/-- What is tried next when a word is taken; `more` words of a length follow its first one. -/
def again (more : Nat) (t : Try σ) : Try σ :=
  match t.left with
  | left + 1 => ⟨t.len, left, (draw next t.len t.draws).2⟩
  | 0        => ⟨t.len + 1, more, (draw next t.len t.draws).2⟩

/-- The search for a label that begins with a try. -/
def search (taken : List String) (more : Nat) (t : Try σ) : String × σ := freshFrom next taken more t.len t.left t.draws

variable {next} {taken : List String} {more len n : Nat} {t : Try σ}

theorem length_word (t : Try σ) : (t.word next).length = t.len := by
  rw [word, String.length_ofList, length_draw]

theorem search_of_mem (h : t.word next ∈ taken) : t.search next taken more = (t.again next more).search next taken more := by
  obtain ⟨len, left, draws⟩ := t
  unfold word at h
  rw [search, freshFrom.eq_def, dif_pos h]
  cases left <;> rfl

theorem search_of_not_mem (h : t.word next ∉ taken) : (t.search next taken more).1 = t.word next := by
  unfold word at h
  rw [search, freshFrom.eq_def, dif_neg h]
  rfl

/-- **The search ends at the first word that is not taken.** -/
theorem search_eq (h : ∀ m < n, ((again next more)^[m] t).word next ∈ taken)
    (hn : ((again next more)^[n] t).word next ∉ taken) :
    (t.search next taken more).1 = ((again next more)^[n] t).word next := by
  induction n generalizing t with
  | zero      => exact search_of_not_mem hn
  | succ n ih =>
    have hfirst : t.word next ∈ taken := h 0 n.succ_pos
    rw [search_of_mem hfirst, Function.iterate_succ_apply]
    exact ih (fun m hm => h (m + 1) (Nat.succ_lt_succ hm)) hn

/-- After `n` tries that began with a first word of `len` letters. -/
def After (more len n : Nat) (t : Try σ) : Prop :=
  t.left ≤ more ∧ n + t.left + len * (more + 1) = t.len * (more + 1) + more

theorem After.again (h : After more len n t) : After more len (n + 1) (t.again next more) := by
  obtain ⟨len', left, draws⟩ := t
  obtain ⟨hleft, hn⟩ := h
  cases left with
  | zero =>
    refine ⟨Nat.le_refl more, ?_⟩
    show n + 1 + more + len * (more + 1) = (len' + 1) * (more + 1) + more
    rw [Nat.succ_mul]
    dsimp only at hn
    omega
  | succ left =>
    refine ⟨Nat.le_of_succ_le hleft, ?_⟩
    show n + 1 + left + len * (more + 1) = len' * (more + 1) + more
    dsimp only at hn
    omega

theorem after_iterate (more len : Nat) (s : σ) (n : Nat) : After more len n ((again next more)^[n] ⟨len, more, s⟩) := by
  induction n with
  | zero      => exact ⟨Nat.le_refl more, by simp [Nat.add_comm]⟩
  | succ n ih =>
    rw [Function.iterate_succ_apply']
    exact ih.again

theorem After.len_eq (h : After more len n t) : t.len = len + n / (more + 1) := by
  obtain ⟨hleft, hn⟩ := h
  have hle : len ≤ t.len := by
    by_contra hlt
    have := Nat.mul_le_mul_right (more + 1) (Nat.lt_of_not_le hlt)
    rw [Nat.succ_mul] at this
    omega
  obtain ⟨k, hk⟩ := Nat.exists_eq_add_of_le hle
  rw [hk, Nat.add_mul] at hn
  have hdiv : n / (more + 1) = k := by
    rw [Nat.div_eq_iff (Nat.succ_pos more), Nat.succ_eq_add_one]
    omega
  rw [hk, hdiv]

end Try

/-- **The `n`-th word that is tried**, `tries` of every length from `len` on. -/
def tried (tries len : Nat) (s : σ) (n : Nat) : String := ((Try.again next (tries - 1))^[n] ⟨len, tries - 1, s⟩).word next

variable {next}

theorem length_tried {tries : Nat} (htries : 0 < tries) (len : Nat) (s : σ) (n : Nat) :
    (tried next tries len s n).length = len + n / tries := by
  rw [tried, Try.length_word, (Try.after_iterate (tries - 1) len s n).len_eq, Nat.sub_add_cancel htries]

theorem letter_spelled (i : Fin 36) :
    'a' ≤ letter i ∧ letter i ≤ 'z' ∨ '0' ≤ letter i ∧ letter i ≤ '9' := by
  revert i
  decide

theorem tried_not_mem {taken : List String} {tries len : Nat} (htries : 0 < tries) (s : σ) :
    tried next tries len s (tries * (longest taken + 1 - len)) ∉ taken := by
  intro h
  have hle := length_le_longest h
  rw [length_tried htries, Nat.mul_div_cancel_left _ htries] at hle
  omega

/-- **A fresh label is the first word that nobody has taken**, whatever is drawn: so many words are tried of every length
from the one asked for on, and no more than that of any length up to that of the longest taken label. -/
theorem fresh_first (next : σ → Fin 36 × σ) (taken : List String) (len retry : Nat) (s : σ) :
    let label := (fresh next taken len retry s).1
    let word := tried next (max retry 1) (max len 1) s
    (∀ c ∈ label.toList, 'a' ≤ c ∧ c ≤ 'z' ∨ '0' ≤ c ∧ c ≤ '9') ∧ label ∉ taken ∧
    max len 1 ≤ label.length ∧ label.length ≤ max (max len 1) (longest taken + 1) ∧
    (∃ n ≤ max retry 1 * (longest taken + 1 - max len 1), label = word n ∧ ∀ m < n, word m ∈ taken) ∧
    ∀ k, label.length = max len 1 + k → ∀ j < k, ∀ i < max retry 1,
      (word (j * max retry 1 + i)).length = max len 1 + j ∧ word (j * max retry 1 + i) ∈ taken := by
  intro label word
  have htries : 0 < max retry 1 := Nat.lt_of_lt_of_le Nat.one_pos (Nat.le_max_right _ _)
  have hlength : ∀ n, (word n).length = max len 1 + n / max retry 1 := length_tried htries _ s
  have hfree : ∃ n, word n ∉ taken := ⟨_, tried_not_mem htries s⟩
  -- the first free word is the label
  have hbefore : ∀ m < Nat.find hfree, word m ∈ taken := fun m hm => not_not.1 (Nat.find_min hfree hm)
  have hlabel : label = word (Nat.find hfree) := Try.search_eq hbefore (Nat.find_spec hfree)
  have hbound : Nat.find hfree ≤ max retry 1 * (longest taken + 1 - max len 1) :=
    Nat.find_min' hfree (tried_not_mem htries s)
  have hgrown : Nat.find hfree / max retry 1 ≤ longest taken + 1 - max len 1 := by
    have := Nat.div_le_div_right (c := max retry 1) hbound
    rwa [Nat.mul_div_cancel_left _ htries] at this
  refine ⟨fun c hc => ?_, fresh_not_mem next taken len retry s, ?_, ?_, ⟨_, hbound, hlabel, hbefore⟩, ?_⟩
  · obtain ⟨i, rfl⟩ := exists_letter_of_mem_fresh next taken len retry s c hc
    exact letter_spelled i
  · rw [hlabel, hlength]
    exact Nat.le_add_right _ _
  · rw [hlabel, hlength]
    omega
  · intro k hk j hj i hi
    rw [hlabel, hlength] at hk
    have hdiv : (j * max retry 1 + i) / max retry 1 = j := by
      rw [Nat.mul_comm, Nat.mul_add_div htries, Nat.div_eq_of_lt hi, Nat.add_zero]
    refine ⟨by rw [hlength, hdiv], hbefore _ (Nat.lt_of_div_lt_div (c := max retry 1) ?_)⟩
    rw [hdiv]
    omega

end Label
end Pinpoint
