import Pinpoint.Random
/-!
# Label — short names nobody has taken

A label is a word over the 36 letters and digits.  Drawing goes on at one length for a number of tries and then at the
next length; it ends because no taken label is longer than the longest one.
-/
namespace Pinpoint
namespace Label

/-- The letters a label is written in. -/
def letter (i : Fin 36) : Char := if i.val < 26 then Char.ofNat (97 + i.val) else Char.ofNat (22 + i.val)

variable {σ : Type}

def draw (next : σ → Fin 36 × σ) : Nat → σ → List Char × σ
  | 0, g     => ([], g)
  | k + 1, g =>
    let c := next g
    let w := draw next k c.2
    (letter c.1 :: w.1, w.2)

theorem length_draw (next : σ → Fin 36 × σ) (k : Nat) (g : σ) : (draw next k g).1.length = k := by
  induction k generalizing g with
  | zero => rfl
  | succ k ih => simp [draw, ih]

def longest (taken : List String) : Nat := (taken.map String.length).foldr max 0

theorem length_le_longest {taken : List String} {s : String} (h : s ∈ taken) : s.length ≤ longest taken := by
  induction taken with
  | nil => cases h
  | cons t l ih =>
    simp only [longest, List.map_cons, List.foldr_cons] at ih ⊢
    rcases List.mem_cons.1 h with rfl | h
    · exact Nat.le_max_left _ _
    · exact Nat.le_trans (ih h) (Nat.le_max_right _ _)

/-- A label not in `taken`: `left` more tries at `len` letters, then `tries` at every greater length. -/
def freshFrom (next : σ → Fin 36 × σ) (taken : List String) (tries len left : Nat) (g : σ) : String × σ :=
  let w := draw next len g
  let label := String.ofList w.1
  if _ : label ∈ taken then
    match left with
    | left + 1 => freshFrom next taken tries len left w.2
    | 0        => freshFrom next taken tries (len + 1) tries w.2
  else (label, w.2)
termination_by (longest taken + 1 - len, left)
decreasing_by
  · exact Prod.Lex.right _ (Nat.lt_succ_self _)
  · refine Prod.Lex.left _ _ ?_
    have := length_le_longest ‹label ∈ taken›
    simp only [label, w, String.length_ofList, length_draw] at this
    omega

/-- **A label not in `taken`**, of `len` letters or as many more as it takes; `retry` tries a length. -/
def fresh (next : σ → Fin 36 × σ) (taken : List String) (len retry : Nat) (g : σ) : String × σ :=
  freshFrom next taken (max retry 1 - 1) (max len 1) (max retry 1 - 1) g

/-- Letters drawn evenly from a seeded generator. -/
def nextLetter (g : Random) : Fin 36 × Random := let d := g.below64 36; (Fin.ofNat 36 d.1, d.2)

end Label
end Pinpoint
