import Mathlib.Data.Rat.Floor
import Pinpoint.Proofs.Scalar.Exact
/-!
# Order — numbers in a line

A value is a number if it is at most itself.  `Ordered α` says that the numbers of a type stand in a line, finite ones
or not, and that being less is not being at least; nothing is said of how numbers are computed, so that it holds of
rounding arithmetic as well.  It is all that taking the best of some scores depends on.  `Contracting α` is what such
arithmetic keeps of a factor that is at most one.
-/
namespace Pinpoint
namespace Scalar

/-- **Numbers stand in a line**; values without a place in it are compared to nothing. -/
class Ordered (α : Type) [Scalar α] : Prop where
  finite {a : α} : isFinite a = true → a ≤ a
  total {a b : α} : a ≤ a → b ≤ b → a ≤ b ∨ b ≤ a
  trans {a b c : α} : a ≤ b → b ≤ c → a ≤ c
  lt_iff {a b : α} : a ≤ a → b ≤ b → (a < b ↔ ¬ b ≤ a)

instance : Ordered ℚ where
  finite {a} _   := Rat.le_refl (a := a)
  total {a b} _ _ := Rat.le_total (a := a) (b := b)
  trans {_ _ _}  := Rat.le_trans
  lt_iff _ _     := Rat.not_le.symm

/-- **A factor of at most one makes no count larger**, however products are rounded. -/
class Contracting (α : Type) [Scalar α] : Prop where
  not_lt_mul {a : α} (n : Nat) : a ≤ ofInt 1 → ¬ ofNat n < a * ofNat n

instance : Contracting ℚ where
  not_lt_mul {a} n h := by
    have hn : (0 : ℚ) ≤ (n : Int) := Int.cast_nonneg (Int.natCast_nonneg n)
    exact not_lt.2 (mul_le_of_le_one_left hn (le_of_le_of_eq h Int.cast_one))

variable {α : Type} [Scalar α] {a b : α}

theorem isNaN_of_le (ha : a ≤ a) : isNaN a = false := by
  simp [isNaN, ha]

namespace Ordered

variable [Ordered α]

theorem not_lt_iff (ha : a ≤ a) (hb : b ≤ b) : ¬ a < b ↔ b ≤ a := by
  rw [lt_iff ha hb, Decidable.not_not]

theorem le_of_lt (ha : a ≤ a) (hb : b ≤ b) (h : a < b) : a ≤ b :=
  (total ha hb).resolve_right ((lt_iff ha hb).1 h)

/-- **The larger of two numbers** is one of them and at least both. -/
theorem max_spec (ha : a ≤ a) (hb : b ≤ b) :
    (Scalar.max a b = a ∨ Scalar.max a b = b) ∧ a ≤ Scalar.max a b ∧ b ≤ Scalar.max a b := by
  unfold Scalar.max
  rw [isNaN_of_le ha, isNaN_of_le hb, if_neg Bool.false_ne_true, if_neg Bool.false_ne_true]
  split
  · rename_i h
    exact ⟨Or.inr rfl, le_of_lt ha hb h, hb⟩
  · rename_i h
    exact ⟨Or.inl rfl, ha, (not_lt_iff ha hb).1 h⟩

/-- The largest of some numbers, each compared with the one so far. -/
theorem foldl_max_spec (l : List α) (hl : ∀ b ∈ l, b ≤ b) (ha : a ≤ a) :
    l.foldl Scalar.max a ∈ a :: l ∧ ∀ b ∈ a :: l, b ≤ l.foldl Scalar.max a := by
  induction l generalizing a with
  | nil => simpa using ha
  | cons b l ih =>
    obtain ⟨hb, hl⟩ := List.forall_mem_cons.1 hl
    obtain ⟨hone, hale, hble⟩ := max_spec ha hb
    have hmax : Scalar.max a b ≤ Scalar.max a b := by
      rcases hone with h | h
      · rw [h]
        exact ha
      · rw [h]
        exact hb
    obtain ⟨hmem, hall⟩ := ih hl hmax
    obtain ⟨hhead, htail⟩ := List.forall_mem_cons.1 hall
    rw [List.foldl_cons]
    constructor
    · rcases List.mem_cons.1 hmem with h | h
      · rw [h]
        rcases hone with h | h <;> simp [h]
      · simp [h]
    · rw [List.forall_mem_cons, List.forall_mem_cons]
      exact ⟨trans hale hhead, trans hble hhead, htail⟩

end Ordered
end Scalar
end Pinpoint
