import Mathlib.Data.Prod.Lex
import Mathlib.Order.Compare
import Pinpoint.Proofs.Scalar.Order
/-!
# Binary — floating-point numbers stand in a line

Lean compares two floating-point numbers by sign, exponent and mantissa.  A number has a place in the line (`rank`): both
zeros have the same, the infinities are its two ends, and what is not a number has none.  Numbers are compared as their
places are (`compare_eq`), so that single and double precision are `Ordered`.
-/
namespace Pinpoint
namespace Scalar

open Float.Model (UnpackedFloat)
open Float.Model.UnpackedFloat (Sign)

/-- **The place of a number in the line**: on which side of zero it is, and how far out. -/
def rank : UnpackedFloat → Option (Int ×ₗ Int ×ₗ Int)
  | .notANumber             => none
  | .infinity .negative     => some (toLex (-2, toLex (0, 0)))
  | .finite .negative m e _ => some (toLex (-1, toLex (-e, -m)))
  | .zero _                 => some (toLex (0, toLex (0, 0)))
  | .finite .positive m e _ => some (toLex (1, toLex (e, m)))
  | .infinity .positive     => some (toLex (2, toLex (0, 0)))

theorem compare_toLex (s t e f m n : Int) : compare (toLex (s, toLex (e, m))) (toLex (t, toLex (f, n))) =
    (compare s t).then ((compare e f).then (compare m n)) := rfl

theorem compare_neg (a b : Int) : compare (-a) (-b) = (compare a b).swap := by
  rcases lt_trichotomy a b with h | rfl | h
  · rw [compare_gt_iff_gt.2 (neg_lt_neg h), compare_lt_iff_lt.2 h]
    rfl
  · simp
  · rw [compare_lt_iff_lt.2 (neg_lt_neg h), compare_gt_iff_gt.2 h]
    rfl

theorem compare_natCast (m n : Nat) : compare (m : Int) n = compare m n := by
  rcases lt_trichotomy m n with h | rfl | h
  · rw [compare_lt_iff_lt.2 h, compare_lt_iff_lt.2 (Int.ofNat_lt.2 h)]
  · simp
  · rw [compare_gt_iff_gt.2 h, compare_gt_iff_gt.2 (Int.ofNat_lt.2 h)]

/-- **Numbers are compared as their places are**, and what is not a number is not compared. -/
theorem compare_eq (a b : UnpackedFloat) : a.compare b = (rank a).bind fun p => (rank b).map (compare p) := by
  -- both signs of both; only two finite numbers of one sign are told apart by exponent and mantissa
  rcases a with s | _ | s | ⟨s, m, e, hm⟩ <;> rcases b with t | _ | t | ⟨t, n, f, hn⟩ <;>
    (try cases s) <;> (try cases t) <;>
    dsimp only [UnpackedFloat.compare, rank, Option.bind_some, Option.bind_none, Option.map_some, Option.map_none] <;>
    simp only [compare_toLex, compare_neg, compare_natCast, Ordering.swap_then] <;>
    rfl

variable {a b : UnpackedFloat}

theorem le_iff_rank : a.le b = true ↔ ∃ p ∈ rank a, ∃ q ∈ rank b, p ≤ q := by
  rw [UnpackedFloat.le, compare_eq]
  cases ha : rank a <;> cases hb : rank b <;> simp [Ordering.isLE_iff_ne_gt, compare_gt_iff_gt]

theorem lt_iff_rank : a.lt b = true ↔ ∃ p ∈ rank a, ∃ q ∈ rank b, p < q := by
  rw [UnpackedFloat.lt, compare_eq]
  cases ha : rank a <;> cases hb : rank b <;> simp [compare_lt_iff_lt]

theorem exists_rank_of_le_self (h : a.le a = true) : ∃ p, rank a = some p := by
  obtain ⟨p, hp, -⟩ := le_iff_rank.1 h
  exact ⟨p, hp⟩

theorem le_self_of_isFinite (h : a.isFinite = true) : a.le a = true := by
  rw [le_iff_rank]
  rcases a with s | _ | s | ⟨s, m, e, hm⟩
  · cases h
  · cases h
  · exact ⟨_, rfl, _, rfl, le_rfl⟩
  · cases s
    · exact ⟨_, rfl, _, rfl, le_rfl⟩
    · exact ⟨_, rfl, _, rfl, le_rfl⟩

/-- **Numbers that are compared as their places are** stand in a line. -/
theorem Ordered.ofUnpacked {α : Type} [Scalar α] (f : α → UnpackedFloat) (hle : ∀ a b, a ≤ b ↔ (f a).le (f b) = true)
    (hlt : ∀ a b, a < b ↔ (f a).lt (f b) = true) (hfinite : ∀ a, isFinite a = (f a).isFinite) : Ordered α where
  finite {a} h := (hle a a).2 (le_self_of_isFinite (hfinite a ▸ h))
  total {a b} ha hb := by
    obtain ⟨p, hp⟩ := exists_rank_of_le_self ((hle a a).1 ha)
    obtain ⟨q, hq⟩ := exists_rank_of_le_self ((hle b b).1 hb)
    rw [hle, hle, le_iff_rank, le_iff_rank]
    rcases le_total p q with h | h
    · exact Or.inl ⟨p, hp, q, hq, h⟩
    · exact Or.inr ⟨q, hq, p, hp, h⟩
  trans {a b c} hab hbc := by
    rw [hle, le_iff_rank] at hab hbc ⊢
    obtain ⟨p, hp, q, hq, hpq⟩ := hab
    obtain ⟨q', hq', r, hr, hqr⟩ := hbc
    obtain rfl := Option.some.inj (hq.symm.trans hq')
    exact ⟨p, hp, r, hr, hpq.trans hqr⟩
  lt_iff {a b} ha hb := by
    obtain ⟨p, hp⟩ := exists_rank_of_le_self ((hle a a).1 ha)
    obtain ⟨q, hq⟩ := exists_rank_of_le_self ((hle b b).1 hb)
    rw [hlt, hle, lt_iff_rank, le_iff_rank, hp, hq]
    simp

instance : Ordered Float32 :=
  .ofUnpacked (fun a => a.toModel.unpack) (fun _ _ => decide_eq_true_iff) (fun _ _ => decide_eq_true_iff) fun _ => rfl

instance : Ordered Float :=
  .ofUnpacked (fun a => a.toModel.unpack) (fun _ _ => decide_eq_true_iff) (fun _ _ => decide_eq_true_iff) fun _ => rfl

end Scalar
end Pinpoint
