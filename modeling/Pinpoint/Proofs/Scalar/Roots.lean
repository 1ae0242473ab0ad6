import Mathlib.Analysis.Real.Sqrt
import Pinpoint.Proofs.Scalar.Finite
import Pinpoint.Proofs.Scalar.Order
/-!
# Roots — exact arithmetic with exact roots

The rationals have no root of two, so that a statement that hangs on how large a root is takes arithmetic in which the
root of a real number is its real root (`ExactRoots`).  The real numbers are one such; they come as a type of their own, so
that `ℝ` keeps the order and the arithmetic it has.
-/
namespace Pinpoint
namespace Scalar

/-- **Roots that do not round either.** -/
class ExactRoots (α : Type) [Scalar α] [Exact α] : Prop where
  sqrt {a : α} {r : ℝ} : Is a r → 0 ≤ r → Is (sqrt a) (Real.sqrt r)

instance {α : Type} [Scalar α] [Exact α] [ExactRoots α] : Roots α where
  exists_nonneg ha h := ⟨_, ExactRoots.sqrt ha h, Real.sqrt_nonneg _⟩
  exists_pos ha h    := ⟨_, ExactRoots.sqrt ha h.le, Real.sqrt_pos.2 h⟩

/-! ## Real numbers -/

/-- A real number to calculate with. -/
structure Precise where
  val : ℝ

noncomputable instance : Scalar Precise where
  add a b            := ⟨a.val + b.val⟩
  sub a b            := ⟨a.val - b.val⟩
  mul a b            := ⟨a.val * b.val⟩
  div a b            := ⟨a.val / b.val⟩
  neg a              := ⟨-a.val⟩
  lt a b             := a.val < b.val
  le a b             := a.val ≤ b.val
  decidableLT _ _    := Classical.propDecidable _
  decidableLE _ _    := Classical.propDecidable _
  ofInt n            := ⟨n⟩
  ofDecimal neg m e  := ⟨(Scalar.ofDecimal neg m e : ℚ)⟩
  sqrt a             := ⟨Real.sqrt a.val⟩
  floor a            := ⟨⌊a.val⌋⟩
  ceil a             := ⟨⌈a.val⌉⟩
  round a            := ⟨nearest a.val⟩
  toInt lo hi a      := Max.max lo (Min.min hi (wholePart a.val))
  isFinite _         := true

theorem Precise.ofDecimal_eq (neg : Bool) (m : Nat) (e : Int) : isFinite (ofDecimal neg m e : Precise) = true ∧
    (ofDecimal neg m e : Precise).val = (if neg then -1 else 1) * m * (10 : ℝ) ^ e :=
  ⟨rfl, (Exact.ofDecimal (α := ℚ) neg m e).2⟩

noncomputable instance : Exact Precise where
  val               := Precise.val
  ofInt _           := ⟨rfl, rfl⟩
  ofDecimal         := Precise.ofDecimal_eq
  add _ _           := ⟨rfl, rfl⟩
  sub _ _           := ⟨rfl, rfl⟩
  mul _ _           := ⟨rfl, rfl⟩
  div _ _ _         := ⟨rfl, rfl⟩
  neg _             := ⟨rfl, rfl⟩
  floor _           := ⟨rfl, rfl⟩
  ceil _            := ⟨rfl, rfl⟩
  round _           := ⟨rfl, rfl⟩
  toInt _ _ _       := rfl
  lt _ _            := Iff.rfl
  le _ _            := Iff.rfl
  beyond ha _       := by cases ha

instance : Ordered Precise where
  finite {a} _        := le_refl a.val
  total {a b} _ _     := le_total a.val b.val
  trans {a b c} h h'  := le_trans (a := a.val) (b := b.val) (c := c.val) h h'
  lt_iff {a b} _ _    := (not_le (a := b.val) (b := a.val)).symm

instance : Widening Precise Precise := ⟨id, id⟩

instance : Lossless Precise Precise := ⟨id, id⟩

instance : ExactRoots Precise where
  sqrt := by
    rintro a _ ⟨-, rfl⟩ -
    exact is_val rfl

end Scalar
end Pinpoint
