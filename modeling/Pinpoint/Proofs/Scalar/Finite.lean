import Pinpoint.Proofs.Scalar.Exact
/-!
# Finite — values that stay finite

In exact arithmetic no sum and no product of finite values overflows.  Two more things are assumed where they are used,
both of which hold of arithmetic that rounds as well: a narrow number is a wide one and back again, and the root of a
number that is not negative is one that is not, and positive where that one is.
-/
namespace Pinpoint
namespace Scalar

/-- **Roots of numbers that are not negative**; how exact they are is left open. -/
class Roots (α : Type) [Scalar α] [Exact α] : Prop where
  exists_nonneg {a : α} {r : ℝ} : Is a r → 0 ≤ r → ∃ s, Is (sqrt a) s ∧ 0 ≤ s
  exists_pos {a : α} {r : ℝ} : Is a r → 0 < r → ∃ s, Is (sqrt a) s ∧ 0 < s

/-- **Nothing is lost between narrow and wide numbers.** -/
class Lossless (ν ω : Type) [Scalar ν] [Scalar ω] [Exact ν] [Exact ω] [Widening ν ω] : Prop where
  widen {a : ν} {r : ℝ} : Is a r → Is (Widening.widen a : ω) r
  narrow {a : ω} {r : ℝ} : Is a r → Is (Widening.narrow a : ν) r

section
variable {α : Type} [Scalar α] [Exact α] {a b : α}

theorem is_val (ha : isFinite a = true) : Is a (Exact.val a) := ⟨ha, rfl⟩

theorem isFinite_ofInt (n : Int) : isFinite (ofInt n : α) = true := (Exact.ofInt n).1
theorem isFinite_ofNat (n : Nat) : isFinite (ofNat n : α) = true := (Is.ofNat n).1
theorem isFinite_add (ha : isFinite a = true) (hb : isFinite b = true) : isFinite (a + b) = true := (Exact.add ha hb).1
theorem isFinite_sub (ha : isFinite a = true) (hb : isFinite b = true) : isFinite (a - b) = true := (Exact.sub ha hb).1
theorem isFinite_mul (ha : isFinite a = true) (hb : isFinite b = true) : isFinite (a * b) = true := (Exact.mul ha hb).1

end

/-! ## Rational numbers -/

theorem rat_sqrt_pos {q : ℚ} (hq : 0 < q) : 0 < Rat.sqrt q := by
  refine lt_of_le_of_ne (Rat.sqrt_nonneg q) fun h => ?_
  have hden : Nat.sqrt q.den ≠ 0 := (Nat.sqrt_pos.2 q.den_pos).ne'
  have hnum : 0 < Nat.sqrt q.num.toNat := by
    rw [Nat.sqrt_pos]
    have := Rat.num_pos.2 hq
    omega
  rw [Rat.sqrt, eq_comm, Rat.mkRat_eq_zero hden, Int.sqrt] at h
  omega

instance : Roots ℚ where
  exists_nonneg := by
    rintro a _ ⟨-, rfl⟩ -
    exact ⟨_, is_val rfl, Rat.cast_nonneg.2 (Rat.sqrt_nonneg a)⟩
  exists_pos := by
    rintro a _ ⟨-, rfl⟩ h
    exact ⟨_, is_val rfl, Rat.cast_pos.2 (rat_sqrt_pos (Rat.cast_pos.1 h))⟩

instance : Lossless ℚ ℚ where
  widen h  := h
  narrow h := h

end Scalar
end Pinpoint
