import Mathlib.Algebra.Order.BigOperators.Group.List
import Pinpoint.Proofs.Box.Pixels
import Pinpoint.Proofs.Scalar.Exact
/-!
# Average — the mean of some boxes in exact arithmetic

The average of a list of boxes has the four mean edges, each at its nearest pixel (`average_eq`).  Bounds on an edge
carry over to its mean (`nearest_mean_mem`), and edges at least a pixel apart in every box stay apart
(`nearest_mean_lt`).
-/
namespace Pinpoint
namespace Box

variable {l : List Box} {f g : Box → Int}

/-- The mean of a quantity over a list. -/
noncomputable def mean (l : List Box) (f : Box → Int) : ℝ := (l.map fun b => (f b : ℝ)).sum / l.length

theorem length_cast_ne_zero (hl : l ≠ []) : (l.length : ℝ) ≠ 0 :=
  Nat.cast_ne_zero.2 (List.length_eq_zero_iff.not.2 hl)

theorem mean_le_mean (hfg : ∀ b ∈ l, f b ≤ g b) : mean l f ≤ mean l g := by
  refine div_le_div_of_nonneg_right (List.sum_le_sum fun b hb => ?_) (Nat.cast_nonneg _)
  exact Int.cast_le.2 (hfg b hb)

theorem mean_const (hl : l ≠ []) (k : Int) : mean l (fun _ => k) = k := by
  rw [mean, List.map_const', List.sum_replicate, nsmul_eq_mul, mul_comm,
    mul_div_cancel_right₀ _ (length_cast_ne_zero hl)]

theorem mean_add_one (hl : l ≠ []) (f : Box → Int) : mean l (fun b => f b + 1) = mean l f + 1 := by
  simp only [mean, Int.cast_add, Int.cast_one, List.sum_map_add, List.map_const', List.sum_replicate, nsmul_eq_mul,
    mul_one]
  rw [add_div, div_self (length_cast_ne_zero hl)]

theorem nearest_mean_mem (f : Box → Int) (lo hi : Int) (hl : l ≠ []) (hf : ∀ b ∈ l, lo ≤ f b ∧ f b ≤ hi) :
    lo ≤ Scalar.nearest (mean l f) ∧ Scalar.nearest (mean l f) ≤ hi := by
  constructor
  · refine Scalar.le_nearest ?_
    rw [← mean_const hl lo]
    exact mean_le_mean fun b hb => (hf b hb).1
  · refine Scalar.nearest_le ?_
    rw [← mean_const hl hi]
    exact mean_le_mean fun b hb => (hf b hb).2

/-- Values that are apart in every box have means that round to different pixels. -/
theorem nearest_mean_lt (hl : l ≠ []) (hfg : ∀ b ∈ l, f b < g b) :
    Scalar.nearest (mean l f) < Scalar.nearest (mean l g) := by
  refine Scalar.nearest_lt_nearest ?_
  rw [← mean_add_one hl]
  exact mean_le_mean fun b hb => hfg b hb

section Exact

variable {α : Type} [Scalar α] [Scalar.Exact α]

theorem roundInt_mean {lo hi : Int} (hl : l ≠ []) (hf : ∀ b ∈ l, lo ≤ f b ∧ f b ≤ hi) (hlo : -2 ^ 63 ≤ lo)
    (hhi : hi < 2 ^ 63) :
    Scalar.roundInt (Scalar.sum (l.map fun b => (Scalar.ofInt (f b) : α)) / Scalar.ofNat l.length) =
      Scalar.nearest (mean l f) := by
  have hs : Scalar.Is (Scalar.sum (l.map fun b => (Scalar.ofInt (f b) : α)) / Scalar.ofNat l.length) (mean l f) :=
    (Scalar.Is.sum l fun b _ => Scalar.Is.ofInt (f b)).div (Scalar.Is.ofNat _) (length_cast_ne_zero hl)
  have := nearest_mean_mem f lo hi hl hf
  exact hs.roundInt (by omega) (by omega)

/-- **The average of some boxes.** -/
theorem average_eq (hl : l ≠ []) : Box.average (α := α) l = some (ofCorners (Scalar.nearest (mean l left))
    (Scalar.nearest (mean l top)) (Scalar.nearest (mean l right)) (Scalar.nearest (mean l bottom))) := by
  have hx : ∀ b ∈ l, -2 ^ 31 ≤ b.left ∧ b.left ≤ 2 ^ 33 := fun b _ => by have := b.edges_mem.1; omega
  have hy : ∀ b ∈ l, -2 ^ 31 ≤ b.top ∧ b.top ≤ 2 ^ 33 := fun b _ => by have := b.edges_mem.2; omega
  have hr : ∀ b ∈ l, -2 ^ 31 ≤ b.right ∧ b.right ≤ 2 ^ 33 := fun b _ => by have := b.edges_mem.1; omega
  have hb : ∀ b ∈ l, -2 ^ 31 ≤ b.bottom ∧ b.bottom ≤ 2 ^ 33 := fun b _ => by have := b.edges_mem.2; omega
  rw [Box.average, if_neg (by simpa using hl)]
  dsimp only
  rw [roundInt_mean hl hx (by omega) (by omega), roundInt_mean hl hy (by omega) (by omega),
    roundInt_mean hl hr (by omega) (by omega), roundInt_mean hl hb (by omega) (by omega)]

end Exact

end Box
end Pinpoint
