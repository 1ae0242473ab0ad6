import Mathlib.Algebra.Order.Archimedean.Real.Basic
import Mathlib.Data.Rat.Floor
import Mathlib.Data.Rat.Sqrt
import Mathlib.Tactic.Linarith
import Pinpoint.Scalar
/-!
# Exact — arithmetic that does not round

`Exact α` says that the finite values of a number type are real numbers and that every operation on them is the one of
the reals; a value that is not finite is no number at all, or on one side of all finite ones.  Square roots are left
open.  The rationals are an instance, in which every computation can be carried out (`instExactRat`).

`Is a r` reads "the value `a` is the real number `r`".  There is one lemma an operation, so that what a formula comes to
is read off its shape.
-/
namespace Pinpoint
namespace Scalar

/-! ## Whole numbers near a number -/

section Whole

variable {K : Type} [Field K] [LinearOrder K] [FloorRing K]

/-- The nearest whole number; a half goes away from zero. -/
def nearest (x : K) : Int := if x < 0 then -⌊-x + 1 / 2⌋ else ⌊x + 1 / 2⌋

/-- The whole part of a number: what is left when the digits after the point are dropped. -/
def wholePart (x : K) : Int := if x < 0 then -⌊-x⌋ else ⌊x⌋

theorem nearest_of_nonneg {x : K} (h : 0 ≤ x) : nearest x = ⌊x + 1 / 2⌋ := if_neg (not_lt.2 h)

theorem nearest_of_neg {x : K} (h : x < 0) : nearest x = -⌊-x + 1 / 2⌋ := if_pos h

variable [IsStrictOrderedRing K]

theorem abs_nearest_sub_le (x : K) : |(nearest x : K) - x| ≤ 1 / 2 := by
  rw [abs_le]
  rcases lt_or_ge x 0 with h | h
  · rw [nearest_of_neg h, Int.cast_neg]
    have h1 := Int.floor_le (-x + 1 / 2)
    have h2 := Int.lt_floor_add_one (-x + 1 / 2)
    constructor <;> linarith
  · rw [nearest_of_nonneg h]
    have h1 := Int.floor_le (x + 1 / 2)
    have h2 := Int.lt_floor_add_one (x + 1 / 2)
    constructor <;> linarith

theorem nearest_intCast (k : Int) : nearest (k : K) = k := by
  have h := abs_le.1 (abs_nearest_sub_le (k : K))
  have h1 : ((nearest (k : K) : Int) : K) < ((k + 1 : Int) : K) := by push_cast; linarith [h.2]
  have h2 : ((k - 1 : Int) : K) < ((nearest (k : K) : Int) : K) := by push_cast; linarith [h.1]
  have h1 := Int.cast_lt.1 h1
  have h2 := Int.cast_lt.1 h2
  omega

theorem nearest_mono {x y : K} (h : x ≤ y) : nearest x ≤ nearest y := by
  rcases lt_or_ge x 0 with hx | hx <;> rcases lt_or_ge y 0 with hy | hy
  · rw [nearest_of_neg hx, nearest_of_neg hy]
    have := Int.floor_le_floor (show -y + 1 / 2 ≤ -x + 1 / 2 by linarith)
    omega
  · rw [nearest_of_neg hx, nearest_of_nonneg hy]
    have h1 : 0 ≤ ⌊-x + 1 / 2⌋ := Int.floor_nonneg.2 (by linarith)
    have h2 : 0 ≤ ⌊y + 1 / 2⌋ := Int.floor_nonneg.2 (by linarith)
    omega
  · exact absurd (lt_of_le_of_lt (hx.trans h) hy) (lt_irrefl _)
  · rw [nearest_of_nonneg hx, nearest_of_nonneg hy]
    exact Int.floor_le_floor (by linarith)

theorem le_nearest {k : Int} {x : K} (h : (k : K) ≤ x) : k ≤ nearest x := by
  have := nearest_mono h
  rwa [nearest_intCast] at this

theorem nearest_le {k : Int} {x : K} (h : x ≤ (k : K)) : nearest x ≤ k := by
  have := nearest_mono h
  rwa [nearest_intCast] at this

theorem nearest_natCast (n : Nat) : nearest (n : K) = n := by
  have := nearest_intCast (K := K) n
  rwa [Int.cast_natCast] at this

theorem nearest_min (x y : K) : nearest (Min.min x y) = Min.min (nearest x) (nearest y) :=
  Monotone.map_min fun _ _ => nearest_mono

theorem nearest_max (x y : K) : nearest (Max.max x y) = Max.max (nearest x) (nearest y) :=
  Monotone.map_max fun _ _ => nearest_mono

/-- **Numbers a whole step apart round to different whole numbers.** -/
theorem nearest_lt_nearest {x y : K} (h : x + 1 ≤ y) : nearest x < nearest y := by
  rcases lt_or_ge x 0 with hx | hx <;> rcases lt_or_ge y 0 with hy | hy
  · rw [nearest_of_neg hx, nearest_of_neg hy]
    have := Int.floor_le_floor (show (-y + 1 / 2) + 1 ≤ -x + 1 / 2 by linarith)
    rw [Int.floor_add_one] at this
    omega
  · rw [nearest_of_neg hx, nearest_of_nonneg hy]
    rcases lt_or_ge y (1 / 2) with hy' | hy'
    · have h1 : 1 ≤ ⌊-x + 1 / 2⌋ := Int.le_floor.2 (by push_cast; linarith)
      have h2 : 0 ≤ ⌊y + 1 / 2⌋ := Int.floor_nonneg.2 (by linarith)
      omega
    · have h1 : 0 ≤ ⌊-x + 1 / 2⌋ := Int.floor_nonneg.2 (by linarith)
      have h2 : 1 ≤ ⌊y + 1 / 2⌋ := Int.le_floor.2 (by push_cast; linarith)
      omega
  · exact absurd (lt_of_le_of_lt (by linarith : (0 : K) ≤ y) hy) (lt_irrefl _)
  · rw [nearest_of_nonneg hx, nearest_of_nonneg hy]
    have := Int.floor_le_floor (show (x + 1 / 2) + 1 ≤ y + 1 / 2 by linarith)
    rw [Int.floor_add_one] at this
    omega

theorem nearest_eq_of_abs_lt {x : K} {k : Int} (h : |x - k| < 1 / 2) : nearest x = k := by
  obtain ⟨hlo, hhi⟩ := abs_le.1 (abs_nearest_sub_le x)
  obtain ⟨hlo', hhi'⟩ := abs_lt.1 h
  have h1 : ((nearest x : Int) : K) < ((k + 1 : Int) : K) := by push_cast; linarith
  have h2 : ((k - 1 : Int) : K) < ((nearest x : Int) : K) := by push_cast; linarith
  have h1 := Int.cast_lt.1 h1
  have h2 := Int.cast_lt.1 h2
  omega

/-- **A whole number comes back from a finer grid**: half a step there is less than half a step here. -/
theorem nearest_nearest_mul_div {f : K} (hf : 1 ≤ f) (k : Int) : nearest ((nearest (k * f) : K) / f) = k := by
  rcases hf.eq_or_lt with rfl | hf
  · rw [mul_one, div_one, nearest_intCast, nearest_intCast]
  · have h0 : 0 < f := zero_lt_one.trans hf
    refine nearest_eq_of_abs_lt ?_
    calc |(nearest (k * f) : K) / f - k| = |(nearest (k * f) : K) - k * f| / f := by
          rw [div_sub' h0.ne', abs_div, abs_of_pos h0, mul_comm f]
      _ ≤ 1 / 2 / f := div_le_div_of_nonneg_right (abs_nearest_sub_le _) h0.le
      _ < 1 / 2 := div_lt_self one_half_pos hf

/-- **A whole number comes back from any grid** up to half a step there and half a step here. -/
theorem abs_nearest_nearest_div_mul_sub_le {s : K} (hs : 0 < s) (k : Int) :
    |(nearest ((nearest (k / s) : K) * s) : K) - k| ≤ s / 2 + 1 / 2 := by
  have hthere : |(nearest (k / s) : K) * s - k| ≤ s / 2 := by
    calc |(nearest (k / s) : K) * s - k| = |(nearest (k / s) : K) - k / s| * s := by
          rw [← abs_of_pos hs, ← abs_mul, abs_of_pos hs, sub_mul, div_mul_cancel₀ _ hs.ne']
      _ ≤ 1 / 2 * s := mul_le_mul_of_nonneg_right (abs_nearest_sub_le _) hs.le
      _ = s / 2 := by rw [one_div, inv_mul_eq_div]
  have hback := abs_nearest_sub_le ((nearest (k / s) : K) * s)
  have := abs_sub_le (nearest ((nearest (k / s) : K) * s) : K) ((nearest (k / s) : K) * s) k
  linarith

/-- On a coarser grid a whole number goes no further from zero. -/
theorem nearest_div_between {f : K} (hf : 1 ≤ f) (k : Int) :
    Min.min k 0 ≤ nearest (k / f : K) ∧ nearest (k / f : K) ≤ Max.max k 0 := by
  have h0 : 0 < f := zero_lt_one.trans_le hf
  rcases le_total 0 k with hk | hk
  · have hk' : (0 : K) ≤ k := Int.cast_nonneg hk
    rw [min_eq_right hk, max_eq_left hk]
    exact ⟨le_nearest (by rw [Int.cast_zero]; exact div_nonneg hk' h0.le), nearest_le (div_le_self hk' hf)⟩
  · have hk' : (k : K) ≤ 0 := Int.cast_nonpos.2 hk
    rw [min_eq_left hk, max_eq_right hk]
    refine ⟨le_nearest ?_, nearest_le (by rw [Int.cast_zero]; exact div_nonpos_of_nonpos_of_nonneg hk' h0.le)⟩
    rw [le_div_iff₀ h0]
    exact mul_le_of_one_le_right hk' hf

theorem wholePart_intCast (k : Int) : wholePart (k : K) = k := by
  unfold wholePart
  split
  · rw [← Int.cast_neg, Int.floor_intCast, neg_neg]
  · exact Int.floor_intCast k

end Whole

/-! ## Exact arithmetic -/

/-- **Arithmetic that does not round**: finite values are real numbers. -/
class Exact (α : Type) [Scalar α] where
  val : α → ℝ
  ofInt (n : Int) : isFinite (ofInt n : α) = true ∧ val (ofInt n : α) = n
  ofDecimal (neg : Bool) (m : Nat) (e : Int) :
    isFinite (ofDecimal neg m e : α) = true ∧ val (ofDecimal neg m e : α) = (if neg then -1 else 1) * m * (10 : ℝ) ^ e
  add {a b : α} (ha : isFinite a = true) (hb : isFinite b = true) :
    isFinite (a + b) = true ∧ val (a + b) = val a + val b
  sub {a b : α} (ha : isFinite a = true) (hb : isFinite b = true) :
    isFinite (a - b) = true ∧ val (a - b) = val a - val b
  mul {a b : α} (ha : isFinite a = true) (hb : isFinite b = true) :
    isFinite (a * b) = true ∧ val (a * b) = val a * val b
  div {a b : α} (ha : isFinite a = true) (hb : isFinite b = true) (h0 : val b ≠ 0) :
    isFinite (a / b) = true ∧ val (a / b) = val a / val b
  neg {a : α} (ha : isFinite a = true) : isFinite (-a) = true ∧ val (-a) = -val a
  floor {a : α} (ha : isFinite a = true) : isFinite (Scalar.floor a) = true ∧ val (Scalar.floor a) = ⌊val a⌋
  ceil {a : α} (ha : isFinite a = true) : isFinite (Scalar.ceil a) = true ∧ val (Scalar.ceil a) = ⌈val a⌉
  round {a : α} (ha : isFinite a = true) : isFinite (Scalar.round a) = true ∧ val (Scalar.round a) = nearest (val a)
  toInt {a : α} (ha : isFinite a = true) (lo hi : Int) : toInt lo hi a = Max.max lo (Min.min hi (wholePart (val a)))
  lt {a b : α} (ha : isFinite a = true) (hb : isFinite b = true) : a < b ↔ val a < val b
  le {a b : α} (ha : isFinite a = true) (hb : isFinite b = true) : a ≤ b ↔ val a ≤ val b
  /-- What is no real number and yet a number is on one side of all of them. -/
  beyond {a : α} (ha : isFinite a = false) (h : a ≤ a) :
    (∀ b, isFinite b = true → a < b) ∨ (∀ b, isFinite b = true → ¬ a < b)

variable {α : Type} [Scalar α] [Exact α]

/-- The value `a` is the real number `r`. -/
def Is (a : α) (r : ℝ) : Prop := isFinite a = true ∧ Exact.val a = r

namespace Is

variable {a b : α} {r s : ℝ}

theorem ofInt (n : Int) : Is (Scalar.ofInt n : α) n := Exact.ofInt n

theorem zero : Is (Scalar.ofInt 0 : α) 0 := by simpa using ofInt (α := α) 0
theorem one : Is (Scalar.ofInt 1 : α) 1 := by simpa using ofInt (α := α) 1
theorem two : Is (Scalar.ofInt 2 : α) 2 := by simpa using ofInt (α := α) 2

theorem ofNat (n : Nat) : Is (Scalar.ofNat n : α) n := by
  have := ofInt (α := α) n
  rwa [Int.cast_natCast] at this

theorem add (ha : Is a r) (hb : Is b s) : Is (a + b) (r + s) := by
  obtain ⟨ha, rfl⟩ := ha
  obtain ⟨hb, rfl⟩ := hb
  exact Exact.add ha hb

theorem sub (ha : Is a r) (hb : Is b s) : Is (a - b) (r - s) := by
  obtain ⟨ha, rfl⟩ := ha
  obtain ⟨hb, rfl⟩ := hb
  exact Exact.sub ha hb

theorem mul (ha : Is a r) (hb : Is b s) : Is (a * b) (r * s) := by
  obtain ⟨ha, rfl⟩ := ha
  obtain ⟨hb, rfl⟩ := hb
  exact Exact.mul ha hb

theorem div (ha : Is a r) (hb : Is b s) (h : s ≠ 0) : Is (a / b) (r / s) := by
  obtain ⟨ha, rfl⟩ := ha
  obtain ⟨hb, rfl⟩ := hb
  exact Exact.div ha hb h

theorem lt (ha : Is a r) (hb : Is b s) : a < b ↔ r < s := by
  obtain ⟨ha, rfl⟩ := ha
  obtain ⟨hb, rfl⟩ := hb
  exact Exact.lt ha hb

theorem le (ha : Is a r) (hb : Is b s) : a ≤ b ↔ r ≤ s := by
  obtain ⟨ha, rfl⟩ := ha
  obtain ⟨hb, rfl⟩ := hb
  exact Exact.le ha hb

theorem isNaN (ha : Is a r) : isNaN a = false := by simp [Scalar.isNaN, ha.le ha]

theorem max (ha : Is a r) (hb : Is b s) : Is (Scalar.max a b) (Max.max r s) := by
  simp only [Scalar.max, ha.isNaN, hb.isNaN, Bool.false_eq_true, if_false, ha.lt hb]
  split
  · rename_i h
    rwa [max_eq_right h.le]
  · rename_i h
    rwa [max_eq_left (not_lt.1 h)]

theorem min (ha : Is a r) (hb : Is b s) : Is (Scalar.min a b) (Min.min r s) := by
  simp only [Scalar.min, ha.isNaN, hb.isNaN, Bool.false_eq_true, if_false, hb.lt ha]
  split
  · rename_i h
    rwa [min_eq_right h.le]
  · rename_i h
    rwa [min_eq_left (not_lt.1 h)]

/-- A bound that is taken only where it is the smaller one. -/
theorem ite_min {c : Prop} [Decidable c] (ha : Is a r) (hb : c → Is b s) (h : ¬ c → r ≤ s) :
    Is (if c then Scalar.min a b else a) (Min.min r s) := by
  split
  · rename_i hc
    exact ha.min (hb hc)
  · rename_i hc
    rwa [min_eq_left (h hc)]

theorem ratio (p : Nat) {q : Nat} (hq : q ≠ 0) : Is (Scalar.ratio p q : α) (p / q) :=
  (ofNat p).div (ofNat q) (Nat.cast_ne_zero.2 hq)

theorem round (ha : Is a r) : Is (Scalar.round a) (nearest r) := by
  obtain ⟨ha, rfl⟩ := ha
  exact Exact.round ha

theorem sum {β : Type} {f : β → α} {g : β → ℝ} (l : List β) (h : ∀ x ∈ l, Is (f x) (g x)) :
    Is (Scalar.sum (l.map f)) (l.map g).sum := by
  suffices ∀ (l : List β) (a : α) (r : ℝ), (∀ x ∈ l, Is (f x) (g x)) → Is a r →
      Is ((l.map f).foldl (· + ·) a) (r + (l.map g).sum) by
    have := this l _ _ h zero
    rwa [zero_add] at this
  intro l
  induction l with
  | nil => intro a r _ ha; simpa using ha
  | cons x l ih =>
    intro a r h ha
    have := ih (a + f x) (r + g x) (fun y hy => h y (List.mem_cons_of_mem _ hy)) (ha.add (h x List.mem_cons_self))
    simpa only [List.map_cons, List.foldl_cons, List.sum_cons, add_assoc] using this

theorem toInt_round (ha : Is a r) (lo hi : Int) :
    Scalar.toInt lo hi (Scalar.round a) = Max.max lo (Min.min hi (nearest r)) := by
  obtain ⟨hf, hv⟩ := ha.round
  rw [Exact.toInt hf, hv, wholePart_intCast]

/-- **Rounding to a pixel**, as long as 64 bits hold it. -/
theorem roundInt (ha : Is a r) (h : -2 ^ 63 ≤ nearest r) (h' : nearest r < 2 ^ 63) : Scalar.roundInt a = nearest r := by
  rw [Scalar.roundInt, Scalar.toInt64, ha.toInt_round]
  omega

/-- Shrinking a number that 64 bits hold, and rounding, gives one that they hold. -/
theorem roundInt_div (ha : Is a r) (h1 : 1 ≤ r) {v : Int} (hv : -2 ^ 63 ≤ v) (hv' : v < 2 ^ 63) :
    Scalar.roundInt (Scalar.ofInt v / a) = nearest (v / r) := by
  have hmem := nearest_div_between h1 v
  exact ((ofInt v).div ha (zero_lt_one.trans_le h1).ne').roundInt (by omega) (by omega)

theorem roundUInt32 (ha : Is a r) (h : 0 ≤ nearest r) (h' : nearest r < 2 ^ 32) :
    (Scalar.roundUInt32 a).toNat = (nearest r).toNat := by
  rw [Scalar.roundUInt32, Scalar.toUInt32, ha.toInt_round, UInt32.toNat_ofNat']
  omega

theorem exists_of_between (ha : Is a r) (hb : Is b s) {c : α} (hc : c ≤ c) (hac : ¬ c < a) (hcb : c < b) :
    ∃ t, Is c t ∧ r ≤ t ∧ t < s := by
  cases hf : isFinite c with
  | true =>
    have hc' : Is c (Exact.val c) := ⟨hf, rfl⟩
    exact ⟨_, hc', not_lt.1 ((hc'.lt ha).not.1 hac), (hc'.lt hb).1 hcb⟩
  | false =>
    rcases Exact.beyond hf hc with h | h
    · exact absurd (h a ha.1) hac
    · exact absurd hcb (h b hb.1)

/-- Held below one real number and then above a smaller one, anything is a real number between the two. -/
theorem exists_max_min (ha : Is a r) (hb : Is b s) (h : r ≤ s) (c : α) :
    ∃ t, Is (Scalar.max (Scalar.min b c) a) t ∧ r ≤ t ∧ t ≤ s := by
  have hbs : ∃ t, Is (Scalar.max b a) t ∧ r ≤ t ∧ t ≤ s := ⟨_, hb.max ha, le_max_right _ _, max_le le_rfl h⟩
  unfold Scalar.min
  rw [hb.isNaN, if_neg Bool.false_ne_true]
  cases hc : Scalar.isNaN c with
  | true => exact hbs
  | false =>
    rw [if_neg Bool.false_ne_true]
    split
    · rename_i hcb
      unfold Scalar.max
      rw [hc, ha.isNaN, if_neg Bool.false_ne_true, if_neg Bool.false_ne_true]
      split
      · exact ⟨r, ha, le_rfl, h⟩
      · rename_i hca
        have hcc : c ≤ c := by simpa [Scalar.isNaN] using hc
        obtain ⟨t, ht, hrt, hts⟩ := ha.exists_of_between hb hcc hca hcb
        exact ⟨t, ht, hrt, hts.le⟩
    · exact hbs

end Is

/-! ## Rational numbers -/

instance : Scalar ℚ where
  decidableLT a b    := inferInstanceAs (Decidable (a < b))
  decidableLE a b    := inferInstanceAs (Decidable (a ≤ b))
  ofInt n            := n
  ofDecimal neg m e  := (if neg then -1 else 1) * m * (10 : ℚ) ^ e
  sqrt               := Rat.sqrt
  floor a            := (⌊a⌋ : ℚ)
  ceil a             := (⌈a⌉ : ℚ)
  round a            := (nearest a : ℚ)
  toInt lo hi a      := Max.max lo (Min.min hi (wholePart a))
  isFinite _         := true

instance : Widening ℚ ℚ := ⟨id, id⟩

theorem nearest_ratCast (a : ℚ) : nearest (a : ℝ) = nearest a := by
  unfold nearest
  simp only [Rat.cast_lt_zero, ← Rat.floor_cast (α := ℝ)]
  push_cast
  rfl

theorem wholePart_ratCast (a : ℚ) : wholePart (a : ℝ) = wholePart a := by
  unfold wholePart
  simp only [Rat.cast_lt_zero, ← Rat.floor_cast (α := ℝ)]
  push_cast
  rfl

/-- **The rationals are exact.** -/
instance instExactRat : Exact ℚ where
  val a         := a
  ofInt n       := ⟨rfl, Rat.cast_intCast n⟩
  ofDecimal neg m e := ⟨rfl, by
    show (((if neg then -1 else 1) * m * (10 : ℚ) ^ e : ℚ) : ℝ) = _
    cases neg <;> simp⟩
  add _ _       := ⟨rfl, Rat.cast_add _ _⟩
  sub _ _       := ⟨rfl, Rat.cast_sub _ _⟩
  mul _ _       := ⟨rfl, Rat.cast_mul _ _⟩
  div _ _ _     := ⟨rfl, Rat.cast_div _ _⟩
  neg _         := ⟨rfl, Rat.cast_neg _⟩
  floor {a} _   := ⟨rfl, by
    show (((⌊a⌋ : ℤ) : ℚ) : ℝ) = _
    rw [Rat.cast_intCast, Rat.floor_cast]⟩
  ceil {a} _    := ⟨rfl, by
    show (((⌈a⌉ : ℤ) : ℚ) : ℝ) = _
    rw [Rat.cast_intCast, Rat.ceil_cast]⟩
  round {a} _   := ⟨rfl, by
    show ((nearest a : ℚ) : ℝ) = _
    rw [Rat.cast_intCast, nearest_ratCast]⟩
  toInt {a} _ lo hi := by
    rw [wholePart_ratCast]
    rfl
  lt _ _        := Rat.cast_lt.symm
  le _ _        := Rat.cast_le.symm
  beyond ha _   := by cases ha

end Scalar
end Pinpoint
