/-!
# Scalar — the arithmetic the geometry is written over

Coordinates, ratios and thresholds are rounded on their way to whole pixels, and nothing else about the number type
matters to them.  `Scalar α` lists what is used: the four operations, decidable order, a square root, the three ways to
a whole value, and a bounded conversion to `Int`.  Programs run at `Float`; a statement about exact arithmetic takes
any other instance.

`≤` decides everything about a value that is not a number: such a value is the one that is not `≤` itself.
-/
namespace Pinpoint

/-- **Numbers with an order, a square root and conversions to whole values.** -/
class Scalar (α : Type) extends Add α, Sub α, Mul α, Div α, Neg α, LT α, LE α where
  decidableLT : ∀ a b : α, Decidable (a < b)
  decidableLE : ∀ a b : α, Decidable (a ≤ b)
  ofInt       : Int → α
  /-- The value nearest to `± digits · 10 ^ exponent`; `true` is the negative sign. -/
  ofDecimal   : Bool → Nat → Int → α
  sqrt        : α → α
  floor       : α → α
  ceil        : α → α
  /-- The nearest whole value; a half goes away from zero. -/
  round       : α → α
  /-- The whole part, held between two bounds; `0` for what is not a number. -/
  toInt       : (lo hi : Int) → α → Int
  isFinite    : α → Bool

namespace Scalar

attribute [reducible, instance] decidableLT decidableLE

variable {α : Type} [Scalar α]

@[inline] def ofNat (n : Nat) : α := ofInt (n : Int)

@[inline] def isNaN (a : α) : Bool := !decide (a ≤ a)

/-- The larger of two; of a number and what is not one, the number. -/
@[inline] def max (a b : α) : α := if isNaN a then b else if isNaN b then a else if a < b then b else a

/-- The smaller of two; of a number and what is not one, the number. -/
@[inline] def min (a b : α) : α := if isNaN a then b else if isNaN b then a else if b < a then b else a

@[inline] def abs (a : α) : α := if a < ofInt 0 then -a else a

/-- `a` held between `lo` and `hi`; what is not a number passes. -/
@[inline] def clamp (lo hi a : α) : α := if a < lo then lo else if hi < a then hi else a

@[inline] def sq (a : α) : α := a * a

/-- The sum in list order, from zero. -/
@[specialize] def sum (l : List α) : α := l.foldl (· + ·) (ofInt 0)

/-- The nearest whole number that 64 bits hold. -/
@[inline] def toInt64 (a : α) : Int := toInt (-0x8000000000000000) 0x7fffffffffffffff a

@[inline] def toInt32 (a : α) : Int := toInt (-0x80000000) 0x7fffffff a

@[inline] def toUInt32 (a : α) : UInt32 := UInt32.ofNat (toInt 0 0xffffffff a).toNat

@[inline] def roundInt (a : α) : Int := toInt64 (round a)

@[inline] def roundUInt32 (a : α) : UInt32 := toUInt32 (round a)

/-- The exact quotient of two whole numbers, rounded once. -/
@[inline] def ratio (p q : Nat) : α := ofNat p / ofNat q

end Scalar

/-- **A narrow and a wide number type**: products are formed in the narrow one and accumulated in the wide one. -/
class Widening (ν ω : Type) [Scalar ν] [Scalar ω] where
  widen  : ν → ω
  narrow : ω → ν

/-! ## The running instances

A decimal is cut down to a magnitude that still rounds as it does before a power of ten is formed, so that an exponent
of a billion costs nothing. -/

/-- **A decimal of the same nearest value** whose power of ten is within 400 of the point. -/
def nearDecimal (m : Nat) (e : Int) : Nat × Int :=
  if m = 0 then (0, 0)
  else if 400 < e then (1, 400)
  else if e + (m.log2 + 1 : Nat) < -400 then (0, 0)
  else (m, e)

instance : Scalar Float where
  decidableLT a b    := inferInstanceAs (Decidable (a < b))
  decidableLE a b    := inferInstanceAs (Decidable (a ≤ b))
  ofInt              := Float.ofInt
  ofDecimal neg m e  :=
    let d := nearDecimal m e
    let v := Float.ofScientific d.1 (d.2 < 0) d.2.natAbs
    if neg then -v else v
  sqrt               := Float.sqrt
  floor              := Float.floor
  ceil               := Float.ceil
  round              := Float.round
  toInt lo hi a      := Max.max lo (Min.min hi a.toInt64.toInt)
  isFinite           := Float.isFinite

instance : Scalar Float32 where
  decidableLT a b    := inferInstanceAs (Decidable (a < b))
  decidableLE a b    := inferInstanceAs (Decidable (a ≤ b))
  ofInt              := Float32.ofInt
  ofDecimal neg m e  :=
    let d := nearDecimal m e
    let v := Float32.ofScientific d.1 (d.2 < 0) d.2.natAbs
    if neg then -v else v
  sqrt               := Float32.sqrt
  floor              := Float32.floor
  ceil               := Float32.ceil
  round              := Float32.round
  toInt lo hi a      := Max.max lo (Min.min hi a.toInt64.toInt)
  isFinite           := Float32.isFinite

instance : Widening Float32 Float where
  widen  := Float32.toFloat
  narrow := Float.toFloat32

end Pinpoint
