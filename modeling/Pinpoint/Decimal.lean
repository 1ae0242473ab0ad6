import Pinpoint.Scalar
/-!
# Decimal — numbers as they are written

A decimal keeps the digits and the power of ten of a written number, and whether it was written as a whole number.
`nearest` is the number next to it; `scaled?` is the quick reading that forms one product or quotient with a power of
ten, which is off in the last bit for some long numbers and refuses those too large.  `shortest` goes the other way: the
fewest digits that only this number is nearest to.
-/
namespace Pinpoint

/-- **`± digits · 10 ^ exponent`**; `whole` when it was written without point and exponent. -/
structure Decimal where
  negative : Bool
  digits   : Nat
  exponent : Int
  whole    : Bool
  deriving DecidableEq, Repr, Inhabited

namespace Decimal

def ofInt (n : Int) : Decimal := ⟨n < 0, n.natAbs, 0, true⟩

/-- The value of a whole decimal. -/
def toInt? (d : Decimal) : Option Int :=
  if d.whole then some (if d.negative then -(d.digits : Int) else d.digits) else none

variable {α : Type} [Scalar α]

def nearest (d : Decimal) : α := Scalar.ofDecimal d.negative d.digits d.exponent

/-! ## The quick reading -/

/-- The leading digits that 64 bits hold, and the power of ten that is left. -/
def leading (m : Nat) (e : Int) : Nat × Int :=
  if m < 18446744073709551616 then (m, e) else leading (m / 10) (e + 1)
termination_by m
decreasing_by omega

/-- `f · 10 ^ e` by one product or quotient, after as many quotients by `10 ^ 308` as it takes. -/
def scaleBy (f : α) (e : Int) : (fuel : Nat) → Option α
  | 0 => some f
  | fuel + 1 =>
    if 0 ≤ e ∧ e ≤ 308 then
      let v := f * Scalar.ofNat (Nat.pow 10 e.toNat)
      if Scalar.isFinite v then some v else none
    else if -308 ≤ e ∧ e < 0 then some (f / Scalar.ofNat (Nat.pow 10 e.natAbs))
    else if f ≤ Scalar.ofInt 0 then some f
    else if 0 ≤ e then none
    else scaleBy (f / Scalar.ofNat (Nat.pow 10 308)) (e + 308) fuel

/-- The value by the quick reading, unless it is too large for the number type. -/
def scaled? (d : Decimal) : Option α :=
  let l := leading d.digits d.exponent
  (scaleBy (Scalar.ofNat l.1 : α) l.2 (l.2.natAbs / 308 + 1)).map fun v => if d.negative then -v else v

/-! ## The shortest writing -/

/-- A positive finite double as `m · 2 ^ q`. -/
def binary (v : Float) : Nat × Int :=
  let bits : Nat := v.toBits.toNat
  let e : Nat := bits / Nat.pow 2 52 % 2048
  let f : Nat := bits % Nat.pow 2 52
  if e = 0 then (f, -1074) else (f + Nat.pow 2 52, (e : Int) - 1075)

/-- `n · 2 ^ a / 10 ^ b` as a quotient of naturals. -/
def fraction (n : Nat) (a b : Int) : Nat × Nat :=
  let num := n * Nat.pow 2 a.toNat * Nat.pow 10 (-b).toNat
  let den := Nat.pow 2 (-a).toNat * Nat.pow 10 b.toNat
  (num, den)

/-- The better of the two multiples of `10 ^ e` around `m · 2 ^ q` that still reads back as that number. -/
def onGrid (m : Nat) (q e : Int) : Option Nat :=
  let v := fraction (4 * m) (q - 2) e
  let lowStep := if m = Nat.pow 2 52 ∧ q > -1074 then 1 else 2
  let lo := fraction (4 * m - lowStep) (q - 2) e
  let hi := fraction (4 * m + 2) (q - 2) e
  let inside (k : Nat) : Bool :=
    if m % 2 = 0 then lo.1 ≤ k * lo.2 && k * hi.2 ≤ hi.1 else lo.1 < k * lo.2 && k * hi.2 < hi.1
  let k := v.1 / v.2
  let upNearer : Bool := 2 * (v.1 % v.2) > v.2 || (2 * (v.1 % v.2) == v.2 && k % 2 == 1)
  match inside k, inside (k + 1) with
  | true, true   => some (if upNearer then k + 1 else k)
  | true, false  => some k
  | false, true  => some (k + 1)
  | false, false => none

/-- The exponent of the leading digit of `m · 2 ^ q`, or one more. -/
def leadExponent (m : Nat) (q : Int) : Int := ((m.log2 : Int) + q) * 30103 / 100000 + 1

/-- The first grid, from coarse to fine, that holds a decimal which reads back. -/
def shortestFrom (m : Nat) (q top : Int) : (fuel k : Nat) → Nat × Int
  | 0, _        => (m, 0)
  | fuel + 1, k =>
    match onGrid m q (top - k) with
    | some d => (d, top - k)
    | none   => shortestFrom m q top fuel (k + 1)

/-- The digits without trailing zeros. -/
def strip : (fuel m : Nat) → Int → Nat × Int
  | 0, m, e        => (m, e)
  | fuel + 1, m, e => if m % 10 = 0 ∧ m ≠ 0 then strip fuel (m / 10) (e + 1) else (m, e)

/-- **The fewest digits that read back as `v`**, the nearest of those; never written as a whole number. -/
def shortest (v : Float) : Decimal :=
  let b := binary v
  let d := if b.1 = 0 then (0, 0) else
    let r := shortestFrom b.1 b.2 (leadExponent b.1 b.2 + 1) 24 0
    strip 24 r.1 r.2
  ⟨v.toBits.toNat / Nat.pow 2 63 = 1, d.1, d.2, false⟩

/-- Positional up to sixteen places on either side of the point, else with an exponent. -/
def toText (d : Decimal) : String :=
  let sign := if d.negative then "-" else ""
  let ds := toString d.digits
  if d.whole then sign ++ ds
  else if 0 ≤ d.exponent ∧ ds.length + d.exponent.toNat ≤ 16 then
    sign ++ (if d.digits = 0 then "0" else ds ++ String.ofList (List.replicate d.exponent.toNat '0')) ++ ".0"
  else if d.exponent < 0 ∧ d.exponent.natAbs ≤ 16 then
    let places := d.exponent.natAbs
    let padded := List.replicate (places + 1 - ds.length) '0' ++ ds.toList
    sign ++ String.ofList (padded.take (padded.length - places)) ++ "." ++
      String.ofList (padded.drop (padded.length - places))
  else sign ++ ds ++ "e" ++ toString d.exponent

end Decimal
end Pinpoint
