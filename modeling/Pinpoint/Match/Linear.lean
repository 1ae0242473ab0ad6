import Pinpoint.Scalar
/-!
# Linear — small systems of equations

Elimination column by column: the row with the largest leading coefficient is taken out, the leading column is cleared
from the others, and what is left is a system with one unknown less.
-/
namespace Pinpoint
namespace Linear

variable {α : Type} [Scalar α]

/-- A sum of products in list order. -/
@[specialize]
def dot (a b : List α) : α := Scalar.sum (List.zipWith (· * ·) a b)

/-- An equation: its coefficients and its right side. -/
structure Row (α : Type) where
  coeffs : List α
  right  : α

def Row.lead (r : Row α) : α := r.coeffs.headD (Scalar.ofInt 0)

/-- The first row whose leading coefficient is largest in size, and the others. -/
@[specialize]
def pullPivot : Row α → List (Row α) → Row α × List (Row α)
  | r, []     => (r, [])
  | r, s :: l =>
    if Scalar.abs r.lead < Scalar.abs s.lead then
      let p := pullPivot s l
      (p.1, r :: p.2)
    else
      let p := pullPivot r l
      (p.1, s :: p.2)

/-- A row without its leading column, cleared by the pivot row. -/
@[specialize]
def clear (pivot r : Row α) : Row α :=
  let f := r.lead / pivot.lead
  ⟨List.zipWith (fun p c => c - f * p) pivot.coeffs.tail r.coeffs.tail, r.right - f * pivot.right⟩

def isZero (a : α) : Bool := a ≤ Scalar.ofInt 0 && Scalar.ofInt 0 ≤ a

/-- **The solution of a system in `n` unknowns**; none when a pivot vanishes. -/
@[specialize]
def solve? : (n : Nat) → List (Row α) → Option (List α)
  | 0, _          => some []
  | _ + 1, []     => none
  | n + 1, r :: l =>
    let p := pullPivot r l
    if isZero p.1.lead then none
    else (solve? n (p.2.map (clear p.1))).map fun xs =>
      (p.1.right - dot p.1.coeffs.tail xs) / p.1.lead :: xs

/-- The normal equations of a least-squares problem in `n` unknowns. -/
@[specialize]
def normalEquations (n : Nat) (rows : List (Row α)) : List (Row α) :=
  let column (i : Nat) : List α := rows.map fun r => r.coeffs.getD i (Scalar.ofInt 0)
  let right := rows.map (·.right)
  (List.range n).map fun i => ⟨(List.range n).map fun j => dot (column i) (column j), dot (column i) right⟩

end Linear
end Pinpoint
