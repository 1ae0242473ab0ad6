import Pinpoint.Scalar
/-!
# Peaks — the best places of a score map

The best cell is taken again and again, each time blanking the cells around it, until the best falls below a threshold or
enough are found.  Of equally good cells the last one counts; a blank cell is worse than any score.
-/
namespace Pinpoint
namespace Match

structure Peak (ν : Type) where
  score : ν
  x     : Nat
  y     : Nat
  deriving Repr, Inhabited

namespace Peak

variable {ν : Type} [Scalar ν]

/-- Two places no further apart than `w` across and `h` down. -/
def near (w h x y x' y' : Nat) : Bool :=
  (x ≤ x' + w && x' ≤ x + w) && (y ≤ y' + h && y' ≤ y + h)

/-- Scores row after row; a blanked cell has none. -/
structure Map (ν : Type) where
  width : Nat
  cells : Array (Option ν)

namespace Map

/-- Whether the first of two cells is better than the second. -/
@[specialize]
def beats : Option ν → Option ν → Bool
  | some a, some b => b < a
  | some _, none   => true
  | none, _        => false

/-- The last of the best cells. -/
@[specialize]
def best (m : Map ν) : Option (Nat × Option ν) :=
  (m.cells.foldl (fun (acc : Nat × Option (Nat × Option ν)) c =>
    (acc.1 + 1, match acc.2 with
      | some b => if beats b.2 c then some b else some (acc.1, c)
      | none   => some (acc.1, c))) (0, none)).2

def blank (m : Map ν) (w h x y : Nat) : Map ν :=
  { m with cells := m.cells.mapIdx fun i c => if near w h (i % m.width) (i / m.width) x y then none else c }

end Map

/-- **At most `limit` peaks**, best first, none within `w` and `h` of another.  A threshold that is below every score, or
no number at all, is reached by a blank cell too. -/
@[specialize]
def pick (w h : Nat) (threshold : ν) : (limit : Nat) → Map ν → List (Peak ν)
  | 0, _         => []
  | limit + 1, m =>
    let take (i : Nat) (s : ν) : List (Peak ν) :=
      let x := i % m.width
      let y := i / m.width
      ⟨s, x, y⟩ :: pick w h threshold limit (m.blank w h x y)
    match m.best with
    | some (i, some s) => if s < threshold then [] else take i s
    | some (i, none)   =>
      if Scalar.isFinite threshold || decide (Scalar.ofInt 0 < threshold) then [] else take i threshold
    | none             => []

end Peak
end Match
end Pinpoint
