import Pinpoint.Match.Linear
import Pinpoint.Random
/-!
# Homography — mappings of the plane onto itself

A homography maps points through a three by three matrix and a division.  `fit` finds the one that four or more pairs of
points suggest, by least squares on coordinates brought to a common size; `ransac` finds one that most pairs agree with
although some pairs are wrong, by trying many sets of four.
-/
namespace Pinpoint

/-- A three by three matrix. -/
structure Mat3 (α : Type) where
  a : α
  b : α
  c : α
  d : α
  e : α
  f : α
  g : α
  h : α
  i : α
  deriving Repr, Inhabited, DecidableEq

abbrev Point (α : Type) := α × α

namespace Mat3

variable {α : Type} [Scalar α]

def mul (m n : Mat3 α) : Mat3 α where
  a := m.a * n.a + m.b * n.d + m.c * n.g
  b := m.a * n.b + m.b * n.e + m.c * n.h
  c := m.a * n.c + m.b * n.f + m.c * n.i
  d := m.d * n.a + m.e * n.d + m.f * n.g
  e := m.d * n.b + m.e * n.e + m.f * n.h
  f := m.d * n.c + m.e * n.f + m.f * n.i
  g := m.g * n.a + m.h * n.d + m.i * n.g
  h := m.g * n.b + m.h * n.e + m.i * n.h
  i := m.g * n.c + m.h * n.f + m.i * n.i

def map (k : α → α) (m : Mat3 α) : Mat3 α := ⟨k m.a, k m.b, k m.c, k m.d, k m.e, k m.f, k m.g, k m.h, k m.i⟩

def toList (m : Mat3 α) : List α := [m.a, m.b, m.c, m.d, m.e, m.f, m.g, m.h, m.i]

def det (m : Mat3 α) : α :=
  m.a * (m.e * m.i - m.h * m.f) - m.b * (m.d * m.i - m.g * m.f) + m.c * (m.d * m.h - m.g * m.e)

/-- The inverse by cofactors; none when the determinant vanishes. -/
def inverse? (m : Mat3 α) : Option (Mat3 α) :=
  let t := m.det
  if Linear.isZero t then none
  else some <| map (· / t) {
    a := m.e * m.i - m.h * m.f
    b := m.h * m.c - m.b * m.i
    c := m.b * m.f - m.e * m.c
    d := m.g * m.f - m.d * m.i
    e := m.a * m.i - m.g * m.c
    f := m.d * m.c - m.a * m.f
    g := m.d * m.h - m.g * m.e
    h := m.g * m.b - m.a * m.h
    i := m.a * m.e - m.d * m.b }

/-- What is too small to divide by. -/
def tiny : α := Scalar.ratio 1 1000000000000

/-- The image of a point, unless it is at infinity. -/
@[specialize]
def project (m : Mat3 α) (p : Point α) : Option (Point α) :=
  let x := m.a * p.1 + m.b * p.2 + m.c
  let y := m.d * p.1 + m.e * p.2 + m.f
  let z := m.g * p.1 + m.h * p.2 + m.i
  if Scalar.abs z < tiny then none else some (x / z, y / z)

end Mat3

namespace Homography

variable {α : Type} [Scalar α]

@[specialize]
def distance (p q : Point α) : α := Scalar.sqrt (Scalar.sq (p.1 - q.1) + Scalar.sq (p.2 - q.2))

/-! ## Least squares -/

/-- The scaling that puts the centroid at the origin and the points `√2` from it on average. -/
@[specialize]
def normalizer? (l : List (Point α)) : Option (Mat3 α) :=
  let n : α := Scalar.ofNat l.length
  let center : Point α := (Scalar.sum (l.map (·.1)) / n, Scalar.sum (l.map (·.2)) / n)
  let mean := Scalar.sum (l.map fun p => distance p center) / n
  if mean < Mat3.tiny then none
  else
    let s := Scalar.sqrt (Scalar.ofInt 2) / mean
    some ⟨s, Scalar.ofInt 0, -s * center.1, Scalar.ofInt 0, s, -s * center.2, Scalar.ofInt 0, Scalar.ofInt 0,
      Scalar.ofInt 1⟩

/-- A point under a scaling and shift. -/
def shift (m : Mat3 α) (p : Point α) : Point α := (m.a * p.1 + m.c, m.e * p.2 + m.f)

/-- The two equations that a pair of points gives for the first eight entries; the ninth is one. -/
def equations (p q : Point α) : List (Linear.Row α) :=
  let o : α := Scalar.ofInt 0
  let l : α := Scalar.ofInt 1
  [⟨[p.1, p.2, l, o, o, o, -p.1 * q.1, -p.2 * q.1], q.1⟩, ⟨[o, o, o, p.1, p.2, l, -p.1 * q.2, -p.2 * q.2], q.2⟩]

def ofEntries : List α → Option (Mat3 α)
  | [a, b, c, d, e, f, g, h] => some ⟨a, b, c, d, e, f, g, h, Scalar.ofInt 1⟩
  | _                        => none

/-- The fit in normalised coordinates, by a solver of linear systems. -/
@[specialize]
def fitNormalized (solver : List (Linear.Row α) → Option (List α)) (src dst : List (Point α)) : Option (Mat3 α) := do
  let rows := (List.zipWith equations src dst).flatten
  let xs ← solver (Linear.normalEquations 8 rows)
  if xs.all Scalar.isFinite then ofEntries xs else none

/-- **The homography that pairs of points suggest**, with last entry one. -/
@[specialize]
def fitWith (solver : List (Linear.Row α) → Option (List α)) (src dst : List (Point α)) : Option (Mat3 α) :=
  if src.length < 4 ∨ dst.length ≠ src.length then none
  else do
    let ts ← normalizer? src
    let td ← normalizer? dst
    let n ← fitNormalized solver (src.map (shift ts)) (dst.map (shift td))
    let back ← td.inverse?
    let m := (back.mul n).mul ts
    if Scalar.abs m.i < Mat3.tiny then none else some (m.map (· / m.i))

@[specialize]
def fit (src dst : List (Point α)) : Option (Mat3 α) := fitWith (Linear.solve? 8) src dst

/-! ## Consensus -/

/-- Whether a mapping takes `p` to within `threshold` of `q`; a point at infinity is within an infinite one only. -/
@[specialize]
def agrees (m : Mat3 α) (threshold : α) (p q : Point α) : Bool :=
  match m.project p with
  | some r => distance r q ≤ threshold
  | none   => decide (Scalar.ofInt 0 < threshold) && !Scalar.isFinite threshold

/-- The indices of the pairs that agree with a mapping. -/
@[specialize]
def inliers (m : Mat3 α) (threshold : α) (src dst : List (Point α)) : List Nat :=
  (List.zipWith (agrees m threshold) src dst).zipIdx.filterMap fun r => if r.1 then some r.2 else none

/-- A mapping and the pairs that agree with it. -/
structure Consensus (α : Type) where
  mapping : Mat3 α
  inliers : List Nat

/-- The first model with the most inliers among the best so far and at most `fuel` more samples; a model that all pairs
agree with ends the search. -/
@[specialize]
def searchFrom {σ : Type} (model : List Nat → Option (Consensus α)) (n : Nat) (next : σ → List Nat × σ) :
    (fuel : Nat) → σ → Option (Consensus α) → Option (Consensus α)
  | 0, _, best        => best
  | fuel + 1, s, best =>
    let d := next s
    match model d.1 with
    | none   => searchFrom model n next fuel d.2 best
    | some m =>
      if (match best with | some b => decide (b.inliers.length < m.inliers.length) | none => true) then
        if m.inliers.length = n then some m else searchFrom model n next fuel d.2 (some m)
      else searchFrom model n next fuel d.2 best

def pickAll (l : List (Point α)) (idx : List Nat) : List (Point α) :=
  let a := l.toArray
  idx.filterMap fun i => a[i]?

/-- The model of a sample, with its inliers among all pairs. -/
@[specialize]
def modelOf (fitting : List (Point α) → List (Point α) → Option (Mat3 α)) (threshold : α) (src dst : List (Point α))
    (idx : List Nat) : Option (Consensus α) :=
  (fitting (pickAll src idx) (pickAll dst idx)).map fun m => ⟨m, inliers m threshold src dst⟩

/-- A consensus of four or more, fitted again to the pairs that agree. -/
@[specialize]
def polish (fitting : List (Point α) → List (Point α) → Option (Mat3 α)) (threshold : α) (src dst : List (Point α))
    (best : Consensus α) : Option (Consensus α) :=
  if best.inliers.length < 4 then none
  else
    let m := (fitting (pickAll src best.inliers) (pickAll dst best.inliers)).getD best.mapping
    let agreed := inliers m threshold src dst
    if 4 ≤ agreed.length then some ⟨m, agreed⟩ else none

/-- A consensus from any source of samples. -/
@[specialize]
def consensusWith {σ : Type} (fitting : List (Point α) → List (Point α) → Option (Mat3 α)) (next : σ → List Nat × σ)
    (iterations : Nat) (threshold : α) (src dst : List (Point α)) (s : σ) : Option (Consensus α) :=
  if src.length < 4 ∨ dst.length ≠ src.length then none
  else (searchFrom (modelOf fitting threshold src dst) src.length next (max iterations 1) s none).bind
    (polish fitting threshold src dst)

/-- **The mapping that most pairs agree with**, sampled from a seed. -/
@[specialize]
def ransac (iterations : Nat) (threshold : α) (seed : UInt64) (src dst : List (Point α)) : Option (Consensus α) :=
  consensusWith fit (Random.sample src.length 4) iterations threshold src dst (Random.ofSeed seed)

end Homography
end Pinpoint
