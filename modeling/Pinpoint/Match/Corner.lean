import Pinpoint.Picture
/-!
# Corner — pixels that stand out from their surroundings

A pixel is a corner when nine neighbours in a row on a ring of sixteen are all brighter than it by more than a threshold,
or all darker, and two of the four extreme neighbours already are.  Its score is the largest threshold at which it still
is one.  The ring is visited in a fixed order of its own.  `thin` keeps the strongest corner of each neighbourhood.
-/
namespace Pinpoint
namespace Match

structure Corner where
  x     : Nat
  y     : Nat
  score : Nat
  deriving DecidableEq, Repr, Inhabited

namespace Corner

/-- The top, right, bottom and left extreme of the ring, as offsets. -/
def top : Int × Int := (0, -3)
def right : Int × Int := (3, 0)
def bottom : Int × Int := (0, 3)
def left : Int × Int := (-3, 0)

/-- The order in which the ring is read. -/
def ring : List (Int × Int) :=
  [top, (1, -3), (2, -2), (3, -1), bottom, (3, 1), (2, 2), (1, 3), right, (-1, 3), (-2, 2), (-3, 1), left, (-3, -1),
   (-2, -2), (-1, -3)]

/-- A pixel by offset from `(x, y)`. -/
def level (g : Picture) (x y : Nat) (o : Int × Int) : Int := (g.byte (x + o.1).toNat (y + o.2).toNat 0).toNat

/-- `n` in a row, given how many there are in a row so far. -/
def hasRun (n : Nat) : (soFar : Nat) → List Bool → Bool
  | _, []         => false
  | k, true :: l  => k + 1 == n || hasRun n (k + 1) l
  | _, false :: l => hasRun n 0 l

/-- Nine in a row on the closed ring pass a test, and so do two neighbouring extremes. -/
def arc (test : Int × Int → Bool) : Bool :=
  ((test top && test bottom) || (test bottom && test right) || (test right && test left) || (test left && test top)) &&
    (let marks := ring.map test; hasRun 9 0 (marks ++ marks.take 8))

/-- A corner at a threshold; never within three pixels of the edge. -/
def isCorner (g : Picture) (threshold : Int) (x y : Nat) : Bool :=
  if x < 3 ∨ y < 3 ∨ g.w ≤ x + 3 ∨ g.h ≤ y + 3 then false
  else
    let c := level g x y (0, 0)
    arc (fun o => c + threshold < level g x y o) || arc fun o => level g x y o < c - threshold

/-- The largest threshold from `lo` to `hi` at which a corner at `lo` still is one, by halving. -/
def scoreBetween (test : Nat → Bool) (lo hi : Nat) : Nat :=
  if h : hi ≤ lo then lo
  else
    let probe := if hi = lo + 1 then hi else (lo + hi) / 2
    if test probe then scoreBetween test probe hi else scoreBetween test lo (probe - 1)
termination_by hi - lo
decreasing_by
  · split <;> omega
  · split <;> omega

/-- All corners at a threshold, row after row. -/
def detect (g : Picture) (threshold : Nat) : List Corner :=
  (List.range g.h).flatMap fun y => (List.range g.w).filterMap fun x =>
    if isCorner g threshold x y then
      some ⟨x, y, scoreBetween (fun t => isCorner g t x y) threshold 255⟩
    else none

/-! ## Thinning -/

/-- Stronger first, then higher up, then further left. -/
def precedes (a b : Corner) : Bool :=
  if a.score = b.score then (if a.y = b.y then a.x ≤ b.x else a.y < b.y) else b.score < a.score

/-- The places of a grid of size `w` by `h` at most three from `(x, y)` both ways. -/
def around (w h x y : Nat) : List (Nat × Nat) :=
  (List.range' (y - 3) (min (y + 3) (h - 1) + 1 - (y - 3))).flatMap fun j =>
    (List.range' (x - 3) (min (x + 3) (w - 1) + 1 - (x - 3))).map fun i => (i, j)

/-- `left` more corners, none near a place already taken. -/
def thinFrom (w h : Nat) : (left : Nat) → (taken : Array Bool) → List Corner → List Corner
  | 0, _, _                  => []
  | _ + 1, _, []             => []
  | left + 1, taken, c :: cs =>
    if (around w h c.x c.y).any fun p => taken.getD (p.2 * w + p.1) false then thinFrom w h (left + 1) taken cs
    else c :: thinFrom w h left (taken.setIfInBounds (c.y * w + c.x) true) cs

/-- **At most `limit` corners** of a picture of size `w` by `h`, no two of them within three pixels both ways. -/
def thin (w h limit : Nat) (l : List Corner) : List Corner := thinFrom w h limit (Array.replicate (w * h) false) l

end Corner
end Match
end Pinpoint
