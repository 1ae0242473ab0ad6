import Pinpoint.Box
/-!
# Listing — lists of boxes as sets of pixels

The operations that fusion, voting and matching share.  Order is first-seen order throughout.  `mergeOverlapping` runs
passes until a pass shortens the list no more; a pass that merges nothing returns its list.
-/
namespace Pinpoint
namespace Box

/-- The shared regions of the boxes of two lists, each once. -/
def pairwiseInter (l m : List Box) : List Box := (l.flatMap fun a => m.filterMap a.inter?).eraseDups

/-- The smallest box around a list. -/
def hullOf : List Box → Option Box
  | []     => none
  | b :: l => some (l.foldl hull b)

/-- The mean of the corners, each rounded to the nearest pixel. -/
def average {α : Type} [Scalar α] (l : List Box) : Option Box :=
  if l.isEmpty then none
  else
    let mean (edge : Box → Int) : Int :=
      Scalar.roundInt (Scalar.sum (l.map fun b => (Scalar.ofInt (edge b) : α)) / Scalar.ofNat l.length)
    some (ofCorners (mean left) (mean top) (mean right) (mean bottom))

/-! ## Merging what overlaps -/

/-- `b` joined to the first box of the list that it overlaps, or put at the end. -/
def absorb (b : Box) : List Box → List Box
  | []     => [b]
  | o :: l => if o.overlaps b then o.hull b :: l else o :: absorb b l

def mergePass (l : List Box) : List Box := l.foldl (fun out b => absorb b out) []

/-- **Overlapping boxes replaced by the box around them** until no two overlap. -/
def mergeOverlapping (l : List Box) : List Box :=
  if (mergePass l).length < l.length then mergeOverlapping (mergePass l) else mergePass l
termination_by l.length

end Box
end Pinpoint
