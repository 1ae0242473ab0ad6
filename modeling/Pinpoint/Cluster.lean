import Pinpoint.Box.Listing
/-!
# Cluster — groups of points that lie densely

Density clustering over any relation "`i` is near `j`" on the indices below `n`.  An index is a core when enough
indices are near it.  A cluster is what a flood from its smallest core reaches, spreading from cores only; every index
belongs to the first flood that reaches it, and an index that none reaches is noise.

The relation need be neither reflexive nor symmetric: a distance that is not a number is near nothing.
-/
namespace Pinpoint
namespace Cluster

variable {n : Nat}

def isCore (near : Fin n → Fin n → Bool) (m : Nat) (i : Fin n) : Bool := m ≤ (List.finRange n).countP (near i)

theorem length_partition {β : Type} (p : β → Bool) (l : List β) :
    (l.partition p).1.length + (l.partition p).2.length = l.length := by
  rw [List.partition_eq_filter_filter]
  induction l with
  | nil => rfl
  | cons a l ih => cases h : p a <;> simp_all <;> omega

/-- **What a flood from `front` reaches in `free`**, together with `front`, and what of `free` is left. -/
@[specialize]
def flood (near : Fin n → Fin n → Bool) (core : Fin n → Bool) :
    (front free : List (Fin n)) → List (Fin n) × List (Fin n)
  | [], free => ([], free)
  | i :: front, free =>
    if core i then
      let r := flood near core (front ++ (free.partition (near i)).1) (free.partition (near i)).2
      (i :: r.1, r.2)
    else
      let r := flood near core front free
      (i :: r.1, r.2)
termination_by front free => front.length + free.length
decreasing_by
  · have := length_partition (near i) free
    simp only [List.length_append, List.length_cons]
    omega
  · simp only [List.length_cons]
    omega

/-- The clusters begun at the indices still to look at, given what no cluster has yet. -/
@[specialize]
def clustersFrom (near : Fin n → Fin n → Bool) (core : Fin n → Bool) :
    (todo free : List (Fin n)) → List (List (Fin n))
  | [], _ => []
  | i :: todo, free =>
    if free.contains i && core i then
      let r := flood near core [i] (free.erase i)
      r.1.mergeSort (fun a b => decide (a ≤ b)) :: clustersFrom near core todo r.2
    else clustersFrom near core todo free

/-- **The clusters of a nearness relation**: index lists in increasing order, noise left out.  A core has at least
`m` indices near it, and at least one. -/
@[specialize]
def clusters (near : Fin n → Fin n → Bool) (m : Nat) : List (List (Fin n)) :=
  clustersFrom near (isCore near (max m 1)) (List.finRange n) (List.finRange n)

/-- Clusters of items at most `eps` apart. -/
@[specialize]
def dbscan {α β : Type} [Scalar α] (items : Array β) (eps : α) (m : Nat) (dist : β → β → α) : List (List (Fin items.size)) :=
  clusters (fun ⟨i, _⟩ ⟨j, _⟩ => decide (dist items[i] items[j] ≤ eps)) m

/-- Every cluster of boxes replaced by its average; boxes are as far apart as their overlap falls short of one. -/
def averageBoxes {α : Type} [Scalar α] (boxes : List Box) (iou : α) (m : Nat) : List Box :=
  let items := boxes.toArray
  (dbscan items (Scalar.ofInt 1 - iou) m fun a b => Scalar.ofInt 1 - a.iou b).filterMap fun members =>
    Box.average (α := α) (members.map fun i => items[i])

end Cluster
end Pinpoint
