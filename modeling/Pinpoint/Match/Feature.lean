import Pinpoint.Match.Descriptor
import Pinpoint.Match.Homography
import Pinpoint.Cluster
import Pinpoint.Settings
import Pinpoint.Signal
/-!
# Feature — regions that have the corners of another picture

Every keypoint of the reference is paired with the keypoint of the scene that looks most like it, if no other looks nearly
as much like it.  The pairs are grouped by where they lie in the scene; a group that agrees on a mapping gives the region
onto which the mapping takes the reference, if that has about the size of the reference.
-/
namespace Pinpoint
namespace Match

/-! ## Pairs -/

/-- Above this distance two descriptors never match. -/
def maxDistance : Nat := 80

/-- The nearest of some descriptors: its index, its distance and the distance of the second nearest. -/
structure Nearest where
  index  : Nat
  best   : Option Nat
  second : Option Nat
  deriving DecidableEq, Repr

def below (d : Nat) : Option Nat → Bool
  | some e => d < e
  | none   => true

/-- One more descriptor at index `i` and distance `d`. -/
def Nearest.push (n : Nearest) (i d : Nat) : Nearest :=
  if below d n.best then ⟨i, some d, n.best⟩
  else if below d n.second then { n with second := some d }
  else n

def nearest (p : Descriptor) (scene : List Descriptor) : Nearest :=
  (scene.foldl (fun (acc : Nat × Nearest) q => (acc.1 + 1, acc.2.push acc.1 (p.distance q))) (0, ⟨0, none, none⟩)).2

/-- Whether the nearest is near enough, and near enough compared with the second. -/
def Nearest.passes {ν : Type} [Scalar ν] (ratio : ν) (n : Nearest) : Bool :=
  match n.best, n.second with
  | some d, some e => d ≤ maxDistance && decide ((Scalar.ofNat d : ν) < ratio * Scalar.ofNat e)
  | _, _           => false

/-- **The pairs of descriptors that match**, in the order of the reference. -/
def matchDescriptors {ν : Type} [Scalar ν] (ratio : ν) (reference scene : List Descriptor) : List (Nat × Nat) :=
  if scene.length < 2 then []
  else reference.zipIdx.filterMap fun p =>
    let n := nearest p.1 scene
    if n.passes ratio then some (p.2, n.index) else none

/-! ## Regions -/

variable {ν ω : Type} [Scalar ν] [Scalar ω]

/-- The box around the image of a rectangle at the origin, if it is finite and has any area. -/
def projectSize (m : Mat3 ω) (width height : UInt32) : Option Box := do
  let o : ω := Scalar.ofInt 0
  let w : ω := Scalar.ofNat width.toNat
  let h : ω := Scalar.ofNat height.toNat
  let l ← [(o, o), (w, o), (w, h), (o, h)].mapM m.project
  if !l.all fun p => Scalar.isFinite p.1 && Scalar.isFinite p.2 then none
  else match l with
    | []     => none
    | p :: l =>
      let b := Box.ofCorners (Scalar.roundInt (l.foldl (fun a q => Scalar.min a q.1) p.1))
        (Scalar.roundInt (l.foldl (fun a q => Scalar.min a q.2) p.2))
        (Scalar.roundInt (l.foldl (fun a q => Scalar.max a q.1) p.1))
        (Scalar.roundInt (l.foldl (fun a q => Scalar.max a q.2) p.2))
      if b.isEmpty then none else some b

/-- A length within a part of another. -/
def sideWithin (tolerance : ω) (n wanted : UInt32) : Bool :=
  Scalar.abs (Scalar.ratio n.toNat wanted.toNat - Scalar.ofInt 1) ≤ tolerance

def sizeWithin (tolerance : ω) (b : Box) (width height : UInt32) : Bool :=
  sideWithin tolerance b.width width && sideWithin tolerance b.height height

/-- A pair of points: where a keypoint is in the reference, and where in the scene. -/
structure PointPair (ω : Type) where
  source : Point ω
  target : Point ω

def pairPoints (reference scene : Array Keypoint) (l : List (Nat × Nat)) : List (PointPair ω) :=
  l.filterMap fun m => do
    let p ← reference[m.1]?
    let q ← scene[m.2]?
    some ⟨(Scalar.ofNat p.x, Scalar.ofNat p.y), (Scalar.ofNat q.x, Scalar.ofNat q.y)⟩

/-- The region of a group of pairs, with the number of pairs that agree on it. -/
@[specialize]
def regionOf (c : FeatureSettings ν ω) (scene reference : Picture) (l : List (PointPair ω)) : Option (Box × Nat) := do
  let consensus ← Homography.ransac c.iterations c.reprojection c.seed (l.map (·.source)) (l.map (·.target))
  let region ← projectSize consensus.mapping reference.width reference.height
  if !sizeWithin c.sizeTolerance region reference.width reference.height then none
  else
    let clipped ← region.clip? scene.width scene.height
    some (clipped, consensus.inliers.length)

/-- The groups of pairs that lie together in the scene. -/
@[specialize]
def groups (eps : ω) (pairs : Array (PointPair ω)) : List (List (PointPair ω)) :=
  (Cluster.dbscan pairs eps 2 fun p q => Homography.distance p.target q.target).map fun members =>
    members.map fun i => pairs[i]

/-- **Where the reference occurs in the scene**, with the number of matches behind each place. -/
@[specialize]
def findFeatures (c : FeatureSettings ν ω) (scene reference : Picture) : FeatureSignal :=
  let least := max c.minMatches 4
  let keypoints (p : Picture) : Array Keypoint := (Keypoint.extract p.toLuma c.fastThreshold c.maxKeypoints).toArray
  let ours := keypoints reference
  if ours.size < least then ⟨[], []⟩
  else
    let theirs := keypoints scene
    let pairs := matchDescriptors c.ratio (ours.toList.map (·.descriptor)) (theirs.toList.map (·.descriptor))
    if pairs.length < least then ⟨[], []⟩
    else
      let eps := c.clusterRadius * Scalar.ofNat (max reference.w reference.h)
      let found := ((groups eps (pairPoints ours theirs pairs).toArray).filter fun g => least ≤ g.length).filterMap
        (regionOf c scene reference)
      ⟨found.map (·.1), found.map (·.2)⟩

end Match
end Pinpoint
