import Pinpoint.Scalar
/-!
# Settings — what can be tuned

One record for each stage of a search, with the values it has when nothing is said.  Thresholds that are compared with
narrow numbers are narrow themselves.
-/
namespace Pinpoint

structure GroundingSettings (α : Type) [Scalar α] where
  /-- Independent questions to the model. -/
  votes     : Nat := 3
  /-- Boxes that overlap at least this much are one. -/
  iou       : α := Scalar.ratio 6 10
  minPoints : Nat := 1
  /-- The model answers in a frame from zero to this on both axes. -/
  scale     : α := Scalar.ofInt 1000
  maxSide   : Nat := 1568
  maxPixels : Nat := 1150000

structure FeatureSettings (ν α : Type) [Scalar ν] [Scalar α] where
  maxKeypoints  : Nat := 1500
  fastThreshold : Nat := 20
  /-- The best distance must be below this part of the second best. -/
  ratio         : ν := Scalar.ratio 3 4
  /-- How near two matched points of one region are, in sides of the reference. -/
  clusterRadius : α := Scalar.ratio 3 4
  minMatches    : Nat := 6
  iterations    : Nat := 500
  /-- The distance in pixels at which a match still agrees with a mapping. -/
  reprojection  : α := Scalar.ofInt 3
  /-- How far the size of a region may be from that of the reference, relative to the latter. -/
  sizeTolerance : α := Scalar.ratio 3 10
  seed          : UInt64 := 1592531575

structure TemplateSettings (ν α : Type) [Scalar ν] [Scalar α] where
  threshold     : ν := Scalar.ratio 85 100
  maxMatches    : Nat := 5
  /-- How far pictures are shrunk for the coarse pass. -/
  coarseScale   : α := Scalar.ratio 1 4
  /-- The shorter side of the template stays at least this long in the coarse pass. -/
  minCoarseSide : Nat := 12

structure QuorumSettings where
  votes       : Nat := 3
  labelLength : Nat := 2
  retryLimit  : Nat := 32

structure ZoomSettings (α : Type) [Scalar α] where
  /-- The width of a zoomed region in widths of the element. -/
  margin     : α := Scalar.ofInt 4
  maxUpscale : α := Scalar.ofInt 4
  /-- Matching also runs inside the zoomed region. -/
  matchInside : Bool := false
  /-- Matching also runs on the whole picture before zooming. -/
  matchBefore : Bool := false

structure LocatorSettings (ν α : Type) [Scalar ν] [Scalar α] where
  grounding : GroundingSettings α := {}
  feature   : FeatureSettings ν α := {}
  template  : TemplateSettings ν α := {}
  quorum    : QuorumSettings := {}
  zoom      : ZoomSettings α := {}

end Pinpoint
