import Pinpoint.Box.Listing
import Pinpoint.Signal
/-!
# Fusion — one list of candidates from three detectors

Agreement between detectors is trusted most and their union least: the first tier that yields a candidate wins, and
the tiers below it are not looked at.  Two detectors agree on the regions that a box of the one shares with a box of
the other.
-/
namespace Pinpoint
namespace Fusion

inductive Tier where
  /-- All three detectors share a region. -/
  | tripleAgreement
  /-- The vision model shares a region with a matcher. -/
  | visionAgreement
  /-- The vision model answered and nobody agrees: everything is a candidate. -/
  | rawUnion
  /-- No vision; the two matchers share a region. -/
  | algorithmicAgreement
  /-- No vision; the matchers do not agree. -/
  | algorithmicUnion
  | empty
  deriving DecidableEq, Repr, Inhabited

def Tier.name : Tier → String
  | tripleAgreement      => "triple_agreement"
  | visionAgreement      => "vision_agreement"
  | rawUnion             => "raw_union"
  | algorithmicAgreement => "algorithmic_agreement"
  | algorithmicUnion     => "algorithmic_union"
  | empty                => "empty"

structure Fused where
  tier       : Tier
  candidates : List Candidate
  deriving DecidableEq, Repr

def tag (s : Sources) (l : List Box) : List Candidate := l.map (⟨·, s⟩)

/-- The regions on which all three agree; none when a matcher is silent. -/
def tripleRegions (vision feature template : List Box) : List Box :=
  if feature.isEmpty || template.isEmpty then []
  else Box.pairwiseInter (Box.pairwiseInter vision feature) (Box.pairwiseInter vision template)

def withVision (vision feature template : List Box) : Fused :=
  let triple := tripleRegions vision feature template
  if !triple.isEmpty then
    ⟨.tripleAgreement, Candidate.collapse (tag (.ofVision ∪ .ofFeature ∪ .ofTemplate) triple)⟩
  else
    let agreed := Candidate.collapse <|
      tag (.ofVision ∪ .ofFeature) (Box.pairwiseInter vision feature) ++
      tag (.ofVision ∪ .ofTemplate) (Box.pairwiseInter vision template)
    if !agreed.isEmpty then ⟨.visionAgreement, agreed⟩
    else ⟨.rawUnion, Candidate.collapse (tag .ofVision vision ++ tag .ofFeature feature ++ tag .ofTemplate template)⟩

def withoutVision (feature template : List Box) : Fused :=
  let agreed := Box.pairwiseInter feature template
  if !agreed.isEmpty then ⟨.algorithmicAgreement, Candidate.collapse (tag (.ofFeature ∪ .ofTemplate) agreed)⟩
  else ⟨.algorithmicUnion, Candidate.collapse (tag .ofFeature feature ++ tag .ofTemplate template)⟩

/-- **The candidates of three detectors** and how far these agree. -/
def fuse (vision feature template : List Box) : Fused :=
  if !vision.isEmpty then withVision vision feature template
  else if feature.isEmpty && template.isEmpty then ⟨.empty, []⟩
  else withoutVision feature template

end Fusion
end Pinpoint
