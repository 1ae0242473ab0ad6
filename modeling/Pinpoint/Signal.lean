import Pinpoint.Box
/-!
# Signal — where a box came from

Three families of detectors look for an element: the vision model, the matching of corner features and the matching of
the reference picture as a template.  `Sources` says which of them stand behind a box; a `Candidate` is a box with its
sources, and `Candidate.collapse` gives every box one entry that carries all of its sources.
-/
namespace Pinpoint

structure Sources where
  vision   : Bool
  feature  : Bool
  template : Bool
  deriving DecidableEq, Hashable, Repr, Inhabited

namespace Sources

def none : Sources := ⟨false, false, false⟩
def ofVision : Sources := ⟨true, false, false⟩
def ofFeature : Sources := ⟨false, true, false⟩
def ofTemplate : Sources := ⟨false, false, true⟩

def union (s t : Sources) : Sources := ⟨s.vision || t.vision, s.feature || t.feature, s.template || t.template⟩

instance : Union Sources := ⟨union⟩

def isAlgorithmic (s : Sources) : Bool := s.feature || s.template

end Sources

structure Candidate where
  box     : Box
  sources : Sources
  deriving DecidableEq, Repr, Inhabited

namespace Candidate

/-- `c` joined to the entry with its box, or put at the end. -/
def push (c : Candidate) : List Candidate → List Candidate
  | []     => [c]
  | d :: l => if d.box = c.box then { d with sources := d.sources ∪ c.sources } :: l else d :: push c l

def pushAll (out l : List Candidate) : List Candidate := l.foldl (fun out c => push c out) out

/-- **One entry a box**, in first-seen order. -/
def collapse (l : List Candidate) : List Candidate := pushAll [] l

end Candidate

/-! ## What a matching detector answers -/

/-- Boxes of the feature matcher, each with the number of matches that agree on it. -/
structure FeatureSignal where
  boxes   : List Box
  inliers : List Nat
  deriving DecidableEq, Repr, Inhabited

/-- Boxes of the template matcher, each with its best score. -/
structure TemplateSignal (ν : Type) where
  boxes  : List Box
  scores : List ν
  deriving Repr, Inhabited

end Pinpoint
