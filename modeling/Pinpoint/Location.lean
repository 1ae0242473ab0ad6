import Pinpoint.Element.Record
import Pinpoint.Signal
/-!
# Location — what a search comes to

An element is found, in captured and in logical pixels and with the detectors behind the box, or it is missed, and then it
matters whether any detector proposed a box.  A miss is an answer, never a fault.
-/
namespace Pinpoint

inductive Location where
  | found (box logical : Box) (sources : Sources) (element : Element)
  | missed (algorithmic visual : Bool) (element : Element)
  deriving Inhabited

namespace Location

def isFound : Location → Bool
  | found .. => true
  | missed .. => false

def box? : Location → Option Box
  | found b _ _ _ => some b
  | missed ..     => none

def element : Location → Element
  | found _ _ _ e => e
  | missed _ _ e  => e

/-- Why an element was missed. -/
def diagnostic? : Location → Option String
  | found ..             => none
  | missed false false _ => some "neither visual grounding nor algorithmic matching produced candidates"
  | missed ..            => some "candidates were found but no single one won the selection vote"

/-! ## As JSON -/

def boxJson (b : Box) : Json :=
  .obj [("x", .ofInt b.left), ("y", .ofInt b.top), ("width", .ofNat b.width.toNat), ("height", .ofNat b.height.toNat)]

def sourcesJson (s : Sources) : Json :=
  .obj [("vision", .bool s.vision), ("feature", .bool s.feature), ("template", .bool s.template)]

/-- The answer as JSON, given the record of its element. -/
def json (l : Location) (record : Json) : Json :=
  match l with
  | found b logical s _ => .obj [("outcome", .str "found"), ("bbox", boxJson b), ("logical_bbox", boxJson logical),
      ("sources", sourcesJson s), ("element", record)]
  | missed a v _ => .obj [("outcome", .str "not_found"), ("algorithmic_attempted", .bool a), ("visual_attempted", .bool v),
      ("element", record)]

def toJson (l : Location) : Except Fault Json := l.element.toJson.map l.json

end Location
end Pinpoint
