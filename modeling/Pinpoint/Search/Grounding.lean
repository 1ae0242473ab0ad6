import Pinpoint.Search.Dialogue
import Pinpoint.Prompt
import Pinpoint.Cluster
import Pinpoint.Settings
import Pinpoint.Png
/-!
# Grounding — where a model sees the element

The picture is made small enough for the model and the question is asked once for every vote.  The boxes of all answers are
taken to pixels of the picture and cut to it.  With one vote every box counts once; with several, boxes that overlap enough
are one, at their average.
-/
namespace Pinpoint
namespace Grounding

/-- A question with what it takes to place the boxes of its answers. -/
structure Question (α : Type) where
  poll  : Poll
  ratio : α

/-- Boxes seen in a picture, and whether the asking was broken off. -/
structure Proposal where
  boxes       : List Box
  interrupted : Bool
  deriving DecidableEq, Repr

variable {ν α : Type} [Scalar α]

/-- The question about an element, at least once; a picture without pixels cannot be sent. -/
def question (s : GroundingSettings α) (e : Element) (data : String) (p : Picture) (votes : Nat) :
    Except Fault (Question α) :=
  let f : Picture.Fitted α := p.fit s.maxSide s.maxPixels
  (Png.check f.picture).map fun _ =>
    ⟨⟨.grounding, Prompt.grounding e data s.scale, f.picture, max votes 1⟩, f.ratio⟩

/-- A box of an answer as a box of the picture, if any of it is there. -/
def place (s : GroundingSettings α) (q : Question α) (p : Picture) (b : Normalized α) : Option Box :=
  match b.toPixels s.scale q.poll.picture.width q.poll.picture.height q.ratio with
  | some b => b.clip? p.width p.height
  | none   => none

def join (s : GroundingSettings α) (votes : Nat) (l : List Box) : List Box :=
  if 1 < votes then Cluster.averageBoxes l s.iou s.minPoints else l.eraseDups

/-- **What the answers propose**, as far as they could be read. -/
def propose (s : GroundingSettings α) (q : Question α) (p : Picture) (j : Joins String) : Except Fault Proposal :=
  (Harvest.collect (j.map (TaskEnd.andThen Reply.boxes))).map fun h =>
    ⟨join s q.poll.votes (h.values.flatten.filterMap (place s q p)), h.interrupted⟩

/-- The search for an element by a model alone. -/
def detect (s : GroundingSettings α) (e : Element) (data : String) (p : Picture) (votes : Nat) : Dialogue ν Proposal := do
  let q ← question s e data p votes
  let j ← Dialogue.query (.poll q.poll)
  propose s q p j

end Grounding
end Pinpoint
