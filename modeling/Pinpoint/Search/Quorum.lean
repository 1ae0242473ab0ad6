import Pinpoint.Search.Dialogue
import Pinpoint.Prompt
import Pinpoint.Ballot
import Pinpoint.Settings
import Pinpoint.Picture.Annotate
import Pinpoint.Picture.Fit
import Pinpoint.Png
/-!
# Quorum — a vote between candidates

The candidates are drawn into the picture under their labels and listed with their boxes, and every vote names one label.
Votes that name none are dropped.  Without candidates there is nothing to ask.
-/
namespace Pinpoint
namespace Quorum

/-- How a vote went. -/
structure Verdict where
  winner      : Option Labelled
  tally       : List (String × Nat)
  interrupted : Bool
  deriving Repr

variable {ν α : Type} [Scalar α]

def listed (b : Ballot) : List (String × Box) := b.items.map fun c => (c.label, c.box)

/-- The question to all voters, at least one. -/
def question (s : GroundingSettings α) (e : Element) (data : String) (b : Ballot) (p : Picture) (votes : Nat) :
    Except Fault Poll :=
  let f : Picture.Fitted α := (Annotate.annotate p (listed b)).fit s.maxSide s.maxPixels
  (Png.check f.picture).map fun _ => ⟨.vote, Prompt.selection e data (listed b), f.picture, max votes 1⟩

/-- **What the votes come to.** -/
def decide (b : Ballot) (j : Joins String) : Except Fault Verdict :=
  (Harvest.collect (j.map (TaskEnd.andThen Reply.label))).map fun h =>
    ⟨b.winner h.values, b.tally h.values, h.interrupted⟩

def select (s : GroundingSettings α) (e : Element) (data : String) (b : Ballot) (p : Picture) (votes : Nat) :
    Dialogue ν Verdict :=
  if b.isEmpty then pure ⟨none, [], false⟩
  else do
    let q ← question s e data b p votes
    let j ← Dialogue.query (.poll q)
    decide b j

end Quorum
end Pinpoint
