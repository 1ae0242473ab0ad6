import Pinpoint.Search.Grounding
import Pinpoint.Search.Quorum
import Pinpoint.Fusion
import Pinpoint.Zoom
import Pinpoint.Display
import Pinpoint.Location
import Pinpoint.Store
/-!
# Locator — the search for an element on a screen

Models and, where they may, the matchers propose boxes; the proposals are fused, and a vote decides when more than one
candidate is left.  A small element is first looked for roughly on the whole screen and then closely in an enlarged part
around what was seen.

Matching takes a reference picture whose pixels can be trusted: an element that shows data of the run has none.  A stop
request ends a search with the fault `interrupted`, and only that uses the request up.
-/
namespace Pinpoint

/-- A captured screen. -/
structure Capture (α : Type) where
  picture : Picture
  display : Display α

def Capture.ofPicture {α : Type} [Scalar α] (p : Picture) (scale : α) : Capture α :=
  ⟨p, Display.ofSize p.width p.height scale⟩

namespace Locator

variable {ν α : Type} [Scalar ν] [Scalar α]

/-- What models and matchers propose. -/
structure Proposals (ν : Type) where
  vision  : List Box
  matched : Match.Matched ν

/-- What one pass over a picture came to. -/
structure Finding where
  winner      : Option Candidate
  visual      : Bool
  algorithmic : Bool
  deriving Repr

def Finding.nothing : Finding := ⟨none, false, false⟩

/-! ## One pass -/

/-- The two sides of a gathering together; of two faults the one that came first. -/
def combine (vision : Except Fault Grounding.Proposal) (matched : Except Fault (Match.Matched ν)) (matchedFirst : Bool) :
    Except Fault (Grounding.Proposal × Match.Matched ν) :=
  match vision, matched with
  | .ok v, .ok m       => .ok (v, m)
  | .error e, .ok _    => .error e
  | .ok _, .error e    => .error e
  | .error e, .error f => .error (if matchedFirst then f else e)

/-- The proposals for a picture, with matching if there is a reference; an interruption is a fault. -/
def gather (c : LocatorSettings ν α) (e : Element) (data : String) (p : Picture) (reference : Option Picture) :
    Dialogue ν (Proposals ν) := do
  let q ← Grounding.question c.grounding e data p c.grounding.votes
  match reference with
  | none =>
    let j ← Dialogue.query (.poll q.poll)
    let v ← Grounding.propose c.grounding q p j
    if v.interrupted then Dialogue.fail .interrupted else pure ⟨v.boxes, Match.Matched.nothing⟩
  | some r =>
    let g ← Dialogue.query (ν := ν) (.gather q.poll p r)
    let (v, m) ← combine (Grounding.propose c.grounding q p g.votes) g.matched g.matchedFirst
    if v.interrupted || m.interrupted then Dialogue.fail .interrupted else pure ⟨v.boxes, m⟩

def fuse (p : Proposals ν) : List Candidate :=
  (Fusion.fuse p.vision p.matched.feature.boxes p.matched.template.boxes).candidates

/-- The letter at a place of a stream, and the place after it. -/
def letterAt (s : Nat → Fin 36) (i : Nat) : Fin 36 × Nat := (s i, i + 1)

/-- The one of several candidates that a vote names. -/
def arbitrate (c : LocatorSettings ν α) (e : Element) (data : String) (p : Picture) (l : List Candidate) :
    Dialogue ν (Option Candidate) := do
  let letters ← Dialogue.query .letters
  let ballot := (Ballot.draw (letterAt letters) c.quorum.labelLength c.quorum.retryLimit l 0).1
  let v ← Quorum.select c.grounding e data ballot p c.quorum.votes
  if v.interrupted then Dialogue.fail .interrupted else pure (v.winner.map (·.candidate))

/-- A single candidate needs no vote. -/
def choose (c : LocatorSettings ν α) (e : Element) (data : String) (p : Picture) : List Candidate →
    Dialogue ν (Option Candidate)
  | []  => pure none
  | [d] => pure (some d)
  | l   => arbitrate c e data p l

/-- **One pass over a picture.** -/
def detect (c : LocatorSettings ν α) (e : Element) (data : String) (p : Picture) (reference : Option Picture) :
    Dialogue ν Finding := do
  let l ← gather c e data p reference
  let winner ← choose c e data p (fuse l)
  pure ⟨winner, !l.vision.isEmpty, l.matched.any⟩

/-! ## A closer look -/

/-- The boxes a closer look starts from: fused ones if matching took part. -/
def coarseBoxes (matching : Bool) (p : Proposals ν) : List Box :=
  if matching then (fuse p).map (·.box) else p.vision

/-- A reference stretched as the part was. -/
def stretch (s : Lens α) (r : Picture) : Picture :=
  Resample.resize .lanczos r (Picture.scaledSide r.width s.factorX) (Picture.scaledSide r.height s.factorY)

/-- The pass over an enlarged part around the coarse boxes; the region is chosen by the size of the element's picture even
where its pixels may not be used. -/
def lookCloser (c : LocatorSettings ν α) (e : Element) (data : String) (p : Picture) (coarse : Box) :
    Dialogue ν Finding := do
  let region := Zoom.extend c.zoom.margin coarse (e.screenshot.map fun r => (r.width, r.height)) p.width p.height
  let part ← Zoom.look c.zoom p region
  let reference := if c.zoom.matchInside then e.reference?.map (stretch part.lens) else none
  let f ← detect c e data part.picture reference
  pure { f with winner := f.winner.map fun d => { d with box := part.lens.toWhole d.box } }

/-- **A rough pass over the whole picture, then a closer look** at what it saw. -/
def zoomIn (c : LocatorSettings ν α) (e : Element) (data : String) (p : Picture) : Dialogue ν Finding := do
  let reference := if c.zoom.matchBefore then e.reference? else none
  let l ← gather c e data p reference
  match Box.hullOf (coarseBoxes reference.isSome l) with
  | none        => pure Finding.nothing
  | some coarse => lookCloser c e data p coarse

/-! ## The whole search -/

/-- A finding as the answer about a captured screen; a box that is nowhere on the screen stays as it is. -/
def report (shot : Capture α) (e : Element) (f : Finding) : Location :=
  match f.winner with
  | none   => .missed f.algorithmic f.visual e
  | some d =>
    let box := (d.box.clip? shot.picture.width shot.picture.height).getD d.box
    .found box ((Scaling.ofDisplay shot.display).boxToLogical box) d.sources e

def search (c : LocatorSettings ν α) (e : Element) (data : String) (shot : Capture α) : Dialogue ν Location :=
  .ask .stopped fun (stopped : Bool) =>
    if stopped then Dialogue.fail .interrupted
    else do
      let f ← if e.zoom then zoomIn c e data shot.picture else detect c e data shot.picture e.reference?
      pure (report shot e f)

/-- An interruption uses the stop request up; nothing else does. -/
def consumeStop {β : Type} : Except Fault β → Dialogue ν β
  | .error .interrupted => .ask .clearStop fun _ => Dialogue.fail .interrupted
  | r                   => .done r

/-- **The location of an element on a captured screen.** -/
def locateIn (c : LocatorSettings ν α) (e : Element) (data : String) (shot : Capture α) : Dialogue ν Location := do
  e.validate
  (search c e data shot).onEnd consumeStop

/-- The location of an element on the screen as it is captured now. -/
def locate (c : LocatorSettings ν α) (capture : Except Fault (Capture α)) (e : Element) (data : String) :
    Dialogue ν Location := do
  e.validate
  let shot ← capture
  locateIn c e data shot

/-- The location of the stored element that a text means. -/
def locateByText (c : LocatorSettings ν α) (capture : Except Fault (Capture α)) (embed : Embedder ν) (store : Store ν)
    (text data : String) (minScore : ν) : Dialogue ν Location := do
  match ← store.find embed text 1 minScore with
  | []     => Dialogue.fail (.invalidInput ("no stored element matches '" ++ text ++ "'"))
  | h :: _ => locate c capture h.1 data

end Locator
end Pinpoint
