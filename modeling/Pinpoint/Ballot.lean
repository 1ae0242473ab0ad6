import Pinpoint.Signal
import Pinpoint.Label
import Pinpoint.Text.Blank
import Pinpoint.Text.Case
/-!
# Ballot — labelled candidates and the count of votes

Every candidate on a ballot has a label of its own, in lower case and without blanks around it; a vote names a label in
any case and with any blanks.  Most votes win, then the larger box, then the earlier candidate.
-/
namespace Pinpoint

structure Labelled where
  label     : String
  candidate : Candidate
  deriving DecidableEq, Repr, Inhabited

namespace Labelled

def box (c : Labelled) : Box := c.candidate.box

end Labelled

/-- **Candidates, each under a label of its own.** -/
structure Ballot where
  items : List Labelled
  deriving DecidableEq, Repr, Inhabited

namespace Ballot

/-- The form in which labels are compared. -/
def canonical (s : String) : String := Text.toLower (Text.trim s)

/-- Labels drawn for candidates whose boxes differ. -/
def assign {σ : Type} (next : σ → Fin 36 × σ) (len retry : Nat) :
    (taken : List String) → List Candidate → σ → List Labelled × σ
  | _, [], g         => ([], g)
  | taken, c :: l, g =>
    let d := Label.fresh next taken len retry g
    let r := assign next len retry (d.1 :: taken) l d.2
    (⟨d.1, c⟩ :: r.1, r.2)

/-- A ballot with drawn labels; candidates with one box become one. -/
def draw {σ : Type} (next : σ → Fin 36 × σ) (len retry : Nat) (l : List Candidate) (g : σ) : Ballot × σ :=
  let r := assign next len retry [] (Candidate.collapse l) g
  (⟨r.1⟩, r.2)

def clashes (c d : Labelled) : Bool := c.label == d.label || c.candidate.box == d.candidate.box

/-- A ballot with given labels; what clashes with an earlier label or box is left out. -/
def ofLabelled (l : List Labelled) : Ballot :=
  ⟨l.foldl (fun items c =>
    let c := { c with label := canonical c.label }
    if items.any (clashes c) then items else items ++ [c]) []⟩

def isEmpty (b : Ballot) : Bool := b.items.isEmpty

def get? (b : Ballot) (label : String) : Option Labelled := b.items.find? fun c => c.label == canonical label

/-! ## Counting -/

/-- The votes that name a candidate. -/
def count (b : Ballot) (votes : List String) (c : Labelled) : Nat :=
  votes.countP fun v => ((b.get? v).map (·.label)) == some c.label

def tally (b : Ballot) (votes : List String) : List (String × Nat) := b.items.map fun c => (c.label, b.count votes c)

/-- The larger box of two, the earlier one when they are equally large. -/
def larger (best : Option Labelled) (c : Labelled) : Option Labelled :=
  match best with
  | some d => if d.candidate.box.area ≥ c.candidate.box.area then some d else some c
  | none   => some c

/-- **The candidate with the most votes**, if any vote names one. -/
def winner (b : Ballot) (votes : List String) : Option Labelled :=
  let most := (b.items.map (b.count votes)).foldl max 0
  if most = 0 then none else (b.items.filter fun c => b.count votes c == most).foldl larger none

end Ballot
end Pinpoint
