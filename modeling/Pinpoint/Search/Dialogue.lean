import Pinpoint.Match.Matcher
import Pinpoint.Reply
/-!
# Dialogue — a search and the world around it

A search is a tree of questions: it asks the world something, and how it goes on depends on the reply; in the end it has an
answer or a fault.  Whatever does not follow from the search itself is a reply: what models say and in which order, what
the matchers find, which letters are drawn, and when somebody asks to stop.  `run` lets a search talk to a world.
-/
namespace Pinpoint

/-- One question to a model, asked several times at once. -/
structure Poll where
  schema  : Schema
  prompt  : String
  picture : Picture
  votes   : Nat

/-- What a search asks of the world. -/
inductive Query where
  /-- Was a stop requested? -/
  | stopped
  /-- The stop request is used up. -/
  | clearStop
  /-- Letters for labels. -/
  | letters
  /-- What do the models say? -/
  | poll (p : Poll)
  /-- The same while the matchers look for a reference in a picture. -/
  | gather (p : Poll) (whole reference : Picture)

/-- The reply when models and matchers work side by side. -/
structure Gathered (ν : Type) where
  votes        : Joins String
  matched      : Except Fault (Match.Matched ν)
  /-- Whether the matchers ended before the models did. -/
  matchedFirst : Bool

def Query.Reply (ν : Type) : Query → Type
  | stopped    => Bool
  | clearStop  => Unit
  | letters    => Nat → Fin 36
  | poll _     => Joins String
  | gather ..  => Gathered ν

/-- **A search**: an answer or a fault, or a question and how each reply is taken. -/
inductive Dialogue (ν β : Type) where
  | done (r : Except Fault β)
  | ask (q : Query) (next : q.Reply ν → Dialogue ν β)

namespace Dialogue

variable {ν β γ : Type}

/-- One search after the end of another, however that ended. -/
def onEnd (f : Except Fault β → Dialogue ν γ) : Dialogue ν β → Dialogue ν γ
  | done r     => f r
  | ask q next => ask q fun r => onEnd f (next r)

/-- A fault ends the whole. -/
def bind (d : Dialogue ν β) (f : β → Dialogue ν γ) : Dialogue ν γ :=
  d.onEnd fun
    | .ok v    => f v
    | .error e => done (.error e)

instance : Monad (Dialogue ν) where
  pure v := done (.ok v)
  bind   := bind

instance : MonadLift (Except Fault) (Dialogue ν) := ⟨done⟩

def fail (e : Fault) : Dialogue ν β := done (.error e)

def query (q : Query) : Dialogue ν (q.Reply ν) := ask q fun r => done (.ok r)

/-- **The end of a search in a world.** -/
def run {m : Type → Type} [Monad m] (world : (q : Query) → m (q.Reply ν)) : Dialogue ν β → m (Except Fault β)
  | done r     => pure r
  | ask q next => do
    let r ← world q
    run world (next r)

end Dialogue
end Pinpoint
