import Pinpoint.Json.Text
import Pinpoint.Normalized
import Pinpoint.Fault
import Pinpoint.Text.Blank
/-!
# Reply — what a model answers

A model is asked for one JSON object of a known shape and may wrap it: in a fenced block, or in running text.  `objectIn?`
finds the object, `decode` reads it, and each shape then says what is still wrong with a value that could be read.

The first fence that opens a block with an object wins, and such a block reaches as far as it can: to the last closing
brace before a fence.  Without a block the object goes from the first opening brace to the last closing one.
-/
namespace Pinpoint

/-- The shapes a model is asked for. -/
inductive Schema where
  /-- Boxes of everything that looks like the element. -/
  | grounding
  /-- The label of one candidate. -/
  | vote
  deriving DecidableEq, Repr, Inhabited

namespace Schema

def name : Schema → String
  | grounding => "element_grounding"
  | vote      => "candidate_vote"

/-- The declaration of an object whose fields are all required. -/
def declareObject (fields : List (String × Json)) : Json :=
  .obj [("type", .str "object"), ("properties", .obj fields), ("required", .arr (fields.map fun f => .str f.1)),
    ("additionalProperties", .bool false)]

/-- The shape as a model is told it. -/
def declaration : Schema → Json
  | grounding => declareObject [("boxes", .obj [("type", .str "array"),
      ("description", .str "Every visual occurrence of the described element"),
      ("items", declareObject (["x_min", "y_min", "x_max", "y_max"].map fun n => (n, .obj [("type", .str "number")])))])]
  | vote => declareObject [("label", .obj [("type", .str "string"),
      ("description", .str "Label of the single best-matching candidate box")])]

end Schema

namespace Reply

/-! ## Finding the object -/

/-- Three of these in a row fence a block. -/
def tick : Char := Char.ofNat 96

/-- What follows a fence at the head of a text. -/
def afterFence? : List Char → Option (List Char)
  | a :: b :: c :: cs => if a == tick && b == tick && c == tick then some cs else none
  | _                 => none

def skipTag : List Char → List Char
  | 'j' :: 's' :: 'o' :: 'n' :: cs => cs
  | cs                             => cs

/-- Whether a block may end here. -/
def closesBlock (cs : List Char) : Bool := (afterFence? (cs.dropWhile Text.isBlank)).isSome

/-- The text up to the last closing brace of which `ends` accepts what follows. -/
def upToLast (ends : List Char → Bool) : List Char → Option (List Char)
  | []      => none
  | c :: cs =>
    match upToLast ends cs with
    | some t => some (c :: t)
    | none   => if c == '\x7d' && ends cs then some [c] else none

def braced? (ends : List Char → Bool) : List Char → Option (List Char)
  | '\x7b' :: cs => (upToLast ends cs).map ('\x7b' :: ·)
  | _            => none

/-- The object of a block that opens at the head of a text. -/
def blockAt? (cs : List Char) : Option (List Char) :=
  match afterFence? cs with
  | some cs => braced? closesBlock ((skipTag cs).dropWhile Text.isBlank)
  | none    => none

/-- The object of the first block that holds one. -/
def block? : List Char → Option (List Char)
  | []      => none
  | c :: cs =>
    match blockAt? (c :: cs) with
    | some t => some t
    | none   => block? cs

/-- The text from the first opening brace to the last closing one. -/
def bare? (cs : List Char) : Option (List Char) := braced? (fun _ => true) (cs.dropWhile fun c => c != '\x7b')

/-- **The object a text holds**, as text. -/
def objectIn? (cs : List Char) : Option (List Char) :=
  match block? cs with
  | some t => some t
  | none   => bare? cs

/-! ## Reading it -/

/-- **The value of a reply**: the object found and read, unless `flaw` finds fault with it. -/
def decode {β : Type} (s : Schema) (read : Json → Option β) (flaw : β → Option String) (raw : String) :
    Except Fault β :=
  match objectIn? raw.toList with
  | none    => .error (.invalidResponse ("no JSON object in answer: " ++ raw))
  | some cs =>
    match (Json.parse? (String.ofList cs)).bind read with
    | none   => .error (.invalidResponse (s.name ++ ": not an answer of this shape"))
    | some v =>
      match flaw v with
      | some t => .error (.invalidResponse (s.name ++ ": " ++ t))
      | none   => .ok v

variable {α : Type} [Scalar α]

def readBox? (j : Json) : Option (Normalized α) :=
  match j.record? ["x_min", "y_min", "x_max", "y_max"] with
  | some [a, b, c, d] => do
    some ⟨← Json.required? Json.scalar? a, ← Json.required? Json.scalar? b, ← Json.required? Json.scalar? c,
      ← Json.required? Json.scalar? d⟩
  | _ => none

/-- Without its field an answer has no boxes. -/
def readBoxes? (j : Json) : Option (List (Normalized α)) :=
  match j.record? ["boxes"] with
  | some [boxes] => Json.optional? (fun j => j.arr?.bind fun l => l.mapM readBox?) [] boxes
  | _            => none

def flawOfBoxes (l : List (Normalized α)) : Option String :=
  if l.all Normalized.isFinite then none else some "non-finite coordinate in a box"

def readLabel? (j : Json) : Option String :=
  match j.record? ["label"] with
  | some [label] => Json.required? Json.str? label
  | _            => none

def flawOfLabel (label : String) : Option String := if Text.isAllBlank label then some "empty label" else none

/-- The boxes of a grounding reply. -/
def boxes (raw : String) : Except Fault (List (Normalized α)) := decode .grounding readBoxes? flawOfBoxes raw

/-- The label of a vote, as it was written. -/
def label (raw : String) : Except Fault String := decode .vote readLabel? flawOfLabel raw

end Reply
end Pinpoint
