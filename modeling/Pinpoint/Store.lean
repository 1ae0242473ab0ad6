import Pinpoint.Element
import Pinpoint.Embedding
/-!
# Store — elements found by what is said about them

A store keeps elements in the order in which they came, each under an identity of its own and with the vector of the text
it is known by.  `find` ranks them against a text.  An operation that fails leaves the store as it was.

The embedding is a parameter, and it may fail.
-/
namespace Pinpoint

/-- A stored element with its vector. -/
structure Entry (ν : Type) where
  element : Element
  vector  : List ν

structure Store (ν : Type) where
  entries : List (Entry ν)

/-- How texts become vectors. -/
abbrev Embedder (ν : Type) := String → Except Fault (List ν)

namespace Embedder

variable {ν : Type} [Scalar ν]

/-- The embedding of a dimension; there is none of dimension zero. -/
def ofDimension (dimension : Nat) : Except Fault (Embedder ν) :=
  if dimension = 0 then .error (.repository "embedding dimension must be positive")
  else .ok fun text => .ok (Embedding.embed dimension text)

/-- The embedding used when nothing is said. -/
def standard : Embedder ν := fun text => .ok (Embedding.embed 512 text)

end Embedder

namespace Store

variable {ν : Type}

def empty : Store ν := ⟨[]⟩

def size (s : Store ν) : Nat := s.entries.length

def isEmpty (s : Store ν) : Bool := s.entries.isEmpty

/-- The text an element is known by. -/
def indexText (e : Element) : String := " ".intercalate [e.name, e.description, e.location, e.page]

def contains (s : Store ν) (id : String) : Bool := s.entries.any fun e => e.element.id == id

def get? (s : Store ν) (id : String) : Option Element := (s.entries.find? fun e => e.element.id == id).map (·.element)

/-- The entry of its identity replaced, the first one if there were more. -/
def put (entry : Entry ν) : List (Entry ν) → List (Entry ν)
  | []     => []
  | e :: l => if e.element.id == entry.element.id then entry :: l else e :: put entry l

/-- A new element at the end; its identity must be new. -/
def insert (embed : Embedder ν) (s : Store ν) (e : Element) : Except Fault (Store ν) := do
  let v ← embed (indexText e)
  if s.contains e.id then .error (.repository ("element id '" ++ e.id ++ "' already stored"))
  else .ok ⟨s.entries ++ [⟨e, v⟩]⟩

/-- An element in the place of the one of its identity. -/
def replace (embed : Embedder ν) (s : Store ν) (e : Element) : Except Fault (Store ν) := do
  let v ← embed (indexText e)
  if s.contains e.id then .ok ⟨put ⟨e, v⟩ s.entries⟩
  else .error (.repository ("no element with id '" ++ e.id ++ "' to replace"))

variable [Scalar ν]

/-- The entries that reach a score, with their scores, best first and else in the order of the store. -/
def ranked (entries : List (Entry ν)) (query : List ν) (minScore : ν) : List (Element × ν) :=
  ((entries.map fun e => (e.element, Embedding.cosine query e.vector)).filter fun h => decide (minScore ≤ h.2)).mergeSort
    fun a b => decide (b.2 ≤ a.2)

/-- **Up to `top` elements that a text may mean**, best first. -/
def find (embed : Embedder ν) (s : Store ν) (text : String) (top : Nat) (minScore : ν) :
    Except Fault (List (Element × ν)) :=
  if Text.isAllBlank text then .error (.invalidInput "empty retrieval query")
  else do
    let query ← embed text
    .ok ((ranked s.entries query minScore).take top)

end Store
end Pinpoint
