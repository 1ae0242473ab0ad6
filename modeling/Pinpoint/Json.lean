import Pinpoint.Decimal
/-!
# Json — values with ordered, possibly repeated fields

What a JSON text says, field for field in the order of the text.  A text may be well formed and still stand for no value:
a string with half of a surrogate pair, or an object with such a key.  `unreadable` keeps its place, so that a reader
that skips it goes on and every reader that wants it fails.

A record is read by its field names, from an object or from an array in field order: `record?` gives each field its value
if there is one, and fails on a field that comes twice and on an array that is too long.
-/
namespace Pinpoint

inductive Json where
  | null
  | bool (b : Bool)
  | num (n : Decimal)
  | str (s : String)
  | arr (items : List Json)
  | obj (fields : List (String × Json))
  /-- A well-formed text that no value stands for. -/
  | unreadable
  deriving Inhabited, Repr

namespace Json

def ofNat (n : Nat) : Json := num (Decimal.ofInt n)
def ofInt (n : Int) : Json := num (Decimal.ofInt n)

/-- What is not a finite number is `null`. -/
def ofFloat (v : Float) : Json := if v.isFinite then num (Decimal.shortest v) else null

def str? : Json → Option String
  | str s => some s
  | _     => none

def bool? : Json → Option Bool
  | bool b => some b
  | _      => none

def arr? : Json → Option (List Json)
  | arr l => some l
  | _     => none

def int? : Json → Option Int
  | num n => n.toInt?
  | _     => none

/-- A number by the quick reading. -/
def scalar? {α : Type} [Scalar α] : Json → Option α
  | num n => n.scaled?
  | _     => none

/-- The last field of a name: a later one replaces an earlier one. -/
def get? (j : Json) (name : String) : Option Json :=
  match j with
  | obj fields => (fields.reverse.find? fun f => f.1 == name).map (·.2)
  | _          => none

/-- Every field of a name changed; all else stays. -/
def mapField (name : String) (f : Json → Json) : Json → Json
  | obj fields => obj (fields.map fun p => if p.1 == name then (p.1, f p.2) else p)
  | j          => j

/-- Every item of an array changed. -/
def mapItems (f : Json → Json) : Json → Json
  | arr l => arr (l.map f)
  | j     => j

/-! ## Records -/

/-- The one field of a name; `none` inside when it is missing, and no answer when it comes twice. -/
def single? (fields : List (String × Json)) (name : String) : Option (Option Json) :=
  match fields.filter fun f => f.1 == name with
  | []  => some none
  | [f] => some (some f.2)
  | _   => none

/-- **The values of the named fields**, from an object or from an array in field order. -/
def record? (names : List String) : Json → Option (List (Option Json))
  | obj fields => names.mapM (single? fields)
  | arr items  => if items.length ≤ names.length then
      some (names.mapIdx fun i _ => items[i]?) else none
  | _          => none

/-- A field that must be there. -/
def required? {β : Type} (read : Json → Option β) : Option Json → Option β
  | some j => read j
  | none   => none

/-- A field with a default for when it is missing; `null` is not missing. -/
def optional? {β : Type} (read : Json → Option β) (default : β) : Option Json → Option β
  | some j => read j
  | none   => some default

/-! ## Values that are read in full -/

mutual

/-- Nothing unreadable, no number out of range, and at most `depth` arrays and objects inside one another. -/
def isPlain (depth : Nat) : Json → Bool
  | null | bool _ | str _ => true
  | num n      => (n.scaled? (α := Float)).isSome
  | unreadable => false
  | arr items  => match depth with
    | 0         => false
    | depth + 1 => allPlain depth items
  | obj fields => match depth with
    | 0         => false
    | depth + 1 => allFieldsPlain depth fields

def allPlain (depth : Nat) : List Json → Bool
  | []     => true
  | j :: l => isPlain depth j && allPlain depth l

def allFieldsPlain (depth : Nat) : List (String × Json) → Bool
  | []          => true
  | (_, j) :: l => isPlain depth j && allFieldsPlain depth l

end

end Json
end Pinpoint
