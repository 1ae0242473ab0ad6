import Pinpoint.Scalar
/-!
# Toml — values of a configuration text

A configuration is a table of named values.  A record is read from a table by its field names, or from an array in field
order; what is left over is passed over.  Whole numbers serve as numbers of any kind, within the range of that kind.
-/
namespace Pinpoint

inductive Toml where
  | str (s : String)
  | int (n : Int)
  | float (v : Float)
  | bool (b : Bool)
  /-- A date, a time or both, as it was written. -/
  | date (text : String)
  | arr (items : List Toml)
  | table (fields : List (String × Toml))
  deriving Inhabited

namespace Toml

/-- **The values of the named fields**; an array must have at least `least` items.  A date has no fields. -/
def record? (names : List String) (least : Nat) : Toml → Option (List (Option Toml))
  | table fields => some (names.map fun n => fields.lookup n)
  | arr items    => if least ≤ items.length then some (names.mapIdx fun i _ => items[i]?) else none
  | date _       => some (names.map fun _ => none)
  | _            => none

/-- A field that must be there. -/
def required? {β : Type} (read : Toml → Option β) : Option Toml → Option β
  | some t => read t
  | none   => none

/-- A field with a default. -/
def optional? {β : Type} (read : Toml → Option β) (default : β) : Option Toml → Option β
  | some t => read t
  | none   => some default

/-- A field that may be missing. -/
def maybe? {β : Type} (read : Toml → Option β) : Option Toml → Option (Option β)
  | some t => (read t).map some
  | none   => some none

def str? : Toml → Option String
  | str s => some s
  | _     => none

def bool? : Toml → Option Bool
  | bool b => some b
  | _      => none

/-- A whole number from zero to below a bound. -/
def nat? (bound : Nat) : Toml → Option Nat
  | int n => if 0 ≤ n ∧ n < bound then some n.toNat else none
  | _     => none

def float? : Toml → Option Float
  | int n   => some (Float.ofInt n)
  | float v => some v
  | _       => none

/-- A number kept in fewer digits. -/
def narrow? : Toml → Option Float32
  | int n   => some (Float32.ofInt n)
  | float v => some v.toFloat32
  | _       => none

end Toml
end Pinpoint
