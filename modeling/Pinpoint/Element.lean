import Pinpoint.Picture
import Pinpoint.Fault
import Pinpoint.Text.Blank
/-!
# Element — what is looked for

The record of an element of a user interface: what it looks like in words, where it is found, and, if there is one, a
picture of it.  Attributes whose values change with the data of a run make a picture of it useless for matching.
-/
namespace Pinpoint

structure Element where
  id             : String
  name           : String
  description    : String
  /-- Where the element is, told by what is around it. -/
  location       : String := ""
  page           : String := ""
  screenshot     : Option Picture := none
  /-- Too small to be found without a closer look. -/
  zoom           : Bool := false
  /-- The attributes that show data of the run. -/
  dataAttributes : List String := []
  deriving Inhabited

namespace Element

def isDataDependent (e : Element) : Bool := !e.dataAttributes.isEmpty

/-- An element without a description cannot be looked for. -/
def validate (e : Element) : Except Fault Unit :=
  if Text.isAllBlank e.description then .error (.invalidInput ("element '" ++ e.name ++ "' has an empty description"))
  else .ok ()

/-- The picture that matching may use. -/
def reference? (e : Element) : Option Picture := if e.isDataDependent then none else e.screenshot

end Element
end Pinpoint
