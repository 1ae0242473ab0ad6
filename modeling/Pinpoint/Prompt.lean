import Pinpoint.Element
import Pinpoint.Box
/-!
# Prompt — the two questions to a model

Both questions describe the element and where it is.  What a run's data make of it is told only for elements that show
such data.  Texts are cut of the blanks around them.
-/
namespace Pinpoint
namespace Prompt

/-- A line of its own, unless there is nothing to say. -/
def hint (title text : String) : String :=
  if Text.isAllBlank text then "" else title ++ Text.trim text ++ "\n"

def dataLines (attributes : List String) (data : String) : String :=
  "The element displays run-specific data for these attributes: " ++ ", ".intercalate attributes ++ ".\n" ++
  "Use the values from this run's test data: " ++ (if Text.isAllBlank data then "(none)" else Text.trim data) ++ "\n"

/-- What is known about the surroundings and the data of an element. -/
def surroundings (e : Element) (data : String) : String :=
  hint "Location hints: " e.location ++ hint "Page: " e.page ++
  (if e.isDataDependent then dataLines e.dataAttributes data else "")

def target (e : Element) (data : String) : String :=
  "Target: " ++ Text.trim e.description ++ "\n" ++ surroundings e data

/-- **Where is the element?**  Asks for every occurrence, in a frame from zero to `scale`. -/
def grounding {α : Type} [Scalar α] (e : Element) (data : String) (scale : α) : String :=
  "Locate UI elements in the screenshot.\n\n" ++ target e data ++ "\n" ++
  "Return a bounding box for EVERY visual occurrence that looks like the target. " ++
  "Coordinates are normalized to 0.." ++ toString (Scalar.roundInt scale) ++
  " on both axes, (0,0) is the top-left corner. If nothing matches, return an empty list.\n" ++
  "Reply ONLY with JSON: \x7b\"boxes\": [\x7b\"x_min\": 0, \"y_min\": 0, \"x_max\": 0, \"y_max\": 0\x7d]\x7d"

def listing (l : List (String × Box)) : String :=
  String.join (l.map fun c => "- " ++ c.1 ++ s!": x={c.2.left} y={c.2.top} w={c.2.width} h={c.2.height}\n")

/-- **Which candidate is the element?**  Every label is listed with its box. -/
def selection (e : Element) (data : String) (candidates : List (String × Box)) : String :=
  "The screenshot shows " ++ toString candidates.length ++ " labelled candidate boxes.\n\n" ++ target e data ++
  "\nCandidates:\n" ++ listing candidates ++ "\nPick the ONE candidate that best matches the target.\n" ++
  "Reply ONLY with JSON: \x7b\"label\": \"<label>\"\x7d"

end Prompt
end Pinpoint
