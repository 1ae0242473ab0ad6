import Pinpoint.Element
import Pinpoint.Json.Text
import Pinpoint.Png
/-!
# Record — elements as JSON

Every field of an element has its name in the record, in a fixed order; the first three must be there and the others have
defaults.  The picture is the text of its file, read with any blanks around it, so an element whose picture has no pixels
has no record.
-/
namespace Pinpoint
namespace Element

def fieldNames : List String :=
  ["id", "name", "description", "locationDetails", "pageSummary", "screenshot", "zoomInRequired", "dataDependentAttributes"]

def pictureJson : Option Picture → Except Fault Json
  | none   => .ok .null
  | some p =>
    match Png.encodeText p with
    | .ok t    => .ok (.str t)
    | .error e => .error (.json e.message)

/-- The record of an element, given what stands for its picture. -/
def fieldsJson (e : Element) (picture : Json) : Json :=
  .obj (fieldNames.zip [.str e.id, .str e.name, .str e.description, .str e.location, .str e.page, picture, .bool e.zoom,
    .arr (e.dataAttributes.map .str)])

/-- **The record of an element.** -/
def toJson (e : Element) : Except Fault Json := (pictureJson e.screenshot).map e.fieldsJson

def picture? : Json → Option (Option Picture)
  | .null  => some none
  | .str s => (Png.decodeText? (Text.trim s)).map some
  | _      => none

def texts? (j : Json) : Option (List String) := j.arr?.bind fun l => l.mapM Json.str?

/-- **The element of a record.** -/
def ofJson? (j : Json) : Option Element :=
  match j.record? fieldNames with
  | some [id, name, description, location, page, screenshot, zoom, attributes] => do
    some {
      id := ← Json.required? Json.str? id
      name := ← Json.required? Json.str? name
      description := ← Json.required? Json.str? description
      location := ← Json.optional? Json.str? "" location
      page := ← Json.optional? Json.str? "" page
      screenshot := ← Json.optional? picture? none screenshot
      zoom := ← Json.optional? Json.bool? false zoom
      dataAttributes := ← Json.optional? texts? [] attributes }
  | _ => none

def ofText (s : String) : Except Fault Element :=
  match (Json.parse? s).bind ofJson? with
  | some e => .ok e
  | none   => .error (.json "not the record of an element")

end Element
end Pinpoint
