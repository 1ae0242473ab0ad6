import Pinpoint.Element.Record
import Pinpoint.Proofs.Json.Fields
import Pinpoint.Proofs.Json.Written
import Pinpoint.Proofs.Png.File
/-!
# RoundTrip — an element is read from its record as it was

The record of an element holds its eight fields by name, and a field that is left out reads as its default; so the record
reads as the element as long as every field left out held its default (`ofJson?_without`).  That the picture reads as it was
is all that this asks of it.  Files of pictures and texts of records are read as they were written, and so the text of a
record is read as the element (`ofText_toText`).
-/
namespace Pinpoint
namespace Element

variable {e : Element} {picture : Json} {omitted : List String}

/-- **A field that may be left out** of the record of an element: it has a default, and the element holds that. -/
def HoldsDefault (e : Element) : String → Prop
  | "locationDetails"         => e.location = ""
  | "pageSummary"             => e.page = ""
  | "screenshot"              => e.screenshot = none
  | "zoomInRequired"          => e.zoom = false
  | "dataDependentAttributes" => e.dataAttributes = []
  | _                         => False

/-! ## The record -/

theorem record?_fieldsJson (e : Element) (picture : Json) (omitted : List String) :
    ((e.fieldsJson picture).without omitted).record? fieldNames = some [
      if "id" ∈ omitted then none else some (.str e.id),
      if "name" ∈ omitted then none else some (.str e.name),
      if "description" ∈ omitted then none else some (.str e.description),
      if "locationDetails" ∈ omitted then none else some (.str e.location),
      if "pageSummary" ∈ omitted then none else some (.str e.page),
      if "screenshot" ∈ omitted then none else some picture,
      if "zoomInRequired" ∈ omitted then none else some (.bool e.zoom),
      if "dataDependentAttributes" ∈ omitted then none else some (.arr (e.dataAttributes.map .str))] := by
  have hnodup : fieldNames.Nodup := by decide
  rw [fieldsJson, Json.record?_without (by exact hnodup)]
  rfl

theorem required?_ite {α : Type} {read : Json → Option α} {j : Json} {P : Prop} [Decidable P] (h : ¬P) :
    Json.required? read (if P then none else some j) = read j := by
  rw [if_neg h, Json.required?]

/-- A field left out reads as what it held, if that is its default. -/
theorem optional?_ite {α : Type} {read : Json → Option α} {default v : α} {j : Json} {P : Prop} [Decidable P]
    (hread : read j = some v) (hdefault : P → v = default) :
    Json.optional? read default (if P then none else some j) = some v := by
  split_ifs with h
  · rw [Json.optional?, hdefault h]
  · exact hread

theorem texts?_map_str (l : List String) : texts? (.arr (l.map .str)) = some l := by
  rw [texts?, Json.arr?, Option.bind_some]
  induction l with
  | nil => rfl
  | cons s l ih =>
    rw [List.map_cons, List.mapM_cons, ih]
    rfl

/-- **The record reads as the element**, also without any of the fields that hold their defaults, whatever stands for the
picture as long as that reads as the picture. -/
theorem ofJson?_without (hpicture : picture? picture = some e.screenshot) (h : ∀ name ∈ omitted, e.HoldsDefault name) :
    ofJson? ((e.fieldsJson picture).without omitted) = some e := by
  have hid : "id" ∉ omitted := h "id"
  have hname : "name" ∉ omitted := h "name"
  have hdescription : "description" ∉ omitted := h "description"
  have hstr (s : String) : Json.str? (.str s) = some s := rfl
  have hbool (b : Bool) : Json.bool? (.bool b) = some b := rfl
  simp only [ofJson?, record?_fieldsJson, required?_ite hid, required?_ite hname, required?_ite hdescription, hstr,
    optional?_ite (hstr e.location) (h "locationDetails"), optional?_ite (hstr e.page) (h "pageSummary"),
    optional?_ite hpicture (h "screenshot"), optional?_ite (hbool e.zoom) (h "zoomInRequired"),
    optional?_ite (texts?_map_str e.dataAttributes) (h "dataDependentAttributes"), Option.bind_eq_bind, Option.bind_some]

/-! ## The text of the record -/

/-- **What stands for a picture** that has a file, or for none: it reads as the picture, and it has no numbers. -/
theorem exists_pictureJson (h : ∀ p ∈ e.screenshot, ∃ file, Png.encode p = .ok file) :
    ∃ picture, pictureJson e.screenshot = .ok picture ∧ picture? picture = some e.screenshot ∧ picture.Unnumbered := by
  cases hp : e.screenshot with
  | none => exact ⟨.null, rfl, rfl, .null⟩
  | some p =>
    obtain ⟨file, hfile⟩ := h p hp
    obtain ⟨hwritten, hread⟩ := Png.decodeText?_trim hfile
    refine ⟨.str (String.ofList (Text.Base64.encode file)), ?_, ?_, .str _⟩
    · rw [pictureJson, hwritten]
    · rw [picture?, hread, Option.map_some]

theorem unnumbered_without (h : picture.Unnumbered) (e : Element) (omitted : List String) :
    ((e.fieldsJson picture).without omitted).Unnumbered := by
  have hattributes : (Json.arr (e.dataAttributes.map .str)).Unnumbered := .arr fun j hj => by
    obtain ⟨s, -, rfl⟩ := List.mem_map.1 hj
    exact .str s
  refine .obj fun f hf => ?_
  obtain ⟨-, hvalue⟩ := List.of_mem_zip (List.mem_of_mem_filter hf)
  revert hvalue
  generalize f.2 = value
  revert value
  simp only [List.forall_mem_cons]
  exact ⟨.str _, .str _, .str _, .str _, .str _, h, .bool _, hattributes, fun _ hj => (nomatch hj)⟩

/-- **An element is read from the text of its record**, whatever its texts and its picture are, as long as the picture has
a file; and it is read from the text of the record without any of the fields that hold their defaults. -/
theorem ofText_toText (e : Element) (h : ∀ p ∈ e.screenshot, ∃ file, Png.encode p = .ok file) :
    ∃ j, e.toJson = .ok j ∧ ofText j.toText = .ok e ∧
      ∀ omitted, (∀ name ∈ omitted, e.HoldsDefault name) → ofText (j.without omitted).toText = .ok e := by
  obtain ⟨picture, hjson, hpicture, hplain⟩ := exists_pictureJson h
  have hread : ∀ omitted, (∀ name ∈ omitted, e.HoldsDefault name) →
      ofText ((e.fieldsJson picture).without omitted).toText = .ok e := by
    intro omitted hdefaults
    rw [ofText, Json.parse?_toText (unnumbered_without hplain e omitted), Option.bind_some,
      ofJson?_without hpicture hdefaults]
  refine ⟨e.fieldsJson picture, ?_, ?_, hread⟩
  · rw [toJson, hjson]
    rfl
  · have hwhole := hread [] fun name hname => absurd hname List.not_mem_nil
    rwa [Json.without_nil] at hwhole

/-- A record whose texts need escapes, with one attribute and a picture of two pixels, gray with opacity by sixteen bits. -/
def accented : Element where
  id             := "knöpfe-7"
  name           := "„Größe“ \\ \"ok\""
  description    := "the 緑 button\n\tbelow 𝄞"
  page           := "\u0001"
  screenshot     := some (Picture.ofSamples 1 2 ⟨.lumaAlpha, true⟩ fun _ y c => UInt16.ofNat (300 + 20000 * y + c))
  dataAttributes := ["Пользователь"]

theorem ofText_toText_accented : (∀ p ∈ accented.screenshot, ∃ file, Png.encode p = .ok file) ∧
    (∀ name ∈ ["locationDetails", "zoomInRequired"], accented.HoldsDefault name) ∧
    ∃ j, accented.toJson = .ok j ∧ ofText j.toText = .ok accented ∧
      ofText (j.without ["locationDetails", "zoomInRequired"]).toText = .ok accented := by
  have hfile : ∀ p ∈ accented.screenshot, ∃ file, Png.encode p = .ok file := by
    rintro p ⟨⟩
    exact ⟨_, Png.encode_eq_ok_iff.2 ⟨rfl, rfl⟩⟩
  have hdefaults : ∀ name ∈ ["locationDetails", "zoomInRequired"], accented.HoldsDefault name :=
    List.forall_mem_cons.2 ⟨rfl, List.forall_mem_singleton.2 rfl⟩
  obtain ⟨j, hjson, hread, homitted⟩ := ofText_toText accented hfile
  exact ⟨hfile, hdefaults, j, hjson, hread, homitted _ hdefaults⟩

end Element
end Pinpoint
