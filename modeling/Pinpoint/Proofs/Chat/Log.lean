import Pinpoint.Chat.Exchange
import Pinpoint.Proofs.Json.Paths
/-!
# Log — what is logged of a request

The addresses of the pictures of a body are where a route leads through the parts of all messages and on through those
parts that are pictures (`IsAddress`).  What is logged has a fixed text at each of them and every other node as it is,
and it is the only value of which this is true (`eq_withoutPictures_iff`).  So a picture leaves no trace in it, and
logging what has been logged changes nothing (`log_hides_pictures`).
-/
namespace Pinpoint
namespace Chat

open Json (Step Turn Follows along face)

/-- Through a body to the parts of its messages; a content that is plain text has none. -/
def toParts : List Turn := [.key "messages", .each, .key "content", .each]

/-- Through a part to the address of its picture. -/
def toAddress : List Turn := [.key imageName, .key "url"]

def IsPicture (part : Json) : Prop := part.get? "type" = some (.str imageName)

/-- **The path leads to the address of a picture**: there is such a node, and the part that it is in is a picture. -/
def IsAddress (j : Json) (path : List Step) : Prop :=
  ∃ p q part, path = p ++ q ∧ Follows p toParts ∧ Follows q toAddress ∧ j.at? p = some part ∧ IsPicture part ∧
    (j.at? path).isSome

/-- `k` is `j` with a fixed text for every address. -/
def HidesPictures (j k : Json) : Prop :=
  (∀ path, IsAddress j path → k.at? path = some omitted) ∧
  ∀ path, (∀ a, IsAddress j a → ¬ a <+: path) → (k.at? path).map face = (j.at? path).map face

variable {j k part : Json}

theorem withoutPictures_eq (j : Json) : withoutPictures j = along toParts hidePart j := rfl

theorem hidePart_of_picture (h : IsPicture part) : hidePart part = along toAddress (fun _ => omitted) part := by
  rw [hidePart, h]
  exact if_pos rfl

theorem hidePart_of_not_picture (h : ¬ IsPicture part) : hidePart part = part := by
  unfold hidePart
  split
  · rename_i s hs
    refine if_neg fun himage => h ?_
    rw [IsPicture, hs, himage]
  · rfl

/-! ## Hiding twice -/

theorem get?_mapField_of_ne {name name' : String} (h : name' ≠ name) (f : Json → Json) (j : Json) :
    (j.mapField name f).get? name' = j.get? name' := by
  cases j with
  | obj fields =>
    show ((fields.map _).reverse.find? _).map _ = (fields.reverse.find? _).map _
    rw [← List.map_reverse, List.find?_map, Option.map_map]
    have hsame : ∀ p : String × Json, (if p.1 == name then (p.1, f p.2) else p).1 = p.1 := by
      intro p
      split <;> rfl
    simp only [Function.comp_def, hsame]
    refine Option.map_congr fun p hp => ?_
    have hp' : p.1 = name' := by simpa using List.find?_some hp
    rw [if_neg (by simp [hp', h])]
  | _ => rfl

theorem isPicture_hidePart (h : IsPicture part) : IsPicture (hidePart part) := by
  rw [hidePart_of_picture h, IsPicture]
  exact (get?_mapField_of_ne (by decide) _ part).trans h

theorem hidePart_hidePart (part : Json) : hidePart (hidePart part) = hidePart part := by
  by_cases h : IsPicture part
  · rw [hidePart_of_picture (isPicture_hidePart h), hidePart_of_picture h, Json.along_along]
    rfl
  · rw [hidePart_of_not_picture h, hidePart_of_not_picture h]

theorem withoutPictures_withoutPictures (j : Json) : withoutPictures (withoutPictures j) = withoutPictures j := by
  rw [withoutPictures_eq, withoutPictures_eq, Json.along_along]
  exact congrArg (along toParts · j) (funext hidePart_hidePart)

/-! ## What is hidden -/

/-- In a picture every node is as it is, unless it is the address or in it. -/
theorem face_hidePart (hpicture : IsPicture part) {q : List Step}
    (h : ∀ a b url, q = a ++ b → Follows a toAddress → part.at? a ≠ some url) :
    ((hidePart part).at? q).map face = (part.at? q).map face := by
  rw [hidePart_of_picture hpicture]
  by_cases hq : ∃ a b, q = a ++ b ∧ Follows a toAddress
  · obtain ⟨a, b, rfl, ha⟩ := hq
    have hnone : part.at? a = none := Option.eq_none_iff_forall_ne_some.2 fun url => h a b url rfl ha
    rw [Json.at?_along ha, Json.at?_append, hnone]
    rfl
  · exact Json.face_at?_along (fun a b hab ha => hq ⟨a, b, hab, ha⟩) part

theorem hidesPictures (j : Json) : HidesPictures j (withoutPictures j) := by
  constructor
  · rintro _ ⟨p, q, part, rfl, hp, hq, hpart, hpicture, hsome⟩
    rw [Json.at?_append, hpart, Option.bind_some] at hsome
    obtain ⟨url, hurl⟩ := Option.isSome_iff_exists.1 hsome
    have hend := Json.at?_along (f := fun _ => omitted) hq [] part
    rw [List.append_nil, hurl] at hend
    rw [withoutPictures_eq, Json.at?_along hp, hpart, Option.bind_some, hidePart_of_picture hpicture, hend]
    rfl
  · intro path hpath
    by_cases hparts : ∃ p q, path = p ++ q ∧ Follows p toParts
    · obtain ⟨p, q, rfl, hp⟩ := hparts
      rw [withoutPictures_eq, Json.at?_along hp, Json.at?_append, Option.map_bind, Option.map_bind]
      refine Option.bind_congr fun part hpart => ?_
      show ((hidePart part).at? q).map face = (part.at? q).map face
      by_cases hpicture : IsPicture part
      · refine face_hidePart hpicture fun a b url hq ha hurl => hpath (p ++ a) ?_ ?_
        · refine ⟨p, a, part, rfl, hp, ha, hpart, hpicture, ?_⟩
          rw [Json.at?_append, hpart, Option.bind_some, hurl]
          rfl
        · rw [hq, ← List.append_assoc]
          exact List.prefix_append _ _
      · rw [hidePart_of_not_picture hpicture]
    · rw [withoutPictures_eq]
      exact Json.face_at?_along (fun p q hpq hp => hparts ⟨p, q, hpq, hp⟩) j

theorem eq_withoutPictures_iff : k = withoutPictures j ↔ HidesPictures j k := by
  refine ⟨fun h => h ▸ hidesPictures j, fun h => Json.ext_face fun path => ?_⟩
  obtain ⟨haddress, hrest⟩ := h
  obtain ⟨haddress', hrest'⟩ := hidesPictures j
  by_cases hpath : ∃ a, IsAddress j a ∧ a <+: path
  · obtain ⟨a, ha, b, rfl⟩ := hpath
    rw [Json.at?_append, Json.at?_append, haddress a ha, haddress' a ha]
  · have hpath : ∀ a, IsAddress j a → ¬ a <+: path := fun a ha hpre => hpath ⟨a, ha, hpre⟩
    rw [hrest path hpath, hrest' path hpath]

/-! ## What is logged of a question -/

/-- **A body says as much when its picture is left out**, whatever the picture. -/
theorem withoutPictures_body (c : Call) (s : Format) (prompt picture picture' : String) :
    withoutPictures (body c s prompt (some picture)) = withoutPictures (body c s prompt (some picture')) := by
  simp [withoutPictures, body, Message.question, Message.toJson, Content.toJson, Part.toJson, Json.mapField, Json.mapItems,
    hidePart, Json.get?, imageName]

/-- **The log has no pictures.**  What is logged of two requests that differ in their pictures is one text; what is logged
of any body is the body with one text for all addresses of pictures, which is the same when it is done again. -/
theorem log_hides_pictures :
    (∀ (c : Call) (s : Format) (prompt picture picture' : String),
      (withoutPictures (body c s prompt (some picture))).toText =
        (withoutPictures (body c s prompt (some picture'))).toText) ∧
    ∀ j k : Json, (k = withoutPictures j ↔ HidesPictures j k) ∧ withoutPictures (withoutPictures j) = withoutPictures j := by
  refine ⟨fun c s prompt picture picture' => ?_, fun j k => ?_⟩
  · rw [withoutPictures_body c s prompt picture picture']
  · exact ⟨eq_withoutPictures_iff, withoutPictures_withoutPictures j⟩

end Chat
end Pinpoint
