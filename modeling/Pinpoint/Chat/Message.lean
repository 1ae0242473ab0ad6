import Pinpoint.Json.Text
/-!
# Message — what is said in a chat

A message has a role and a content, either plain text or parts; a part is a text or the address of a picture.  The kind of
a part is told by a field of its own, and fields that belong to no kind are passed over.  A question to a model is one
message with the picture first and the text after it.
-/
namespace Pinpoint
namespace Chat

inductive Part where
  | text (s : String)
  | image (url : String)
  deriving DecidableEq, Repr

inductive Content where
  | text (s : String)
  | parts (l : List Part)
  deriving DecidableEq, Repr

structure Message where
  role    : String
  content : Content
  deriving DecidableEq, Repr

/-- The name of the part that holds a picture. -/
def imageName : String := "image_url"

namespace Part

def toJson : Part → Json
  | text s    => .obj [("type", .str "text"), ("text", .str s)]
  | image url => .obj [("type", .str imageName), (imageName, .obj [("url", .str url)])]

/-! ## Reading

The kind is a name or its number, in a field or at the head of an array. -/

inductive Kind where
  | text
  | image

def Kind.ofJson? : Json → Option Kind
  | .str s => if s = "text" then some .text else if s = imageName then some .image else none
  | .num n => if !n.negative && n.toInt? = some 0 then some .text else if n.toInt? = some 1 then some .image else none
  | _      => none

def Kind.field : Kind → String
  | text  => "text"
  | image => imageName

def url? (j : Json) : Option String :=
  match j.record? ["url"] with
  | some [url] => Json.required? Json.str? url
  | _          => none

def ofContent? (kind : Kind) (j : Json) : Option Part :=
  match kind with
  | .text  => j.str?.map text
  | .image => (url? j).map image

def ofJson? : Json → Option Part
  | .obj fields => do
    let kind ← Json.required? Kind.ofJson? (← Json.single? fields "type")
    Json.required? (ofContent? kind) (← Json.single? fields kind.field)
  | .arr [kind, content] => do ofContent? (← Kind.ofJson? kind) content
  | _ => none

end Part

namespace Content

def toJson : Content → Json
  | text s  => .str s
  | parts l => .arr (l.map Part.toJson)

def ofJson? : Json → Option Content
  | .str s => some (text s)
  | .arr l => (l.mapM Part.ofJson?).map parts
  | _      => none

end Content

namespace Message

def toJson (m : Message) : Json := .obj [("role", .str m.role), ("content", m.content.toJson)]

/-- The content is read as a whole before its kind is known, so nothing in it may be unreadable. -/
def ofJson? (j : Json) : Option Message :=
  match j.record? ["role", "content"] with
  | some [role, content] => do
    some ⟨← Json.required? Json.str? role,
      ← Json.required? (fun c => if c.isPlain 126 then Content.ofJson? c else none) content⟩
  | _ => none

def ofText? (s : String) : Option Message := (Json.parse? s).bind ofJson?

/-- The address of a picture that is sent along as text. -/
def inlineUrl (picture : String) : String := "data:image/png;base64," ++ picture

/-- **A question**, with the text of a picture's file if it is about one. -/
def question (prompt : String) (picture : Option String) : Message :=
  ⟨"user", .parts ((picture.map fun p => .image (inlineUrl p)).toList ++ [.text prompt])⟩

end Message
end Chat
end Pinpoint
