import Pinpoint.Chat.Message
import Pinpoint.Chat.Request
import Pinpoint.Reply
/-!
# Exchange — one call of a provider

What goes out is a body that names the model, carries the question and declares the shape of the answer; what comes back is a
status and a body.  `answer` decides what the call came to: four statuses say that no further try will help, any other
failure may pass, and a body is worth what its first choice says.

`withoutPictures` is the body as it may be logged: the address of every picture is left out, whatever the body looks like.
-/
namespace Pinpoint
namespace Chat

/-- The model that a call is for. -/
structure Call where
  model       : String
  temperature : Float
  deriving Repr, Inhabited

/-! ## What goes out -/

/-- What an answer has to look like: a name and any declaration. -/
structure Format where
  name        : String
  declaration : Json

/-- A shape is asked for by its own name and declaration. -/
instance : Coe Schema Format := ⟨fun s => ⟨s.name, s.declaration⟩⟩

def body (c : Call) (s : Format) (prompt : String) (picture : Option String) : Json :=
  .obj [("model", .str c.model), ("messages", .arr [(Message.question prompt picture).toJson]), ("stream", .bool false),
    ("temperature", .ofFloat c.temperature),
    ("response_format", .obj [("type", .str "json_schema"), ("json_schema",
      .obj [("name", .str s.name), ("schema", s.declaration), ("strict", .bool true)])])]

def authorization (key : String) : String := "Bearer " ++ key

/-- Whether a text may stand in the head of a request. -/
def isHeaderText (s : String) : Bool := s.toList.all fun c => c == '\t' || (0x20 ≤ c.toNat && c.toNat ≠ 0x7f)

/-! ## What is logged -/

def omitted : Json := .str "<omitted_base64_image>"

/-- A part without its address, if it is a picture. -/
def hidePart (j : Json) : Json :=
  match j.get? "type" with
  | some (.str s) => if s = imageName then j.mapField imageName (Json.mapField "url" fun _ => omitted) else j
  | _             => j

/-- **A body without the addresses of its pictures.** -/
def withoutPictures (j : Json) : Json :=
  j.mapField "messages" (Json.mapItems (Json.mapField "content" (Json.mapItems hidePart)))

/-! ## What comes back -/

def reasonTable : List (Nat × String) := [
  (100, "Continue"), (101, "Switching Protocols"), (102, "Processing"), (200, "OK"), (201, "Created"), (202, "Accepted"),
  (203, "Non Authoritative Information"), (204, "No Content"), (205, "Reset Content"), (206, "Partial Content"),
  (207, "Multi-Status"), (208, "Already Reported"), (226, "IM Used"), (300, "Multiple Choices"),
  (301, "Moved Permanently"), (302, "Found"), (303, "See Other"), (304, "Not Modified"), (305, "Use Proxy"),
  (307, "Temporary Redirect"), (308, "Permanent Redirect"), (400, "Bad Request"), (401, "Unauthorized"),
  (402, "Payment Required"), (403, "Forbidden"), (404, "Not Found"), (405, "Method Not Allowed"), (406, "Not Acceptable"),
  (407, "Proxy Authentication Required"), (408, "Request Timeout"), (409, "Conflict"), (410, "Gone"),
  (411, "Length Required"), (412, "Precondition Failed"), (413, "Payload Too Large"), (414, "URI Too Long"),
  (415, "Unsupported Media Type"), (416, "Range Not Satisfiable"), (417, "Expectation Failed"), (418, "I'm a teapot"),
  (421, "Misdirected Request"), (422, "Unprocessable Entity"), (423, "Locked"), (424, "Failed Dependency"),
  (425, "Too Early"), (426, "Upgrade Required"), (428, "Precondition Required"), (429, "Too Many Requests"),
  (431, "Request Header Fields Too Large"), (451, "Unavailable For Legal Reasons"), (500, "Internal Server Error"),
  (501, "Not Implemented"), (502, "Bad Gateway"), (503, "Service Unavailable"), (504, "Gateway Timeout"),
  (505, "HTTP Version Not Supported"), (506, "Variant Also Negotiates"), (507, "Insufficient Storage"),
  (508, "Loop Detected"), (510, "Not Extended"), (511, "Network Authentication Required")]

/-- A status with the words that go with it. -/
def statusText (status : Nat) : String :=
  toString status ++ " " ++ (reasonTable.lookup status).getD "<unknown status code>"

/-- The text of a failure; two statuses come without a body, and a mark of byte order at its head is not text. -/
def failureText (status : Nat) (body : String) : String :=
  let cs := if status = 204 ∨ status = 304 then [] else body.toList
  let cs := match cs with
    | c :: l => if c.toNat = 0xfeff then l else cs
    | []     => []
  statusText status ++ ": " ++ String.ofList cs

def failure (status : Nat) (body : String) : Fault :=
  if status = 400 ∨ status = 401 ∨ status = 403 ∨ status = 404 then .nonRetryable (failureText status body)
  else .provider (failureText status body)

/-- The content of the first choice. -/
def content? (j : Json) : Option String := do
  let choices ← j.get? "choices"
  let first ← (← choices.arr?).head?
  let message ← first.get? "message"
  (← message.get? "content").str?

/-- **What a call came to**, from the status and the body that came back. -/
def answer (status : Nat) (body : String) : Except Fault String :=
  if status < 200 ∨ 300 ≤ status then .error (failure status body)
  else
    match (Json.parse? body).filter (Json.isPlain 127) with
    | none   => .error (.http "error decoding response body")
    | some j =>
      match content? j with
      | some s => .ok s
      | none   => .error (.invalidResponse "answer has no message content")

/-- What a call came to, also when its connection broke. -/
def outcome : Option Answer → Except Fault String
  | some a => answer a.status a.body
  | none   => .error (.http "the connection broke")

end Chat
end Pinpoint
