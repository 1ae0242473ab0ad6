import Pinpoint.Chat.Address
import Pinpoint.Json.Text
/-!
# Request — a call on its way

What is sent is a line that says what is asked for, a head of named values, an empty line and the body.  What comes back has
the same form; its body is as long as its head says, or comes in pieces that each say their length, or ends with the
connection.
-/
namespace Pinpoint
namespace Chat

structure Request where
  address       : Address
  authorization : String
  body          : Json

namespace Request

def line (r : Request) : String := "POST " ++ r.address.path ++ " HTTP/1.1"

def contentType : String := "application/json"

def host (a : Address) : String := if a.service = 80 then a.host else a.host ++ ":" ++ toString a.service

/-- The request as it is sent. -/
def bytes (r : Request) : ByteArray :=
  let body := r.body.toText.toUTF8
  let head := [r.line, "host: " ++ host r.address, "authorization: " ++ r.authorization, "content-type: " ++ contentType,
    "accept: */*", "connection: close", "content-length: " ++ toString body.size, "", ""]
  ("\r\n".intercalate head).toUTF8 ++ body

end Request

/-! ## What comes back -/

/-- The status of an answer and its body. -/
structure Answer where
  status : Nat
  body   : String
  deriving DecidableEq, Repr, Inhabited

namespace Answer

/-- The bytes up to the end of a line and those after it. -/
def splitLine : (before rest : List UInt8) → Option (List UInt8 × List UInt8)
  | _, []                     => none
  | before, 13 :: 10 :: rest  => some (before.reverse, rest)
  | before, b :: rest         => splitLine (b :: before) rest

def ascii (l : List UInt8) : String := String.ofList (l.map fun b => Char.ofNat b.toNat)

/-- The lines of a head, up to the empty one. -/
def head? : (fuel : Nat) → (lines : List String) → List UInt8 → Option (List String × List UInt8)
  | 0, _, _            => none
  | fuel + 1, lines, l => do
    let (line, rest) ← splitLine [] l
    if line.isEmpty then some (lines.reverse, rest) else head? fuel (ascii line :: lines) rest

/-- The value of a name in a head, whatever the case of its letters. -/
def value? (lines : List String) (name : String) : Option String :=
  lines.findSome? fun s =>
    let cs := s.toList
    let n := cs.takeWhile (· != ':')
    if String.ofList (n.map Char.toLower) = name then some (String.ofList ((cs.drop (n.length + 1)).dropWhile (· == ' ')))
    else none

def hex? (s : String) : Option Nat :=
  let digits := s.toList.takeWhile fun c => (Json.hexDigit? c).isSome
  if digits.isEmpty then none else some (digits.foldl (fun n c => n * 16 + (Json.hexDigit? c).getD 0) 0)

/-- A body that comes in pieces, each after a line with its length; the last piece is empty. -/
def pieces? : (fuel : Nat) → List UInt8 → Option (List UInt8)
  | 0, _        => none
  | fuel + 1, l => do
    let (line, rest) ← splitLine [] l
    let n ← hex? (ascii line)
    if n = 0 then some []
    else if rest.length < n + 2 then none
    else (pieces? fuel (rest.drop (n + 2))).map (rest.take n ++ ·)

def body? (lines : List String) (l : List UInt8) : Option (List UInt8) :=
  if ((value? lines "transfer-encoding").map fun s => s.toList.map Char.toLower) = some "chunked".toList then
    pieces? l.length l
  else
    match value? lines "content-length" with
    | some s => do
      let n ← s.toNat?
      if l.length < n then none else some (l.take n)
    | none => some l

def status? (line : String) : Option Nat :=
  let word := ((line.toList.dropWhile (· != ' ')).drop 1).takeWhile Char.isDigit
  (String.ofList word).toNat?

/-- **The answer in the bytes of a connection.** -/
def ofBytes? (l : List UInt8) : Option Answer := do
  let (lines, rest) ← head? l.length [] l
  let status ← status? (← lines.head?)
  let body ← body? (lines.drop 1) rest
  let text ← String.fromUTF8? ⟨body.toArray⟩
  some ⟨status, text⟩

end Answer
end Chat
end Pinpoint
