import Pinpoint.Json
/-!
# Text — reading and writing JSON

The reader keeps the arrays and objects that are still open in a list, so that no depth of nesting costs it more than
memory.  It takes the grammar of the format and nothing else: no leading zeros, no control characters in strings, no
commas too many, only blanks after the value.  The writer leaves out all blanks and escapes what must be escaped.
-/
namespace Pinpoint
namespace Json

/-! ## Tokens -/

def isSpace (c : Char) : Bool := c == ' ' || c == '\n' || c == '\t' || c == '\r'

def skipSpace (cs : List Char) : List Char := cs.dropWhile isSpace

def hexDigit? (c : Char) : Option Nat :=
  if '0' ≤ c ∧ c ≤ '9' then some (c.toNat - 48)
  else if 'a' ≤ c ∧ c ≤ 'f' then some (c.toNat - 87)
  else if 'A' ≤ c ∧ c ≤ 'F' then some (c.toNat - 55)
  else none

def hex4? : List Char → Option (Nat × List Char)
  | a :: b :: c :: d :: cs => do
    let a ← hexDigit? a
    let b ← hexDigit? b
    let c ← hexDigit? c
    let d ← hexDigit? d
    some (((a * 16 + b) * 16 + c) * 16 + d, cs)
  | _ => none

def simpleEscape? : Char → Option Char
  | '"'  => some '"'
  | '\\' => some '\\'
  | '/'  => some '/'
  | 'b'  => some (Char.ofNat 8)
  | 'f'  => some (Char.ofNat 12)
  | 'n'  => some '\n'
  | 'r'  => some '\r'
  | 't'  => some '\t'
  | _    => none

/-- A code unit that the text just read leaves waiting for its other half. -/
def pairWith? (high : Option Nat) (unit : Nat) : Option Char :=
  match high with
  | some h => if 0xdc00 ≤ unit ∧ unit ≤ 0xdfff then some (Char.ofNat (0x10000 + (h - 0xd800) * 0x400 + (unit - 0xdc00)))
              else none
  | none   => none

/-- The rest of a string after its opening quote: the characters so far in reverse, whether they are all readable, and
the first half of a surrogate pair when the last escape was one. -/
def stringBody : (fuel : Nat) → List Char → (acc : List Char) → (readable : Bool) → (high : Option Nat) →
    Option (Option String × List Char)
  | 0, _, _, _, _ => none
  | _ + 1, [], _, _, _ => none
  | fuel + 1, c :: cs, acc, readable, high =>
    if c == '"' then
      some (if readable && high.isNone then some (String.ofList acc.reverse) else none, cs)
    else if c == '\\' then
      match cs with
      | 'u' :: cs =>
        match hex4? cs with
        | none => none
        | some (unit, cs) =>
          match pairWith? high unit with
          | some d => stringBody fuel cs (d :: acc) readable none
          | none   =>
            let readable := readable && high.isNone
            if 0xd800 ≤ unit ∧ unit ≤ 0xdbff then stringBody fuel cs acc readable (some unit)
            else if 0xdc00 ≤ unit ∧ unit ≤ 0xdfff then stringBody fuel cs acc false none
            else stringBody fuel cs (Char.ofNat unit :: acc) readable none
      | e :: cs =>
        match simpleEscape? e with
        | some d => stringBody fuel cs (d :: acc) (readable && high.isNone) none
        | none   => none
      | [] => none
    else if c.toNat < 0x20 then none
    else stringBody fuel cs (c :: acc) (readable && high.isNone) none

/-- A string after its opening quote; without text when it is unreadable. -/
def string? (cs : List Char) : Option (Option String × List Char) := stringBody (cs.length + 1) cs [] true none

def digitRun : List Char → (acc count : Nat) → Nat × Nat × List Char
  | [], acc, count      => (acc, count, [])
  | c :: cs, acc, count =>
    if c.isDigit then digitRun cs (acc * 10 + (c.toNat - 48)) (count + 1) else (acc, count, c :: cs)

/-- The digits before point and exponent: a lone zero or a run that does not begin with one. -/
def wholePart? : List Char → Option (Nat × List Char)
  | '0' :: cs => match cs with
    | c :: _ => if c.isDigit then none else some (0, cs)
    | []     => some (0, cs)
  | cs => let r := digitRun cs 0 0; if r.2.1 = 0 then none else some (r.1, r.2.2)

/-- The digits after a point, joined to those before it, with their number. -/
def fractionPart? (m : Nat) : List Char → Option (Nat × Nat × List Char)
  | '.' :: cs => let r := digitRun cs m 0; if r.2.1 = 0 then none else some (r.1, r.2.1, r.2.2)
  | cs        => some (m, 0, cs)

/-- The power of ten after `e` or `E`, if there is one. -/
def exponentPart? : List Char → Option (Option Int × List Char)
  | c :: cs =>
    if c == 'e' || c == 'E' then
      let signed := match cs with
        | '-' :: cs => (true, cs)
        | '+' :: cs => (false, cs)
        | cs        => (false, cs)
      let r := digitRun signed.2 0 0
      if r.2.1 = 0 then none else some (some (if signed.1 then -(r.1 : Int) else r.1), r.2.2)
    else some (none, c :: cs)
  | [] => some (none, [])

def number? (cs : List Char) : Option (Decimal × List Char) := do
  let signed := match cs with
    | '-' :: cs => (true, cs)
    | cs        => (false, cs)
  let (whole, cs) ← wholePart? signed.2
  let (digits, places, cs) ← fractionPart? whole cs
  let (power, cs) ← exponentPart? cs
  some (⟨signed.1, digits, power.getD 0 - places, places == 0 && power.isNone⟩, cs)

/-! ## Values -/

/-- An array or object that is still open: what it holds so far, in reverse. -/
inductive Open where
  | arr (items : List Json)
  /-- The fields so far, whether their keys are readable, and the key whose value is awaited. -/
  | obj (fields : List (String × Json)) (readable : Bool) (key : String)

/-- A key with its colon. -/
def key? (cs : List Char) : Option (Option String × List Char) :=
  match skipSpace cs with
  | '"' :: cs => do
    let (key, cs) ← string? cs
    match skipSpace cs with
    | ':' :: cs => some (key, cs)
    | _         => none
  | _ => none

def closeObject (fields : List (String × Json)) (readable : Bool) : Json :=
  if readable then obj fields.reverse else unreadable

mutual

/-- The value at the head of the text, then whatever the open ones still lack. -/
def value? : (fuel : Nat) → List Char → List Open → Option Json
  | 0, _, _ => none
  | fuel + 1, cs, stack =>
    match skipSpace cs with
    | '[' :: cs => match skipSpace cs with
      | ']' :: cs => resume? fuel (arr []) cs stack
      | cs        => value? fuel cs (.arr [] :: stack)
    | '\x7b' :: cs => match skipSpace cs with
      | '\x7d' :: cs => resume? fuel (obj []) cs stack
      | cs => match key? cs with
        | some (key, cs) => value? fuel cs (.obj [] key.isSome (key.getD "") :: stack)
        | none           => none
    | '"' :: cs => match string? cs with
      | some (s, cs) => resume? fuel (match s with | some s => str s | none => unreadable) cs stack
      | none         => none
    | 't' :: 'r' :: 'u' :: 'e' :: cs        => resume? fuel (bool true) cs stack
    | 'f' :: 'a' :: 'l' :: 's' :: 'e' :: cs => resume? fuel (bool false) cs stack
    | 'n' :: 'u' :: 'l' :: 'l' :: cs        => resume? fuel null cs stack
    | cs => match number? cs with
      | some (n, cs) => resume? fuel (num n) cs stack
      | none         => none

/-- A finished value handed to the innermost open one. -/
def resume? : (fuel : Nat) → Json → List Char → List Open → Option Json
  | 0, _, _, _ => none
  | _ + 1, v, cs, [] => if (skipSpace cs).isEmpty then some v else none
  | fuel + 1, v, cs, .arr items :: stack =>
    match skipSpace cs with
    | ',' :: cs => value? fuel cs (.arr (v :: items) :: stack)
    | ']' :: cs => resume? fuel (arr (v :: items).reverse) cs stack
    | _         => none
  | fuel + 1, v, cs, .obj fields readable key :: stack =>
    match skipSpace cs with
    | ',' :: cs => match key? cs with
      | some (k, cs) => value? fuel cs (.obj ((key, v) :: fields) (readable && k.isSome) (k.getD "") :: stack)
      | none         => none
    | '\x7d' :: cs => resume? fuel (closeObject ((key, v) :: fields) readable) cs stack
    | _            => none

end

/-- **The value a text stands for**; `none` when the text is not well formed. -/
def parse? (s : String) : Option Json :=
  let cs := s.toList
  value? (2 * cs.length + 2) cs []

/-! ## Writing -/

def hexChar (n : Nat) : Char := if n < 10 then Char.ofNat (48 + n) else Char.ofNat (87 + n)

def escapeChar (c : Char) : List Char :=
  if c == '"' then ['\\', '"']
  else if c == '\\' then ['\\', '\\']
  else if c == '\n' then ['\\', 'n']
  else if c == '\r' then ['\\', 'r']
  else if c == '\t' then ['\\', 't']
  else if c.toNat = 8 then ['\\', 'b']
  else if c.toNat = 12 then ['\\', 'f']
  else if c.toNat < 0x20 then ['\\', 'u', '0', '0', hexChar (c.toNat / 16), hexChar (c.toNat % 16)]
  else [c]

def quote (s : String) : String := String.ofList ('"' :: s.toList.flatMap escapeChar ++ ['"'])

mutual

def toText : Json → String
  | null       => "null"
  | bool b     => if b then "true" else "false"
  | num n      => n.toText
  | str s      => quote s
  | arr items  => "[" ++ itemsText items ++ "]"
  | obj fields => "\x7b" ++ fieldsText fields ++ "\x7d"
  | unreadable => "null"

def itemsText : List Json → String
  | []     => ""
  | [j]    => toText j
  | j :: l => toText j ++ "," ++ itemsText l

def fieldsText : List (String × Json) → String
  | []          => ""
  | [(k, j)]    => quote k ++ ":" ++ toText j
  | (k, j) :: l => quote k ++ ":" ++ toText j ++ "," ++ fieldsText l

end

/-! ## Writing over several lines -/

/-- A new line for what stands at a depth. -/
def lineAt (depth : Nat) : String := "\n" ++ String.ofList (List.replicate (2 * depth) ' ')

mutual

/-- A value at a depth, every item and field on a line of its own. -/
def toLines (depth : Nat) : Json → String
  | arr []     => "[]"
  | obj []     => "\x7b\x7d"
  | arr items  => "[" ++ itemsLines (depth + 1) items ++ lineAt depth ++ "]"
  | obj fields => "\x7b" ++ fieldsLines (depth + 1) fields ++ lineAt depth ++ "\x7d"
  | null       => "null"
  | bool b     => if b then "true" else "false"
  | num n      => n.toText
  | str s      => quote s
  | unreadable => "null"

def itemsLines (depth : Nat) : List Json → String
  | []     => ""
  | [j]    => lineAt depth ++ toLines depth j
  | j :: l => lineAt depth ++ toLines depth j ++ "," ++ itemsLines depth l

def fieldsLines (depth : Nat) : List (String × Json) → String
  | []          => ""
  | [(k, j)]    => lineAt depth ++ quote k ++ ": " ++ toLines depth j
  | (k, j) :: l => lineAt depth ++ quote k ++ ": " ++ toLines depth j ++ "," ++ fieldsLines depth l

end

/-- The text for people to read. -/
def toPretty (j : Json) : String := j.toLines 0

end Json
end Pinpoint
