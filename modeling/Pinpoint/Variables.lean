import Pinpoint.Text.Blank
import Pinpoint.Text.Alphanumeric
/-!
# Variables — a file that gives variables their values

Each line names a variable and its value; blank lines and comments are passed over, and the word `export` may stand in
front.  Of a value single quotes keep everything, double quotes all but escapes and references; outside of quotes a blank
ends it, and only a comment may follow.  A reference stands for what the variable has in the environment, else for what it
got earlier in the file, else for nothing.  While a quote is open the value goes on in the next line.

A variable that has a value keeps it.  The reading ends at the first line that is none of this, and what was read before
it counts.
-/
namespace Pinpoint
namespace Variables

/-! ## Lines -/

/-- Where in a line the reading stands, as far as quotes and comments go. -/
inductive Place where
  | plain
  | blank
  | escape
  | single
  | singleEscape
  | double
  | doubleEscape
  | comment
  deriving DecidableEq

/-- A comment begins only after a single blank. -/
def Place.next : Place → Char → Place
  | plain, c =>
    if Text.isBlank c && c != '\n' && c != '\r' then blank
    else if c == '\\' then escape
    else if c == '"' then double
    else if c == '\'' then single
    else plain
  | blank, c =>
    if c == '#' then comment
    else if c == '\\' then escape
    else if c == '"' then double
    else if c == '\'' then single
    else plain
  | escape, _       => plain
  | single, c       => if c == '\\' then singleEscape else if c == '\'' then plain else single
  | singleEscape, _ => single
  | double, c       => if c == '\\' then doubleEscape else if c == '"' then plain else double
  | doubleEscape, _ => double
  | comment, _      => comment

/-- A line up to its comment, and the place at its end. -/
def scan (s : Place) : (line acc : List Char) → List Char × Place
  | [], acc      => (acc.reverse, s)
  | c :: cs, acc => match s.next c with
    | .comment => (acc.reverse, .comment)
    | s        => scan s cs (c :: acc)

/-- A line without its end. -/
def chomp (cs : List Char) : List Char :=
  match cs.reverse with
  | '\n' :: '\r' :: l => l.reverse
  | '\n' :: l         => l.reverse
  | _                 => cs

/-- The next line with those that it goes on in, and the lines after it. -/
def nextLine? (s : Place) (before : List Char) : List (List Char) → Option (List Char × List (List Char))
  | []           => none
  | line :: rest =>
    if ((before ++ line).dropWhile Text.isBlank).head? = some '#' then some ([], rest)
    else match scan s line [] with
      | (l, .comment) => some (before ++ l, rest)
      | (l, .plain)   => some (chomp (before ++ l), rest)
      | (l, s)        => nextLine? s (before ++ l) rest

/-! ## Values -/

/-- Where in a value the reading stands; `quoted` inside double quotes. -/
inductive Mode where
  | text (quoted : Bool)
  | literal
  | escape (quoted : Bool)
  | reference (quoted : Bool) (name : List Char)
  | braced (quoted : Bool) (name : List Char)
  | ending

def escaped? (c : Char) : Option Char :=
  if c == '\\' || c == '\'' || c == '"' || c == '$' || c == ' ' then some c else if c == 'n' then some '\n' else none

/-- The value in the rest of a line, given what was read of it in reverse.  After a reference without braces one character is
taken as it is, whatever it is. -/
def valueFrom? (lookup : String → Option String) : Mode → (acc rest : List Char) → Option (List Char)
  | .text quoted, acc, []           => if quoted then none else some acc.reverse
  | .literal, _, []                 => none
  | .escape quoted, acc, []         => if quoted then none else some acc.reverse
  | .reference quoted name, acc, [] => if quoted then none else some ((meaning name).reverse ++ acc).reverse
  | .braced .., _, []               => none
  | .ending, acc, []                => some acc.reverse
  | .ending, acc, c :: cs =>
    if c == ' ' || c == '\t' then valueFrom? lookup .ending acc cs else if c == '#' then some acc.reverse else none
  | .escape quoted, acc, c :: cs => match escaped? c with
    | some d => valueFrom? lookup (.text quoted) (d :: acc) cs
    | none   => none
  | .literal, acc, c :: cs =>
    if c == '\'' then valueFrom? lookup (.text false) acc cs else valueFrom? lookup .literal (c :: acc) cs
  | .reference quoted name, acc, c :: cs =>
    if Text.isAlphanumeric c then valueFrom? lookup (.reference quoted (c :: name)) acc cs
    else if c == '\x7b' && name.isEmpty then valueFrom? lookup (.braced quoted []) acc cs
    else if c == '$' then valueFrom? lookup (.reference quoted []) ((meaning name).reverse ++ acc) cs
    else valueFrom? lookup (.text quoted) (c :: ((meaning name).reverse ++ acc)) cs
  | .braced quoted name, acc, c :: cs =>
    if c == '\x7d' then valueFrom? lookup (.text quoted) ((meaning name).reverse ++ acc) cs
    else valueFrom? lookup (.braced quoted (c :: name)) acc cs
  | .text quoted, acc, c :: cs =>
    if c == '$' then valueFrom? lookup (.reference quoted []) acc cs
    else if c == '\\' then valueFrom? lookup (.escape quoted) acc cs
    else if c == '"' then valueFrom? lookup (.text !quoted) acc cs
    else if quoted then valueFrom? lookup (.text true) (c :: acc) cs
    else if c == '\'' then valueFrom? lookup .literal acc cs
    else if c == ' ' || c == '\t' then valueFrom? lookup .ending acc cs
    else valueFrom? lookup (.text false) (c :: acc) cs
where
  /-- What a name in reverse stands for. -/
  meaning (name : List Char) : List Char := ((lookup (String.ofList name.reverse)).getD "").toList

/-! ## Assignments -/

def isNameStart (c : Char) : Bool := c.isAlpha || c == '_'

def isNamePart (c : Char) : Bool := c.isAlphanum || c == '_' || c == '.'

def skipBlank (cs : List Char) : List Char := cs.dropWhile Text.isBlank

/-- A name at the head of a line, and the rest without the blanks before it. -/
def name? (cs : List Char) : Option (List Char × List Char) :=
  match cs with
  | c :: _ => if isNameStart c then some (cs.takeWhile isNamePart, skipBlank (cs.dropWhile isNamePart)) else none
  | []     => none

/-- The name that gets a value, and the text after the equals sign. -/
def target? (cs : List Char) : Option (List Char × List Char) := do
  let (name, rest) ← name? cs
  match rest with
  | '=' :: rest => some (name, skipBlank rest)
  | _ =>
    if name = "export".toList then
      match ← name? rest with
      | (name, '=' :: rest) => some (name, skipBlank rest)
      | _                   => none
    else none

/-- What a line says: nothing, or a name and its value; `none` if it makes no sense. -/
def assignment? (lookup : String → Option String) (line : List Char) : Option (Option (String × String)) :=
  let cs := skipBlank (Text.trimChars line)
  if cs.isEmpty || cs.head? = some '#' then some none
  else do
    let (name, rest) ← target? cs
    let value ← if rest.isEmpty || rest.head? = some '#' then some [] else valueFrom? lookup (.text false) [] rest
    some (some (String.ofList name, String.ofList value))

/-! ## The whole file -/

/-- What a variable has: its value in the environment, else the one it got here. -/
def look (environment : String → Option String) (got : List (String × String)) (name : String) : Option String :=
  (environment name).or (got.lookup name)

/-- One more variable, unless it has a value. -/
def add (environment : String → Option String) (got : List (String × String)) (v : String × String) :
    List (String × String) :=
  if (look environment got v.1).isSome then got else got ++ [v]

def readFrom (environment : String → Option String) :
    (fuel : Nat) → (got : List (String × String)) → (lines : List (List Char)) → List (String × String)
  | 0, got, _            => got
  | fuel + 1, got, lines =>
    match nextLine? .plain [] lines with
    | none              => got
    | some (line, rest) =>
      match assignment? (look environment got) line with
      | none          => got
      | some none     => readFrom environment fuel got rest
      | some (some v) => readFrom environment fuel (add environment got v) rest

/-- The lines of a text, each with its end. -/
def lines (cs : List Char) : List (List Char) :=
  let r := cs.foldr (fun c (r : List Char × List (List Char)) =>
    if c == '\n' then (['\n'], if r.1.isEmpty then r.2 else r.1 :: r.2) else (c :: r.1, r.2)) ([], [])
  if r.1.isEmpty then r.2 else r.1 :: r.2

/-- **The variables that a file adds to an environment.** -/
def read (environment : String → Option String) (text : String) : List (String × String) :=
  let l := lines (match text.toList with
    | c :: cs => if c.toNat = 0xfeff then cs else c :: cs
    | []      => [])
  readFrom environment l.length [] l

/-! ## The environment -/

/-- The name and the value on the two sides of the first equals sign. -/
def ofEntry? (cs : List Char) : Option (String × String) :=
  match cs.dropWhile (· != '=') with
  | _ :: value => some (String.ofList (cs.takeWhile (· != '=')), String.ofList value)
  | []         => none

/-- The variables in a block of entries with a null character after each. -/
def ofBlock (text : String) : List (String × String) :=
  (text.toList.splitOn (Char.ofNat 0)).filterMap ofEntry?

end Variables
end Pinpoint
