import Pinpoint.Decimal
/-!
# Arguments — what a command line asks for

Every option takes one value, after a blank or an equals sign, and is given at most once; a value after a blank does not
begin with a dash unless it is nothing else.  Help and version end the reading where they stand, and so does the first
mistake.  The options together must make sense: one element or a store, and a store only with a query.
-/
namespace Pinpoint
namespace Cli

structure Options where
  element  : Option String := none
  store    : Option String := none
  query    : Option String := none
  minScore : Float32 := Scalar.ratio 2 10
  testData : String := ""
  config   : Option String := none
  image    : Option String := none
  scale    : Float := Scalar.ofInt 1
  deriving Repr, Inhabited

/-- What a command line comes to. -/
inductive Request where
  | run (o : Options)
  | help
  | version
  | misuse (text : String)
  deriving Repr, Inhabited

/-! ## Numbers -/

def lowered (cs : List Char) : List Char := cs.map Char.toLower

/-- Digits with or without a point among them, as digits and places. -/
def mantissa? (cs : List Char) : Option (List Char × Nat) :=
  let whole := cs.takeWhile Char.isDigit
  match cs.drop whole.length with
  | []        => if whole.isEmpty then none else some (whole, 0)
  | '.' :: cs => if cs.all Char.isDigit && !(whole.isEmpty && cs.isEmpty) then some (whole ++ cs, cs.length) else none
  | _         => none

def valueOf (ds : List Char) : Nat := ds.foldl (fun n c => n * 10 + (c.toNat - 48)) 0

def exponent? (cs : List Char) : Option Int :=
  let s := match cs with
    | '-' :: cs => (true, cs)
    | '+' :: cs => (false, cs)
    | cs        => (false, cs)
  if !s.2.isEmpty && s.2.all Char.isDigit then some (if s.1 then -(valueOf s.2 : Int) else valueOf s.2) else none

/-- A number in any of its usual writings, the two named ones included. -/
def number? {α : Type} [Scalar α] (text : String) : Option α := do
  let s := match lowered text.toList with
    | '-' :: cs => (true, cs)
    | '+' :: cs => (false, cs)
    | cs        => (false, cs)
  let signed (v : α) : α := if s.1 then -v else v
  if s.2 = "inf".toList ∨ s.2 = "infinity".toList then some (signed (Scalar.ofInt 1 / Scalar.ofInt 0))
  else if s.2 = "nan".toList then some (signed (Scalar.ofInt 0 / Scalar.ofInt 0))
  else
    let head := s.2.takeWhile (· != 'e')
    let (digits, places) ← mantissa? head
    let power ← match s.2.drop head.length with
      | []      => some 0
      | _ :: cs => exponent? cs
    some (Scalar.ofDecimal s.1 (valueOf digits) (power - places))

/-! ## Options -/

/-- Names of options. -/
inductive Name where
  | element
  | store
  | query
  | minScore
  | testData
  | config
  | image
  | scale
  deriving DecidableEq, Repr

namespace Name

def text : Name → String
  | element  => "element"
  | store    => "store"
  | query    => "query"
  | minScore => "min-score"
  | testData => "test-data"
  | config   => "config"
  | image    => "image"
  | scale    => "scale"

def all : List Name := [element, store, query, minScore, testData, config, image, scale]

def ofText? (s : String) : Option Name := all.find? fun n => n.text == s

end Name

/-- A path, which is never empty. -/
def path? (v : String) : Option (Option String) := if v.isEmpty then none else some (some v)

/-- The options with one more value, if the value makes sense. -/
def set? (o : Options) (n : Name) (v : String) : Option Options :=
  match n with
  | .element  => (path? v).map fun p => { o with element := p }
  | .store    => (path? v).map fun p => { o with store := p }
  | .query    => some { o with query := some v }
  | .minScore => (number? v).map fun x => { o with minScore := x }
  | .testData => some { o with testData := v }
  | .config   => (path? v).map fun p => { o with config := p }
  | .image    => (path? v).map fun p => { o with image := p }
  | .scale    => (number? v).map fun x => { o with scale := x }

/-- Whether the options go together. -/
def check (o : Options) : Request :=
  if o.element.isSome && o.store.isSome then .misuse "the argument '--element <ELEMENT>' cannot be used with '--store <STORE>'"
  else if o.store.isSome && o.query.isNone then .misuse "the following required arguments were not provided: --query <QUERY>"
  else .run o

/-! ## Reading -/

/-- The name and the value in an argument that begins with two dashes. -/
def splitLong (cs : List Char) : String × Option String :=
  let name := cs.takeWhile (· != '=')
  match cs.drop name.length with
  | []      => (String.ofList name, none)
  | _ :: cs => (String.ofList name, some (String.ofList cs))

def looksLikeOption (v : String) : Bool :=
  match v.toList with
  | '-' :: _ :: _ => true
  | _             => false

def unexpected (a : String) : Request := .misuse ("unexpected argument '" ++ a ++ "' found")

/-- One option with its value. -/
def accept (seen : List Name) (o : Options) (n : Name) (v : String) : Except Request Options :=
  if seen.contains n then .error (.misuse ("the argument '--" ++ n.text ++ "' cannot be used multiple times"))
  else
    match set? o n v with
    | some o => .ok o
    | none   => .error (.misuse ("invalid value '" ++ v ++ "' for '--" ++ n.text ++ "'"))

def parseFrom (seen : List Name) (o : Options) : List String → Request
  | []        => check o
  | a :: args =>
    match a.toList with
    | ['-', '-'] => match args with
      | []     => check o
      | b :: _ => unexpected b
    | '-' :: '-' :: cs =>
      match splitLong cs with
      | ("help", none)    => .help
      | ("version", none) => .version
      | (name, value)     =>
        match Name.ofText? name, value, args with
        | none, _, _             => unexpected a
        | some n, some v, args   =>
          match accept seen o n v with
          | .ok o    => parseFrom (n :: seen) o args
          | .error r => r
        | some n, none, v :: args =>
          if looksLikeOption v then .misuse ("a value is required for '--" ++ n.text ++ "' but none was supplied")
          else
            match accept seen o n v with
            | .ok o    => parseFrom (n :: seen) o args
            | .error r => r
        | some n, none, []       => .misuse ("a value is required for '--" ++ n.text ++ "' but none was supplied")
    | '-' :: 'h' :: _ => .help
    | '-' :: 'V' :: _ => .version
    | _               => unexpected a

/-- **The request of a command line.** -/
def parse (args : List String) : Request := parseFrom [] {} args

def usage : String := "Usage: seeclaw-locate [OPTIONS]"

def versionText : String := "seeclaw-locate 0.1.0"

def helpText : String :=
  "Locate a stored UI element on the current screen\n\n" ++ usage ++ "\n\nOptions:\n" ++
  "      --element <ELEMENT>      JSON file holding one element record\n" ++
  "      --store <STORE>          JSON file holding an array of element records; pick one with --query\n" ++
  "      --query <QUERY>          Text description used to pick a record out of --store\n" ++
  "      --min-score <MIN_SCORE>  Minimum similarity for --query [default: 0.2]\n" ++
  "      --test-data <TEST_DATA>  Values for the element's data-dependent attributes [default: \"\"]\n" ++
  "      --config <CONFIG>        Config file; defaults to the usual search locations\n" ++
  "      --image <IMAGE>          Use this image instead of capturing the primary monitor\n" ++
  "      --scale <SCALE>          Display scale for --image [default: 1]\n" ++
  "  -h, --help                   Print help\n" ++
  "  -V, --version                Print version"

end Cli
end Pinpoint
