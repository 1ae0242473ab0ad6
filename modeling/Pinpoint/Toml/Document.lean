import Pinpoint.Toml.Token
/-!
# Document — the tables of a configuration text

A text is lines: headers that open a table or add one to a list of tables, and assignments to a dotted key in the table that
was opened last.  A table is opened once, a key assigned once.  A table may come into being on the way to another one; then
it may still be opened, unless dotted keys made it, and dotted keys may only go through tables that were not opened.
-/
namespace Pinpoint
namespace Toml

/-- How a table came into being. -/
inductive Origin where
  /-- Opened by a header. -/
  | opened
  /-- On the way of a header. -/
  | passed
  /-- On the way of a dotted key. -/
  | dotted
  deriving DecidableEq

/-- A value that is finished, or tables that may still grow. -/
inductive Node where
  | value (v : Toml)
  | table (origin : Origin) (fields : List (String × Node))
  | tables (l : List (List (String × Node)))

abbrev Fields := List (String × Node)

/-! ## Growing tables -/

def put (k : String) (n : Node) (l : Fields) : Fields := l.map fun f => if f.1 == k then (k, n) else f

/-- The fields at a header's path changed; of a list of tables the last one is meant. -/
def inPath (change : Fields → Option Fields) : List String → Fields → Option Fields
  | [], l          => change l
  | k :: path, l =>
    match l.lookup k with
    | none                => (inPath change path []).map fun s => l ++ [(k, .table .passed s)]
    | some (.table o s)   => (inPath change path s).map fun s => put k (.table o s) l
    | some (.tables ts)   =>
      match ts.getLast? with
      | some s => (inPath change path s).map fun s => put k (.tables (ts.dropLast ++ [s])) l
      | none   => none
    | some (.value _)     => none

/-- The table a header opens. -/
def openTable (k : String) (l : Fields) : Option Fields :=
  match l.lookup k with
  | none                    => some (l ++ [(k, .table .opened [])])
  | some (.table .passed s) => some (put k (.table .opened s) l)
  | _                       => none

/-- The table a header adds to a list. -/
def addTable (k : String) (l : Fields) : Option Fields :=
  match l.lookup k with
  | none              => some (l ++ [(k, .tables [[]])])
  | some (.tables ts) => some (put k (.tables (ts ++ [[]])) l)
  | _                 => none

/-- A value assigned to a new key, after the parts of a dotted key before it. -/
def assign (k : String) (v : Toml) : List String → Fields → Option Fields
  | [], l =>
    match l.lookup k with
    | none   => some (l ++ [(k, .value v)])
    | some _ => none
  | p :: path, l =>
    match l.lookup p with
    | none                    => (assign k v path []).map fun s => l ++ [(p, .table .dotted s)]
    | some (.table .dotted s) => (assign k v path s).map fun s => put p (.table .dotted s) l
    | some (.table .passed s) =>
      if path.isEmpty then none else (assign k v path s).map fun s => put p (.table .passed s) l
    | some (.tables ts) =>
      match ts.getLast? with
      | some s =>
        if path.isEmpty then none else (assign k v path s).map fun s => put p (.tables (ts.dropLast ++ [s])) l
      | none => none
    | _ => none

def assignPath (path : List String) (v : Toml) (l : Fields) : Option Fields :=
  match path.getLast? with
  | some k => assign k v path.dropLast l
  | none   => none

mutual

def Node.toToml : Node → Toml
  | .value v   => v
  | .table _ l => .table (fieldsToToml l)
  | .tables ts => .arr (tablesToToml ts)

def fieldsToToml : List (String × Node) → List (String × Toml)
  | []          => []
  | (k, n) :: l => (k, n.toToml) :: fieldsToToml l

def tablesToToml : List (List (String × Node)) → List Toml
  | []     => []
  | t :: l => .table (fieldsToToml t) :: tablesToToml l

end

/-! ## Values -/

mutual

/-- The value at the head of a text, with at most `depth` arrays and tables inside one another. -/
def value? : (fuel depth : Nat) → List Char → Option (Toml × List Char)
  | 0, _, _ => none
  | fuel + 1, depth, cs =>
    match cs with
    | '[' :: cs    => if depth = 0 then none else items? fuel (depth - 1) [] cs
    | '\x7b' :: cs =>
      if depth = 0 then none
      else
        match skipSpace cs with
        | '\x7d' :: cs => some (table [], cs)
        | cs           => pairs? fuel (depth - 1) [] cs
    | '"' :: _ | '\'' :: _ => (string? cs).map fun r => (str r.1, r.2)
    | cs =>
      let w := word cs
      (ofWord? w.1).map fun v => (v, w.2)

/-- The items of an array, in reverse so far. -/
def items? : (fuel depth : Nat) → List Toml → List Char → Option (Toml × List Char)
  | 0, _, _, _ => none
  | fuel + 1, depth, acc, cs => do
    let cs ← skipLines cs.length cs
    match cs with
    | ']' :: cs => some (arr acc.reverse, cs)
    | cs =>
      let (v, cs) ← value? fuel depth cs
      match ← skipLines cs.length cs with
      | ',' :: cs => items? fuel depth (v :: acc) cs
      | ']' :: cs => some (arr (v :: acc).reverse, cs)
      | _         => none

/-- The assignments of a table on one line; there is at least one more. -/
def pairs? : (fuel depth : Nat) → Fields → List Char → Option (Toml × List Char)
  | 0, _, _, _ => none
  | fuel + 1, depth, l, cs => do
    let (path, cs) ← key? cs
    let (v, cs) ← value? fuel depth (skipSpace (← mark? '=' cs))
    let l ← assignPath path v l
    match skipSpace cs with
    | ',' :: cs    => pairs? fuel depth l cs
    | '\x7d' :: cs => some (table (fieldsToToml l), cs)
    | _            => none

end

/-! ## Lines -/

/-- The fields so far and the path of the table that was opened last. -/
structure Draft where
  fields : Fields
  path   : List String

def Draft.openHeader (d : Draft) (add : String → Fields → Option Fields) (path : List String) : Option Draft :=
  match path.getLast? with
  | some k => (inPath (add k) path.dropLast d.fields).map fun l => ⟨l, path⟩
  | none   => none

/-- One header or assignment. -/
def statement? (d : Draft) : List Char → Option (Draft × List Char)
  | '[' :: '[' :: cs => do
    let (path, cs) ← key? cs
    some (← d.openHeader addTable path, ← mark? ']' (← mark? ']' cs))
  | '[' :: cs => do
    let (path, cs) ← key? cs
    some (← d.openHeader openTable path, ← mark? ']' cs)
  | cs => do
    let (path, cs) ← key? cs
    let cs := skipSpace (← mark? '=' cs)
    let (v, cs) ← value? (2 * cs.length + 2) 79 cs
    some ({ d with fields := ← inPath (assignPath path v) d.path d.fields }, cs)

/-- The end of a line, after blanks and a comment. -/
def lineEnd? (cs : List Char) : Option (List Char) := do
  let cs ← match skipSpace cs with
    | '#' :: cs => skipComment cs
    | cs        => some cs
  match cs with
  | []         => some []
  | '\n' :: cs => some cs
  | _          => none

def lines? : (fuel : Nat) → Draft → List Char → Option Draft
  | 0, _, _ => none
  | fuel + 1, d, cs =>
    match skipSpace cs with
    | []         => some d
    | '\n' :: cs => lines? fuel d cs
    | '#' :: cs  => do lines? fuel d (← lineEnd? ('#' :: cs))
    | cs         => do
      let (d, cs) ← statement? d cs
      lines? fuel d (← lineEnd? cs)

/-- Every line ended by `\n` alone. -/
def unifyLines : List Char → List Char
  | '\r' :: '\n' :: cs => '\n' :: unifyLines cs
  | c :: cs            => c :: unifyLines cs
  | []                 => []

/-- A mark of byte order at the head is no part of the text. -/
def skipMark : List Char → List Char
  | c :: cs => if c.toNat = 0xfeff then cs else c :: cs
  | []      => []

/-- **The table a text stands for.** -/
def parse? (s : String) : Option Toml :=
  let cs := unifyLines (skipMark s.toList)
  (lines? (cs.length + 1) ⟨[], []⟩ cs).map fun d => .table (fieldsToToml d.fields)

/-! ## Writing -/

def escaped (c : Char) : List Char :=
  if c == '"' then ['\\', '"']
  else if c == '\\' then ['\\', '\\']
  else if isPlain c && c != '\t' then [c]
  else '\\' :: 'u' :: (List.range 4).map fun i => Json.hexChar (c.toNat / Nat.pow 16 (3 - i) % 16)

def quoted (s : String) : String := String.ofList ('"' :: s.toList.flatMap escaped ++ ['"'])

def keyText (k : String) : String := if !k.isEmpty && k.toList.all isBareKey then k else quoted k

def floatText (v : Float) : String :=
  if v.isNaN then "nan"
  else if v.isFinite then (Decimal.shortest v).toText
  else if v < 0 then "-inf"
  else "inf"

mutual

/-- A value on one line. -/
def inlineText : Toml → String
  | str s   => quoted s
  | int n   => toString n
  | float v => floatText v
  | bool b  => if b then "true" else "false"
  | date t  => t
  | arr l   => "[" ++ itemsText l ++ "]"
  | table l => "\x7b" ++ pairsText l ++ "\x7d"

def itemsText : List Toml → String
  | []     => ""
  | [v]    => inlineText v
  | v :: l => inlineText v ++ ", " ++ itemsText l

def pairsText : List (String × Toml) → String
  | []          => ""
  | [(k, v)]    => " " ++ keyText k ++ " = " ++ inlineText v ++ " "
  | (k, v) :: l => " " ++ keyText k ++ " = " ++ inlineText v ++ "," ++ pairsText l

end

def isTable : Toml → Bool
  | table _ => true
  | _       => false

def assignments (l : List (String × Toml)) : String :=
  String.join ((l.filter fun f => !isTable f.2).map fun f => keyText f.1 ++ " = " ++ inlineText f.2 ++ "\n")

mutual

/-- A table under its header, then the tables in it. -/
def tableText (path : String) : Toml → String
  | table l => "\n[" ++ path ++ "]\n" ++ assignments l ++ subtablesText (path ++ ".") l
  | _       => ""

def subtablesText (path : String) : List (String × Toml) → String
  | []          => ""
  | (k, v) :: l => tableText (path ++ keyText k) v ++ subtablesText path l

end

/-- **The text of a table**: plain values first, then every table in it under a header of its own. -/
def toText : Toml → String
  | table l => assignments l ++ subtablesText "" l
  | v       => inlineText v

end Toml
end Pinpoint
