import Pinpoint.Toml
import Pinpoint.Decimal
import Pinpoint.Json.Text
/-!
# Token — the smallest parts of a configuration text

Comments, keys, strings, numbers and dates, each read from the head of a text with lines ended by `\n`.  Numbers and dates
are told apart by what a whole run of their characters says: a run that is neither is an error.
-/
namespace Pinpoint
namespace Toml

/-! ## Blanks and comments -/

def isSpace (c : Char) : Bool := c == ' ' || c == '\t'

def skipSpace (cs : List Char) : List Char := cs.dropWhile isSpace

/-- A character that may stand in a comment or a literal string. -/
def isPlain (c : Char) : Bool := c == '\t' || (0x20 ≤ c.toNat && c.toNat ≠ 0x7f)

/-- The rest of a line after a comment has begun. -/
def skipComment : List Char → Option (List Char)
  | []      => some []
  | c :: cs => if c == '\n' then some (c :: cs) else if isPlain c then skipComment cs else none

/-- Blanks, ends of lines and comments. -/
def skipLines : (fuel : Nat) → List Char → Option (List Char)
  | 0, cs => some cs
  | fuel + 1, cs =>
    match skipSpace cs with
    | '\n' :: cs => skipLines fuel cs
    | '#' :: cs  => do skipLines fuel (← skipComment cs)
    | cs         => some cs

/-! ## Strings -/

def hexRun? : (n acc : Nat) → List Char → Option (Nat × List Char)
  | 0, acc, cs          => some (acc, cs)
  | n + 1, acc, c :: cs => do hexRun? n (acc * 16 + (← Json.hexDigit? c)) cs
  | _ + 1, _, []        => none

def scalarValue? (r : Nat × List Char) : Option (Char × List Char) :=
  if r.1.isValidChar then some (Char.ofNat r.1, r.2) else none

/-- The character that an escape stands for. -/
def escape? : List Char → Option (Char × List Char)
  | 'b' :: cs  => some (Char.ofNat 8, cs)
  | 't' :: cs  => some ('\t', cs)
  | 'n' :: cs  => some ('\n', cs)
  | 'f' :: cs  => some (Char.ofNat 12, cs)
  | 'r' :: cs  => some ('\r', cs)
  | '"' :: cs  => some ('"', cs)
  | '\\' :: cs => some ('\\', cs)
  | 'u' :: cs  => (hexRun? 4 0 cs).bind scalarValue?
  | 'U' :: cs  => (hexRun? 8 0 cs).bind scalarValue?
  | _          => none

/-- A string on one line after its opening quote; only one kind knows escapes. -/
def line? (quote : Char) (escapes : Bool) : (fuel : Nat) → (acc : List Char) → List Char → Option (String × List Char)
  | 0, _, _      => none
  | _ + 1, _, [] => none
  | fuel + 1, acc, c :: cs =>
    if c == quote then some (String.ofList acc.reverse, cs)
    else if escapes && c == '\\' then do
      let (d, cs) ← escape? cs
      line? quote escapes fuel (d :: acc) cs
    else if isPlain c then line? quote escapes fuel (c :: acc) cs
    else none

/-- What follows a backslash at the end of a line: the text from the next character that is no blank. -/
def afterLineEnd? (cs : List Char) : Option (List Char) :=
  match skipSpace cs with
  | '\n' :: cs => some (cs.dropWhile fun c => isSpace c || c == '\n')
  | _          => none

/-- A string over several lines after its opening quotes.  Up to two quotes right before the closing ones are text. -/
def block? (quote : Char) (escapes : Bool) : (fuel : Nat) → (acc : List Char) → List Char → Option (String × List Char)
  | 0, _, _      => none
  | _ + 1, _, [] => none
  | fuel + 1, acc, c :: cs =>
    if c == quote then
      let run := (c :: cs).takeWhile (· == quote)
      let rest := (c :: cs).dropWhile (· == quote)
      if run.length < 3 then block? quote escapes fuel (run ++ acc) rest
      else if run.length ≤ 5 then some (String.ofList (run.drop 3 ++ acc).reverse, rest)
      else none
    else if escapes && c == '\\' then
      match afterLineEnd? cs with
      | some cs => block? quote escapes fuel acc cs
      | none    => do
        let (d, cs) ← escape? cs
        block? quote escapes fuel (d :: acc) cs
    else if c == '\n' || isPlain c then block? quote escapes fuel (c :: acc) cs
    else none

/-- A line end right after the opening quotes is no part of the string. -/
def skipFirstLine : List Char → List Char
  | '\n' :: cs => cs
  | cs         => cs

/-- A string of any kind. -/
def string? : List Char → Option (String × List Char)
  | '"' :: '"' :: '"' :: cs    => block? '"' true (cs.length + 1) [] (skipFirstLine cs)
  | '\'' :: '\'' :: '\'' :: cs => block? '\'' false (cs.length + 1) [] (skipFirstLine cs)
  | '"' :: cs                  => line? '"' true (cs.length + 1) [] cs
  | '\'' :: cs                 => line? '\'' false (cs.length + 1) [] cs
  | _                          => none

/-! ## Keys -/

def isBareKey (c : Char) : Bool := c.isAlphanum || c == '-' || c == '_'

def simpleKey? : List Char → Option (String × List Char)
  | '"' :: cs  => line? '"' true (cs.length + 1) [] cs
  | '\'' :: cs => line? '\'' false (cs.length + 1) [] cs
  | cs =>
    let run := cs.takeWhile isBareKey
    if run.isEmpty then none else some (String.ofList run, cs.dropWhile isBareKey)

/-- The parts of a dotted key, with the blanks around it. -/
def keyParts? : (fuel : Nat) → List Char → Option (List String × List Char)
  | 0, _         => none
  | fuel + 1, cs => do
    let (k, cs) ← simpleKey? (skipSpace cs)
    match skipSpace cs with
    | '.' :: cs =>
      let (l, cs) ← keyParts? fuel cs
      some (k :: l, cs)
    | cs => some ([k], cs)

/-- A dotted key; none has eighty parts. -/
def key? (cs : List Char) : Option (List String × List Char) := keyParts? 79 cs

/-! ## Numbers -/

/-- Digits with single underscores between them. -/
def digits? (isDigit : Char → Bool) : List Char → Option (List Char)
  | []             => none
  | [c]            => if isDigit c then some [c] else none
  | c :: '_' :: cs => if isDigit c then (digits? isDigit cs).map (c :: ·) else none
  | c :: cs        => if isDigit c then (digits? isDigit cs).map (c :: ·) else none

def valueIn (base : Nat) (ds : List Char) : Nat := ds.foldl (fun n c => n * base + (Json.hexDigit? c).getD 0) 0

/-- The sign of a number, and the rest of it. -/
def signed : List Char → Bool × List Char
  | '-' :: cs => (true, cs)
  | '+' :: cs => (false, cs)
  | cs        => (false, cs)

/-- A whole number held in 64 bits. -/
def bounded? (n : Int) : Option Toml := if -0x8000000000000000 ≤ n ∧ n < 0x8000000000000000 then some (int n) else none

/-- Digits that do not begin with a zero, unless there is nothing else. -/
def whole? (cs : List Char) : Option (List Char) :=
  match cs with
  | '0' :: _ :: _ => none
  | cs            => digits? Char.isDigit cs

def based? : List Char → Option Toml
  | '0' :: 'x' :: cs => do bounded? (valueIn 16 (← digits? (fun c => (Json.hexDigit? c).isSome) cs))
  | '0' :: 'o' :: cs => do bounded? (valueIn 8 (← digits? (fun c => '0' ≤ c ∧ c ≤ '7') cs))
  | '0' :: 'b' :: cs => do bounded? (valueIn 2 (← digits? (fun c => c = '0' ∨ c = '1') cs))
  | _                => none

def decimalInt? (cs : List Char) : Option Toml := do
  let s := signed cs
  let n := valueIn 10 (← whole? s.2)
  bounded? (if s.1 then -(n : Int) else n)

/-- The power of ten after `e` or `E`; `none` inside when there is none. -/
def power? : List Char → Option (Option Int)
  | [] => some none
  | c :: cs =>
    if c == 'e' || c == 'E' then do
      let s := signed cs
      let n := valueIn 10 (← digits? Char.isDigit s.2)
      some (some (if s.1 then -(n : Int) else n))
    else none

def isExponentMark (c : Char) : Bool := c == 'e' || c == 'E'

/-- Whole part, digits after the point and power of ten of a number that has at least one of the latter two. -/
def decimal? (cs : List Char) : Option Decimal := do
  let s := signed cs
  let head := s.2.takeWhile fun c => c != '.' && !isExponentMark c
  let rest := s.2.drop head.length
  let whole ← whole? head
  match rest with
  | '.' :: cs =>
    let places := cs.takeWhile fun c => !isExponentMark c
    let fraction ← digits? Char.isDigit places
    let power ← power? (cs.drop places.length)
    some ⟨s.1, valueIn 10 (whole ++ fraction), power.getD 0 - fraction.length, false⟩
  | cs =>
    match ← power? cs with
    | some power => some ⟨s.1, valueIn 10 whole, power, false⟩
    | none       => none

/-- A number too large for its type is none, but a negative one is endless. -/
def float64? (cs : List Char) : Option Toml := do
  let d ← decimal? cs
  let v : Float := d.nearest
  if v.isFinite ∨ d.negative then some (float v) else none

/-- The two numbers that have names. -/
def named? (cs : List Char) : Option Toml :=
  let s := signed cs
  let v : Option Float :=
    if s.2 = ['i', 'n', 'f'] then some (1 / 0) else if s.2 = ['n', 'a', 'n'] then some (0 / 0) else none
  v.map fun v => float (if s.1 then -v else v)

/-! ## Dates -/

/-- Two digits at the head, within bounds. -/
def two? (lo hi : Nat) : List Char → Option (Nat × List Char)
  | a :: b :: cs =>
    if a.isDigit && b.isDigit then
      let n := valueIn 10 [a, b]
      if lo ≤ n ∧ n ≤ hi then some (n, cs) else none
    else none
  | _ => none

def mark? (c : Char) : List Char → Option (List Char)
  | d :: cs => if c == d then some cs else none
  | []      => none

def isLeap (year : Nat) : Bool := year % 4 == 0 && (year % 100 != 0 || year % 400 == 0)

def daysIn (year month : Nat) : Nat :=
  if month = 2 then (if isLeap year then 29 else 28)
  else if month = 4 ∨ month = 6 ∨ month = 9 ∨ month = 11 then 30
  else 31

def day? (cs : List Char) : Option (List Char) := do
  let (century, cs) ← two? 0 99 cs
  let (year, cs) ← two? 0 99 cs
  let (month, cs) ← two? 1 12 (← mark? '-' cs)
  let (_, cs) ← two? 1 (daysIn (century * 100 + year) month) (← mark? '-' cs)
  some cs

/-- Parts of a second. -/
def fraction? : List Char → Option (List Char)
  | '.' :: cs => if (cs.takeWhile Char.isDigit).isEmpty then none else some (cs.dropWhile Char.isDigit)
  | cs        => some cs

def time? (cs : List Char) : Option (List Char) := do
  let (_, cs) ← two? 0 23 cs
  let (_, cs) ← two? 0 59 (← mark? ':' cs)
  let (_, cs) ← two? 0 60 (← mark? ':' cs)
  fraction? cs

/-- How far a time is from that of the zero meridian, if that is said. -/
def isOffset : List Char → Bool
  | []      => true
  | c :: cs =>
    if c == 'Z' || c == 'z' then cs.isEmpty
    else if c == '+' || c == '-' then
      ((do
        let (_, cs) ← two? 0 23 cs
        let (_, cs) ← two? 0 59 (← mark? ':' cs)
        some cs) == some [])
    else false

def isDate (cs : List Char) : Bool :=
  match day? cs with
  | some []        => true
  | some (c :: cs) =>
    (c == 'T' || c == 't' || c == ' ') &&
      match time? cs with
      | some cs => isOffset cs
      | none    => false
  | none => time? cs == some []

/-! ## Words -/

def isWordChar (c : Char) : Bool := c.isAlphanum || c == '+' || c == '-' || c == '_' || c == '.' || c == ':'

/-- The word at the head of a text; a day may be followed, after one blank, by a time. -/
def word (cs : List Char) : List Char × List Char :=
  let w := cs.takeWhile isWordChar
  let rest := cs.dropWhile isWordChar
  match rest with
  | ' ' :: c :: rest' =>
    if c.isDigit && day? w == some [] then (w ++ ' ' :: (c :: rest').takeWhile isWordChar, (c :: rest').dropWhile isWordChar)
    else (w, rest)
  | _ => (w, rest)

/-- The value that a word stands for. -/
def ofWord? (w : List Char) : Option Toml :=
  if w = ['t', 'r', 'u', 'e'] then some (bool true)
  else if w = ['f', 'a', 'l', 's', 'e'] then some (bool false)
  else if isDate w then some (date (String.ofList w))
  else based? w <|> decimalInt? w <|> float64? w <|> named? w

end Toml
end Pinpoint
