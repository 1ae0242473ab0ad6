import Pinpoint.Scalar
import Pinpoint.Text.Alphanumeric
import Pinpoint.Text.Case
import Pinpoint.Text.Hash
/-!
# Embedding — texts as vectors

A text is turned into the words in it, and each word and each pair of neighbours puts its weight, with a sign of its own,
into one of `dimension` buckets.  The vector is then brought to length one, unless it is zero.  How alike two texts are is
the cosine between their vectors.
-/
namespace Pinpoint
namespace Embedding

/-! ## Words -/

/-- The runs of letters and digits; `run` is the one being read, in reverse. -/
def runsFrom (run : List Char) : List Char → List (List Char)
  | []      => if run.isEmpty then [] else [run.reverse]
  | c :: cs =>
    if Text.isAlphanumeric c then runsFrom (c :: run) cs
    else if run.isEmpty then runsFrom [] cs
    else run.reverse :: runsFrom [] cs

/-- The words of a text, in lower case. -/
def words (text : String) : List String := (runsFrom [] text.toList).map fun r => Text.toLower (String.ofList r)

def pairs : List String → List String
  | a :: b :: l => (a ++ " " ++ b) :: pairs (b :: l)
  | _           => []

/-! ## Vectors -/

/-- What a word or pair adds to a vector, and where. -/
structure Feature (ν : Type) where
  bucket : Nat
  weight : ν

variable {ν : Type} [Scalar ν]

/-- The top bit of the hash is the sign, its remainder the bucket. -/
def feature (dimension : Nat) (weight : ν) (text : String) : Feature ν :=
  let h := Text.hash text
  ⟨h.toNat % dimension, if h < 0x8000000000000000 then weight else -weight⟩

def features (dimension : Nat) (text : String) : List (Feature ν) :=
  let l := words text
  l.map (feature dimension (Scalar.ofInt 1)) ++ (pairs l).map (feature dimension (Scalar.ratio 1 2))

/-- The sum of the weights in each bucket. -/
def fill (dimension : Nat) (l : List (Feature ν)) : List ν :=
  (List.range dimension).map fun i => Scalar.sum ((l.filter fun f => f.bucket == i).map (·.weight))

def length (v : List ν) : ν := Scalar.sqrt (Scalar.sum (v.map Scalar.sq))

def normalize (v : List ν) : List ν :=
  let n := length v
  if Scalar.ofInt 0 < n then v.map (· / n) else v

/-- **The vector of a text.** -/
def embed (dimension : Nat) (text : String) : List ν := normalize (fill dimension (features dimension text))

def dot (v w : List ν) : ν := Scalar.sum (List.zipWith (· * ·) v w)

def isZero (x : ν) : Bool := x ≤ Scalar.ofInt 0 && Scalar.ofInt 0 ≤ x

/-- **The cosine between two vectors**; zero if either has length zero or they differ in dimension. -/
def cosine (v w : List ν) : ν :=
  if v.length ≠ w.length then Scalar.ofInt 0
  else
    let m := length v
    let n := length w
    if isZero m || isZero n then Scalar.ofInt 0 else dot v w / (m * n)

end Embedding
end Pinpoint
