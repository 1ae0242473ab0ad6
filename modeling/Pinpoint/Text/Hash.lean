/-!
# Hash — a text as one word

The bytes of a text, closed by `0xff`, are mixed word by word into a state of four words: one round a word, three at the
end, with the key zero.  The last word holds what is left of the bytes and, on top, their number.
-/
namespace Pinpoint
namespace Text

structure HashState where
  a : UInt64
  b : UInt64
  c : UInt64
  d : UInt64

namespace HashState

def start : HashState := ⟨0x736f6d6570736575, 0x646f72616e646f6d, 0x6c7967656e657261, 0x7465646279746573⟩

def rotate (x : UInt64) (n : UInt64) : UInt64 := (x <<< n) ||| (x >>> (64 - n))

def round (s : HashState) : HashState :=
  let a := s.a + s.b
  let b := rotate s.b 13 ^^^ a
  let a := rotate a 32
  let c := s.c + s.d
  let d := rotate s.d 16 ^^^ c
  let a := a + d
  let d := rotate d 21 ^^^ a
  let c := c + b
  let b := rotate b 17 ^^^ c
  ⟨a, b, rotate c 32, d⟩

def absorb (s : HashState) (w : UInt64) : HashState :=
  let s := round { s with d := s.d ^^^ w }
  { s with a := s.a ^^^ w }

def finish (s : HashState) : UInt64 :=
  let s := round (round (round { s with c := s.c ^^^ 0xff }))
  s.a ^^^ s.b ^^^ s.c ^^^ s.d

end HashState

/-- A word from up to eight bytes, low ones first. -/
def wordOf (l : List UInt8) : UInt64 := l.foldr (fun b w => (w <<< 8) ||| b.toUInt64) 0

def hashFrom (n : Nat) : HashState → List UInt8 → HashState
  | s, a :: b :: c :: d :: e :: f :: g :: h :: l => hashFrom n (s.absorb (wordOf [a, b, c, d, e, f, g, h])) l
  | s, l => s.absorb (wordOf l ||| (UInt64.ofNat n <<< 56))

def hashBytes (l : List UInt8) : UInt64 := (hashFrom l.length .start l).finish

/-- **The word of a text.** -/
def hash (s : String) : UInt64 := hashBytes (s.toUTF8.toList ++ [0xff])

end Text
end Pinpoint
