/-!
# Font — digits and letters on a five by five grid

Each glyph is five rows of five bits, the leftmost column in the highest bit.
-/
namespace Pinpoint
namespace Font

def glyphs : Array (Array Nat) := #[
  #[0b01110, 0b10001, 0b10001, 0b10001, 0b01110], -- 0
  #[0b00100, 0b01100, 0b00100, 0b00100, 0b01110], -- 1
  #[0b01110, 0b10001, 0b00110, 0b01000, 0b11111], -- 2
  #[0b11110, 0b00001, 0b00110, 0b00001, 0b11110], -- 3
  #[0b00110, 0b01010, 0b10010, 0b11111, 0b00010], -- 4
  #[0b11111, 0b10000, 0b11110, 0b00001, 0b11110], -- 5
  #[0b01110, 0b10000, 0b11110, 0b10001, 0b01110], -- 6
  #[0b11111, 0b00001, 0b00010, 0b00100, 0b00100], -- 7
  #[0b01110, 0b10001, 0b01110, 0b10001, 0b01110], -- 8
  #[0b01110, 0b10001, 0b01111, 0b00001, 0b01110], -- 9
  #[0b01110, 0b10001, 0b11111, 0b10001, 0b10001], -- A
  #[0b11110, 0b10001, 0b11110, 0b10001, 0b11110], -- B
  #[0b01110, 0b10000, 0b10000, 0b10000, 0b01110], -- C
  #[0b11100, 0b10010, 0b10001, 0b10010, 0b11100], -- D
  #[0b11111, 0b10000, 0b11110, 0b10000, 0b11111], -- E
  #[0b11111, 0b10000, 0b11110, 0b10000, 0b10000], -- F
  #[0b01110, 0b10000, 0b10011, 0b10001, 0b01110], -- G
  #[0b10001, 0b10001, 0b11111, 0b10001, 0b10001], -- H
  #[0b01110, 0b00100, 0b00100, 0b00100, 0b01110], -- I
  #[0b00111, 0b00010, 0b00010, 0b10010, 0b01100], -- J
  #[0b10001, 0b10010, 0b11100, 0b10010, 0b10001], -- K
  #[0b10000, 0b10000, 0b10000, 0b10000, 0b11111], -- L
  #[0b10001, 0b11011, 0b10101, 0b10001, 0b10001], -- M
  #[0b10001, 0b11001, 0b10101, 0b10011, 0b10001], -- N
  #[0b01110, 0b10001, 0b10001, 0b10001, 0b01110], -- O
  #[0b11110, 0b10001, 0b11110, 0b10000, 0b10000], -- P
  #[0b01110, 0b10001, 0b10101, 0b10010, 0b01101], -- Q
  #[0b11110, 0b10001, 0b11110, 0b10010, 0b10001], -- R
  #[0b01111, 0b10000, 0b01110, 0b00001, 0b11110], -- S
  #[0b11111, 0b00100, 0b00100, 0b00100, 0b00100], -- T
  #[0b10001, 0b10001, 0b10001, 0b10001, 0b01110], -- U
  #[0b10001, 0b10001, 0b10001, 0b01010, 0b00100], -- V
  #[0b10001, 0b10001, 0b10101, 0b11011, 0b10001], -- W
  #[0b10001, 0b01010, 0b00100, 0b01010, 0b10001], -- X
  #[0b10001, 0b01010, 0b00100, 0b00100, 0b00100], -- Y
  #[0b11111, 0b00010, 0b00100, 0b01000, 0b11111]  -- Z
]

/-- The glyph of a digit or capital letter. -/
def glyph? (c : Char) : Option (Array Nat) :=
  if '0' ≤ c ∧ c ≤ '9' then glyphs[c.toNat - 48]?
  else if 'A' ≤ c ∧ c ≤ 'Z' then glyphs[c.toNat - 55]?
  else none

/-- The set cells of a glyph as columns and rows, row by row. -/
def cells (g : Array Nat) : List (Nat × Nat) :=
  (List.range 5).flatMap fun row => (List.range 5).filterMap fun col =>
    if (g.getD row 0).testBit (4 - col) then some (col, row) else none

end Font
end Pinpoint
