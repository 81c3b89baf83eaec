import Gatehouse.Text.WordRanges

/-! Word characters and the edges of words.  The class is that of Unicode; an ASCII character is in
it if and only if it is a letter, a digit or the underscore. -/

namespace Gatehouse.Text

/-- Does one of the ranges hold the number?  Each part of the table is in ascending order, so a
part whose last range ends too early is passed over at once. -/
def inRanges (table : List (List (Nat × Nat))) (n : Nat) : Bool :=
  table.any fun part =>
    match part.getLast? with
    | some (_, last) => n ≤ last && part.any fun (low, high) => low ≤ n && n ≤ high
    | none => false

/-- A letter, a digit or the underscore. -/
def isAsciiWord (c : Char) : Bool := c.isAlphanum || c == '_'

/-- A character that is part of words. -/
def isWord (c : Char) : Bool :=
  if c.toNat < 128 then isAsciiWord c else inRanges WordRanges.all c.toNat

/-- Is the character there, and is it part of words? -/
def isWord? : Option Char → Bool
  | some c => isWord c
  | none => false

/-- Is the place between two characters, or at an end of the text, the edge of a word? -/
def isWordEdge (before after : Option Char) : Bool := isWord? before != isWord? after

end Gatehouse.Text
