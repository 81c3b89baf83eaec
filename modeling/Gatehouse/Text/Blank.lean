/-! White space and trimming.  `isBlank` is the Unicode property `White_Space`, `trim` removes the
blank characters at both ends of a text, and `isBlankText` says that nothing would be left. -/

namespace Gatehouse.Text

/-- The characters with the Unicode property `White_Space`. -/
def isBlank (c : Char) : Bool :=
  let n := c.toNat
  (9 ≤ n && n ≤ 13) || n == 32 || n == 0x85 || n == 0xA0 || n == 0x1680 ||
    (0x2000 ≤ n && n ≤ 0x200A) || n == 0x2028 || n == 0x2029 || n == 0x202F || n == 0x205F ||
    n == 0x3000

/-- The characters without the blank ones in front. -/
def trimStartChars (cs : List Char) : List Char := cs.dropWhile isBlank

/-- The characters without the blank ones at the end. -/
def trimEndChars (cs : List Char) : List Char := (cs.reverse.dropWhile isBlank).reverse

/-- The characters without the blank ones at either end. -/
def trimChars (cs : List Char) : List Char := trimEndChars (trimStartChars cs)

/-- A text without the blank characters at either end. -/
def trim (s : String) : String := String.ofList (trimChars s.toList)

/-- A text that has no character but blank ones. -/
def isBlankText (s : String) : Bool := s.toList.all isBlank

end Gatehouse.Text
