import Gatehouse.Text.Blank
import Gatehouse.Text.Replace

/-! Cleaning a search term.  The delimiters of SQL comments are removed, doubled quotes become
single ones, and the blank characters at both ends go. -/

namespace Gatehouse.Screen

open Text

/-- The characters of a search term after cleaning. -/
def sanitizeChars (cs : List Char) : List Char :=
  let cs := replacePair '-' '-' [] cs
  let cs := replacePair '/' '*' [] cs
  let cs := replacePair '*' '/' [] cs
  let cs := cs.filter (· != '#')
  let cs := replacePair '\'' '\'' ['\''] cs
  let cs := replacePair '"' '"' ['"'] cs
  trimChars cs

/-- A search term after cleaning. -/
def sanitize (s : String) : String := String.ofList (sanitizeChars s.toList)

end Gatehouse.Screen
