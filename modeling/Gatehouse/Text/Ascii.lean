/-! Equality of texts up to the case of ASCII letters.  Every other character stands for itself. -/

namespace Gatehouse.Text

/-- A text with its ASCII letters in lower case. -/
def asciiLower (s : String) : String := String.ofList (s.toList.map Char.toLower)

/-- Two texts that differ at most in the case of ASCII letters. -/
def sameUpToCase (s t : String) : Bool := asciiLower s == asciiLower t

theorem sameUpToCase_iff {s t : String} :
    sameUpToCase s t = true ↔ asciiLower s = asciiLower t := by
  simp [sameUpToCase]

end Gatehouse.Text
