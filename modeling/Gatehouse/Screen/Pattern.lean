import Gatehouse.Text.Blank
import Gatehouse.Text.Word

/-! Patterns over characters.  `Matches p before s after` says that `s` is in the language of `p`
when the character `before` precedes it and `after` follows it; the neighbours matter to `edge`
alone.  `occurs` decides whether some part of a text matches one of several patterns.  It reads the
text once and keeps the set of patterns that could still be completed: what is left of each pattern
after a character is a finite set, its partial derivatives. -/

namespace Gatehouse.Screen

open Text

inductive CharClass where
  /-- One character. -/
  | exactly (c : Char)
  /-- The characters that fold to a lower-case ASCII letter. -/
  | letter (c : Char)
  /-- The characters of words. -/
  | word
  /-- The white-space characters. -/
  | blank
  /-- Every character but one. -/
  | except (c : Char)
  /-- Every character. -/
  | any
  deriving DecidableEq, Repr

/-- A character that simple case folding identifies with the given lower-case ASCII letter: the
letter itself, its capital, and for `s` and `k` the long s and the kelvin sign. -/
def foldsTo (x c : Char) : Bool :=
  c.toLower == x || (x == 's' && c == '\u017F') || (x == 'k' && c == '\u212A')

def CharClass.holds : CharClass → Char → Bool
  | .exactly x, c => c == x
  | .letter x, c => foldsTo x c
  | .word, c => isWord c
  | .blank, c => isBlank c
  | .except x, c => c != x
  | .any, _ => true

inductive Pattern where
  /-- The empty text. -/
  | empty
  /-- One character of a class. -/
  | one (k : CharClass)
  /-- One pattern after another. -/
  | seq (p q : Pattern)
  /-- One of two patterns. -/
  | alt (p q : Pattern)
  /-- Any number of texts of a pattern, one after another. -/
  | star (p : Pattern)
  /-- The empty text at the edge of a word. -/
  | edge
  deriving DecidableEq, Repr

namespace Pattern

/-- A text in the language of a pattern, between its neighbours. -/
inductive Matches : Pattern → Option Char → List Char → Option Char → Prop
  | empty {before after} : Matches .empty before [] after
  | one {k c before after} : k.holds c = true → Matches (.one k) before [c] after
  | seq {p q s t before after} : Matches p before s (t.head?.or after) →
      Matches q (s.getLast?.or before) t after → Matches (.seq p q) before (s ++ t) after
  | left {p q s before after} : Matches p before s after → Matches (.alt p q) before s after
  | right {p q s before after} : Matches q before s after → Matches (.alt p q) before s after
  | none {p before after} : Matches (.star p) before [] after
  | more {p s t before after} : Matches p before s (t.head?.or after) →
      Matches (.star p) (s.getLast?.or before) t after → Matches (.star p) before (s ++ t) after
  | edge {before after} : isWordEdge before after = true → Matches .edge before [] after

/-- Some part of the text matches, in its place between the characters around it. -/
def Occurs (p : Pattern) (text : List Char) : Prop :=
  ∃ front part back, text = front ++ part ++ back ∧ p.Matches front.getLast? part back.head?

/-- Does the empty text match at a place that is or is not the edge of a word? -/
def skippable (atEdge : Bool) : Pattern → Bool
  | empty => true
  | one _ => false
  | seq p q => p.skippable atEdge && q.skippable atEdge
  | alt p q => p.skippable atEdge || q.skippable atEdge
  | star _ => true
  | edge => atEdge

/-- What may be left of a pattern after a character that follows a place which is or is not the
edge of a word. -/
def derive (atEdge : Bool) (c : Char) : Pattern → List Pattern
  | empty => []
  | one k => if k.holds c then [empty] else []
  | seq p q =>
    let first := (p.derive atEdge c).map (seq · q)
    if p.skippable atEdge then first ++ q.derive atEdge c else first
  | alt p q => p.derive atEdge c ++ q.derive atEdge c
  | star p => (p.derive atEdge c).map (seq · (star p))
  | edge => []

/-- What is left of any of the patterns, each once. -/
def deriveAll (atEdge : Bool) (c : Char) (ps : List Pattern) : List Pattern :=
  (ps.flatMap (derive atEdge c)).foldr List.insert []

/-- Reads on: is one of the `open` patterns completed, or does one of the `starts` match from here
on? -/
def scan (starts : List Pattern) : (live : List Pattern) → (before : Option Char) → List Char → Bool
  | live, before, [] => (starts ++ live).any (skippable (isWordEdge before none))
  | live, before, c :: rest =>
    let atEdge := isWordEdge before (some c)
    let all := starts ++ live
    if all.any (skippable atEdge) then true
    else scan starts (deriveAll atEdge c all) (some c) rest

/-- Does some part of the text match one of the patterns? -/
def occurs (ps : List Pattern) (text : String) : Bool := scan ps [] none text.toList

/-- A text as a pattern, in which an ASCII letter stands for both of its cases. -/
def literal (s : String) : Pattern :=
  (s.toList.map fun c => one (if c.isAlpha then .letter c.toLower else .exactly c)).foldr seq empty

/-- A text as a whole word. -/
def keyword (s : String) : Pattern := seq edge (seq (literal s) edge)

/-- Any characters up to the end of the line. -/
def gap : Pattern := star (one (.except '\n'))

/-- One word, whatever may stand between, and another one on the same line. -/
def keywords (s t : String) : Pattern := seq (keyword s) (seq gap (keyword t))

/-- An opening tag up to its closing angle bracket. -/
def openTag (name : String) : Pattern :=
  seq (literal name) (seq (star (one (.except '>'))) (one (.exactly '>')))

end Pattern

end Gatehouse.Screen
