import Gatehouse.Screen.Pattern
import Gatehouse.Text.Replace

/-! The attack signatures that request parameters are screened for.  `classify` names the first
category that a text falls into: SQL injection, script injection, or quotes doubled to escape. -/

namespace Gatehouse.Screen

open Text Pattern

/-- What a suspicious text looks like. -/
inductive Category where
  | sqlInjection
  | scriptInjection
  | suspiciousEscaping
  deriving DecidableEq, Repr

/-- The signatures of SQL injection: pairs of keywords on a line, the keywords that run a
procedure, the delimiters of comments, a condition with an equality, and a quote that closes a
statement. -/
def sqlSignatures : List Pattern :=
  [keywords "union" "select", keywords "select" "from", keywords "insert" "into",
    keywords "update" "set", keywords "delete" "from", keywords "drop" "table",
    alt (keyword "exec") (keyword "execute"),
    alt (literal "--") (alt (literal "#") (alt (literal "/*") (literal "*/"))),
    seq (keyword "or") (seq gap (literal "=")),
    seq (keyword "and") (seq gap (literal "=")),
    alt (literal "';") (literal "\";")]

/-- The signatures of script injection: script and frame elements, script addresses, and handlers
of events inside a tag or as an attribute by itself. -/
def scriptSignatures : List Pattern :=
  [seq (openTag "<script") (seq (star (one .any)) (literal "</script>")),
    seq (openTag "<iframe") (seq (star (one .any)) (literal "</iframe>")),
    literal "javascript:",
    seq (literal "on") (seq (seq (one .word) (star (one .word)))
      (seq (star (one .blank)) (literal "="))),
    seq (literal "<img") (seq (star (one (.except '>'))) (seq (literal "onerror")
      (seq (star (one (.except '>'))) (literal ">"))))]

/-- The first category that a text falls into. -/
def classify (s : String) : Option Category :=
  if occurs sqlSignatures s then some .sqlInjection
  else if occurs scriptSignatures s then some .scriptInjection
  else if hasPair '\'' '\'' s.toList || hasPair '"' '"' s.toList then some .suspiciousEscaping
  else none

end Gatehouse.Screen
