import Gatehouse.Text.Split
import Gatehouse.Text.Utf8
import Gatehouse.Web.Percent

/-! Templates of paths.  A template is a sequence of literal pieces and of parameters that stand for
what is left of one segment or of the whole path.  A parameter is empty only where the path goes on
with a slash after it.  The values of parameters are percent-decoded after the match. -/

namespace Gatehouse.Web

open Text

inductive Piece where
  | literal (bytes : List UInt8)
  /-- A parameter up to the end of its segment. -/
  | segment (name : String)
  /-- A parameter for the rest of the path. -/
  | rest (name : String)
  deriving DecidableEq, Repr

abbrev Template := List Piece

namespace Template

def stripLiteral : List UInt8 → List UInt8 → Option (List UInt8)
  | [], path => some path
  | l :: literal, b :: path => if l == b then stripLiteral literal path else none
  | _ :: _, [] => none

/-- The parameters of a path that fits the template, as they were sent. -/
def rawParams? : Template → List UInt8 → Option (List (String × List UInt8))
  | [], [] => some []
  | [], _ :: _ => none
  | .literal bytes :: pieces, path => (stripLiteral bytes path).bind (rawParams? pieces)
  | .segment name :: pieces, path =>
    match path.span (· != 0x2F) with
    | ([], []) => none
    | (value, path) => (rawParams? pieces path).map ((name, value) :: ·)
  | .rest name :: _, path => if path.isEmpty then none else some [(name, path)]

/-- The value of a parameter, if it is well-formed Unicode. -/
def decodeParam? (value : List UInt8) : Option String := Utf8.decode? (Percent.decode value)

/-- The values of all parameters, if every one is well-formed Unicode. -/
def decodeParams? (params : List (String × List UInt8)) : Option (List (String × String)) :=
  params.mapM fun p => (decodeParam? p.2).map (p.1, ·)

/-- The parameter that stands between braces. -/
def ofBraces (cs : List Char) : Piece :=
  match cs with
  | '*' :: name => .rest (String.ofList name)
  | name => .segment (String.ofList name)

/-- Reads a template after a literal piece that stands in reverse.  Two braces of a kind in a row
stand for one. -/
def parseFrom (literal : List Char) : (inBraces : Option (List Char)) → List Char → Template
  | none, '\x7b' :: '\x7b' :: cs => parseFrom ('\x7b' :: literal) none cs
  | none, '\x7d' :: '\x7d' :: cs => parseFrom ('\x7d' :: literal) none cs
  | none, '\x7b' :: cs =>
    .literal (Utf8.encode (String.ofList literal.reverse)) :: parseFrom [] (some []) cs
  | none, c :: cs => parseFrom (c :: literal) none cs
  | none, [] => [.literal (Utf8.encode (String.ofList literal.reverse))]
  | some name, '\x7d' :: cs => ofBraces name.reverse :: parseFrom [] none cs
  | some name, c :: cs => parseFrom [] (some (c :: name)) cs
  | some name, [] => [ofBraces name.reverse]

/-- Reads a template, whose parameters stand between braces. -/
def parse (s : String) : Template := parseFrom [] none s.toList

end Template

end Gatehouse.Web
