/-! JSON values and their compact text.  A record keeps its members in the order in which they are
to be written. -/

namespace Gatehouse

/-- A JSON value whose numbers are integers. -/
inductive Json where
  | null
  | bool (b : Bool)
  | int (n : Int)
  | text (s : String)
  | list (items : List Json)
  | record (members : List (String × Json))
  deriving Inhabited

namespace Json

/-- A hexadecimal digit in lower case. -/
def hexDigit (n : Nat) : Char := Char.ofNat (if n < 10 then 48 + n else 87 + n)

/-- A character as it stands in a JSON text: quote, backslash and control characters are escaped,
and every other character stands for itself. -/
def escape : Char → List Char
  | '"' => ['\\', '"']
  | '\\' => ['\\', '\\']
  | '\x08' => ['\\', 'b']
  | '\t' => ['\\', 't']
  | '\n' => ['\\', 'n']
  | '\x0c' => ['\\', 'f']
  | '\r' => ['\\', 'r']
  | c =>
    if c.toNat < 32 then
      ['\\', 'u', '0', '0', hexDigit (c.toNat / 16), hexDigit (c.toNat % 16)]
    else [c]

def quote (s : String) : String := String.ofList ('"' :: s.toList.flatMap escape ++ ['"'])

mutual

/-- Writes a value after what has been written. -/
def write (out : String) : Json → String
  | .null => out ++ "null"
  | .bool true => out ++ "true"
  | .bool false => out ++ "false"
  | .int n => out ++ toString n
  | .text s => out ++ quote s
  | .list [] => out ++ "[]"
  | .list (item :: items) => writeItems (write (out ++ "[") item) items ++ "]"
  | .record [] => out ++ "\x7b\x7d"
  | .record ((key, value) :: members) =>
    writeMembers (write (out ++ "\x7b" ++ quote key ++ ":") value) members ++ "\x7d"

/-- Writes the items after the first one. -/
def writeItems (out : String) : List Json → String
  | [] => out
  | item :: items => writeItems (write (out ++ ",") item) items

/-- Writes the members after the first one. -/
def writeMembers (out : String) : List (String × Json) → String
  | [] => out
  | (key, value) :: members =>
    writeMembers (write (out ++ "," ++ quote key ++ ":") value) members

end

/-- The text of a value, without any blank between its parts. -/
def compact (j : Json) : String := write "" j

def texts (items : List String) : Json := .list (items.map .text)

end Json

end Gatehouse
