import Gatehouse.Text.Split
import Gatehouse.Text.Utf8
import Gatehouse.Web.Percent

/-! The form encoding of query strings.  Pairs stand between ampersands, a key ends at the first
equals sign, a plus sign is a space, and what the escapes decode to is read as UTF-8 with U+FFFD in
place of what cannot be read. -/

namespace Gatehouse.Web.Form

open Text

/-- One key or value. -/
def decodeField (bytes : List UInt8) : String :=
  Utf8.decodeLossy (Percent.decode (bytes.map fun b => if b == 0x2B then 0x20 else b))

/-- One pair; without an equals sign the value is empty. -/
def decodePair (bytes : List UInt8) : String × String :=
  let (key, value) := cutAt (· == 0x3D) bytes
  (decodeField key, decodeField (value.getD []))

def decode (query : List UInt8) : List (String × String) :=
  ((pieces (· == 0x26) query).filter (!·.isEmpty)).map decodePair

end Gatehouse.Web.Form
