import Gatehouse.Crypto.Sha256

/-! Message authentication with SHA-256: the keyed hash HMAC-SHA256. -/

namespace Gatehouse.Crypto.Hmac

def blockSize : Nat := 64

/-- The key filled up to a block; a longer key is hashed first. -/
def blockKey (key : List UInt8) : List UInt8 :=
  let key := if blockSize < key.length then Sha256.hash key else key
  key ++ List.replicate (blockSize - key.length) 0

/-- The authentication code of a message under a key. -/
def sha256 (key message : List UInt8) : List UInt8 :=
  let key := blockKey key
  Sha256.hash (key.map (· ^^^ 0x5C) ++ Sha256.hash (key.map (· ^^^ 0x36) ++ message))

end Gatehouse.Crypto.Hmac
