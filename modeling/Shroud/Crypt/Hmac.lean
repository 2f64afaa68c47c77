import Shroud.Crypt.Sha256

/-!
# HMAC-SHA256

The keyed hash of RFC 2104.  A key of at most 64 bytes is filled with zeros up to one block of the
hash, a longer one is hashed first; so two keys have the same code for every message as soon as
their blocks agree.
-/

set_option autoImplicit false

namespace Shroud.Hmac

/-- The key as one block of 64 bytes. -/
def keyBlock (key : Bytes) : Bytes :=
  let short := if key.length ≤ 64 then key else Sha256.hash key
  short ++ List.replicate (64 - short.length) 0

/-- The authentication code of a message. -/
def code (key message : Bytes) : Bytes :=
  let block := keyBlock key
  let inner := Sha256.hash (block.map (· ^^^ 0x36) ++ message)
  Sha256.hash (block.map (· ^^^ 0x5c) ++ inner)

end Shroud.Hmac
