import Shroud.Crypt.GcmSiv
import Shroud.Text.Base64Url

/-!
# Sealed texts

The text form of an encrypted field: a version, the nonce, and the ciphertext with its tag,
separated by dots.  The two latter are in base 64.  A text has at most one reading, and what is read
is written back as the same text.
-/

set_option autoImplicit false

namespace Shroud

/-- An encrypted field. -/
structure Sealed where
  nonce : GcmSiv.Nonce
  /-- The ciphertext followed by its tag. -/
  payload : Bytes
  deriving DecidableEq

namespace Sealed

/-- The version of the text form. -/
def version : List Char := ['v', '1']

/-- The text of an encrypted field, as characters. -/
def chars (x : Sealed) : List Char :=
  version ++ '.' :: (Text.Base64Url.encode x.nonce.bytes ++ '.' :: Text.Base64Url.encode x.payload)

/-- The text of an encrypted field. -/
def text (x : Sealed) : String := String.ofList x.chars

/-- What stands before the first dot and what stands after it. -/
def splitDot? : List Char → Option (List Char × List Char)
  | [] => none
  | c :: rest =>
    if c = '.' then some ([], rest)
    else (splitDot? rest).map fun p ↦ (c :: p.1, p.2)

/-- The encrypted field of a text, given as characters. -/
def ofChars? (cs : List Char) : Option Sealed := do
  let (front, rest) ← splitDot? cs
  let (middle, back) ← splitDot? rest
  if front = version then
    let nonce ← GcmSiv.Nonce.ofBytes? (← Text.Base64Url.decode? middle)
    let payload ← Text.Base64Url.decode? back
    return ⟨nonce, payload⟩
  else none

/-- The encrypted field of a text. -/
def parse? (s : String) : Option Sealed := ofChars? s.toList

end Sealed

end Shroud
