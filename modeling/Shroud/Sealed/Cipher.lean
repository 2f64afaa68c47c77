import Shroud.Sealed.Basic
import Shroud.Crypt.Hmac
import Shroud.Text.Utf8
import Shroud.Outline.Walk

/-!
# Ciphers for fields

A `Cipher` encrypts and decrypts texts under a key that is a text too.  `fieldCipher` is the one
that is used unless another is given: the key is stretched to 256 bits, each encryption takes a
fresh nonce from a supply, and the result is the text of a `Sealed` field.

Decryption first looks at the form of the text, then at the key, then at the tag, and at last at
whether the plaintext is text.
-/

set_option autoImplicit false

namespace Shroud

/-- Why a cipher refused. -/
inductive CipherError where
  | invalidKey
  | aead
  | invalidFormat
  | invalidUtf8
  deriving DecidableEq

/-- The refusal in words. -/
def CipherError.message : CipherError → String
  | invalidKey => "encryption key must not be empty"
  | aead => "aead operation failed"
  | invalidFormat => "invalid encrypted field format"
  | invalidUtf8 => "decrypted field is not valid UTF-8"

/-- A cipher for texts, with a state of type `σ`. -/
structure Cipher (σ : Type) where
  encrypt : Leaf σ CipherError
  decrypt : Leaf σ CipherError

/-- A supply of nonces: the one for each encryption, and the number of those already taken. -/
structure Nonces where
  nonce : Nat → GcmSiv.Nonce
  taken : Nat

/-- The next nonce, and the supply without it. -/
def Nonces.next (s : Nonces) : GcmSiv.Nonce × Nonces := (s.nonce s.taken, ⟨s.nonce, s.taken + 1⟩)

namespace Sealed

/-- The message from which the key of the cipher is made. -/
def keyLabel : Bytes := Text.utf8 "fieldcloak/field-key/v1"

/-- The key of the cipher that belongs to a text. -/
def cipherKey (key : String) : Bytes := Hmac.code (Text.utf8 key) keyLabel

/-- Bytes encrypted under a key that is not empty. -/
def enclose (key : String) (nonce : GcmSiv.Nonce) (plain : Bytes) : Sealed :=
  ⟨nonce, GcmSiv.encrypt (cipherKey key) nonce plain⟩

/-- The bytes of an encrypted field. -/
def disclose (key : String) (x : Sealed) : Except CipherError Bytes :=
  if key.isEmpty then .error .invalidKey
  else match GcmSiv.decrypt? (cipherKey key) x.nonce x.payload with
    | some plain => .ok plain
    | none => .error .aead

/-- Bytes encrypted under a key, with a nonce from the supply. -/
def encryptBytes (plain : Bytes) (key : String) : EStateM CipherError Nonces Sealed := do
  if key.isEmpty then throw .invalidKey
  else
    let nonce ← modifyGet Nonces.next
    return enclose key nonce plain

/-- The text of an encrypted field, given in its text form. -/
def decryptText (text key : String) : Except CipherError String := do
  match parse? text with
  | none => .error .invalidFormat
  | some x =>
    match Text.ofUtf8? (← disclose key x) with
    | some s => .ok s
    | none => .error .invalidUtf8

end Sealed

/-- The cipher that is used unless another is given. -/
def fieldCipher : Cipher Nonces where
  encrypt text key := return (← Sealed.encryptBytes (Text.utf8 text) key).text
  decrypt text key := fun s ↦
    match Sealed.decryptText text key with
    | .ok t => .ok t s
    | .error e => .error e s

end Shroud
