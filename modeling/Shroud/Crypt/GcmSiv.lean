import Shroud.Crypt.Aes256
import Shroud.Crypt.Polyval

/-!
# AES-256-GCM-SIV

The authenticated cipher of RFC 8452, with empty associated data.  From the key and the nonce come
an authentication key and an encryption key.  The tag is a function of the plaintext, and it also
starts the counter of the keystream; so decryption first undoes the keystream and then
makes the tag again, and the two agree only on what encryption produces.
-/

set_option autoImplicit false

namespace Shroud.GcmSiv

/-- The size of a nonce in bytes. -/
def nonceSize : Nat := 12

/-- A nonce: twelve bytes. -/
structure Nonce where
  bytes : Bytes
  size_eq : bytes.length = nonceSize
  deriving DecidableEq

/-- The nonce of zeros. -/
def Nonce.zero : Nonce := ⟨List.replicate 12 0, rfl⟩

/-- Twelve bytes as a nonce. -/
def Nonce.ofBytes? (b : Bytes) : Option Nonce :=
  if h : b.length = nonceSize then some ⟨b, h⟩ else none

/-- The size of a tag in bytes. -/
def tagSize : Nat := 16

/-- What one message is protected with. -/
structure MessageKeys where
  /-- The key of the hash. -/
  authentication : Polyval.Element
  /-- The round keys of the block cipher. -/
  encryption : List Aes256.Block

/-- Eight bytes of key material: half of the encryption of a counter and the nonce. -/
def keyMaterial (keys : List Aes256.Block) (nonce : Nonce) (counter : Nat) : Bytes :=
  (Aes256.encrypt keys (Bytes.ofNatLE 4 counter ++ nonce.bytes)).take 8

/-- The keys of one message. -/
def MessageKeys.derive (key : Bytes) (nonce : Nonce) : MessageKeys :=
  let keys := Aes256.roundKeys key
  let part := keyMaterial keys nonce
  ⟨Polyval.ofBlock (part 0 ++ part 1), Aes256.roundKeys (part 2 ++ part 3 ++ part 4 ++ part 5)⟩

/-- The hashed form of a plaintext: whole blocks, then the two lengths in bits. -/
def hashInput (plain : Bytes) : Bytes :=
  Bytes.padTo 16 plain ++ Bytes.ofNatLE 8 0 ++ Bytes.ofNatLE 8 (8 * plain.length)

/-- The last byte changed by `f`. -/
def mapLast (f : UInt8 → UInt8) : Bytes → Bytes
  | [] => []
  | [b] => [f b]
  | b :: rest => b :: mapLast f rest

/-- The tag of a plaintext. -/
def tag (k : MessageKeys) (nonce : Nonce) (plain : Bytes) : Bytes :=
  let s := Polyval.toBlock (Polyval.hash k.authentication (hashInput plain))
  let mixed := Bytes.xor (s.take 12) nonce.bytes ++ s.drop 12
  Aes256.encrypt k.encryption (mapLast (· &&& 0x7f) mixed)

/-- `n` blocks of keystream from a counter on; the counter is a number of 32 bits that wraps, in
front of twelve bytes that stay. -/
def keystreamBlocks (keys : List Aes256.Block) (tail : Bytes) : Nat → Nat → Bytes
  | 0, _ => []
  | n + 1, counter =>
    Aes256.encrypt keys (Bytes.ofNatLE 4 counter ++ tail) ++
      keystreamBlocks keys tail n (counter + 1)

/-- At least `n` bytes of the keystream that a tag starts. -/
def keystream (k : MessageKeys) (tag : Bytes) (n : Nat) : Bytes :=
  let start := mapLast (· ||| 0x80) tag
  keystreamBlocks k.encryption (start.drop 4) ((n + 15) / 16) (Bytes.toNatLE (start.take 4))

/-- A text combined with the keystream of a tag; done twice, it is the text again. -/
def applyKeystream (k : MessageKeys) (tag text : Bytes) : Bytes :=
  Bytes.xor text (keystream k tag text.length)

/-- The ciphertext followed by the tag. -/
def encrypt (key : Bytes) (nonce : Nonce) (plain : Bytes) : Bytes :=
  let k := MessageKeys.derive key nonce
  let t := tag k nonce plain
  applyKeystream k t plain ++ t

/-- The plaintext of a ciphertext, if its tag is the right one. -/
def decrypt? (key : Bytes) (nonce : Nonce) (cipher : Bytes) : Option Bytes :=
  if cipher.length < tagSize then none
  else
    let k := MessageKeys.derive key nonce
    let t := cipher.drop (cipher.length - tagSize)
    let plain := applyKeystream k t (cipher.take (cipher.length - tagSize))
    if tag k nonce plain = t then some plain else none

end Shroud.GcmSiv
