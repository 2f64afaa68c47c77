import Shroud.Sealed.Cipher

/-!
# Concealers

A concealer joins a cipher with the marker of the fields that it is for.  It encrypts or decrypts
the marked texts of a value in one walk.  With an empty key it returns the value as it is, in either
direction.
-/

set_option autoImplicit false

namespace Shroud

/-- What is done to the marked texts. -/
inductive Direction where
  | encrypt
  | decrypt
  deriving DecidableEq

/-- The name of a direction. -/
def Direction.text : Direction → String
  | encrypt => "encrypt"
  | decrypt => "decrypt"

/-- A cipher and the marker of the fields that it is for. -/
structure Concealer (σ : Type) where
  cipher : Cipher σ
  marker : Marker

namespace Concealer

variable {σ : Type}

/-- A concealer with the standard marker. -/
def ofCipher (c : Cipher σ) : Concealer σ := ⟨c, .standard⟩

/-- The concealer that is used unless another is given. -/
def standard : Concealer Nonces := ofCipher fieldCipher

/-- What is done to one text. -/
def leaf (c : Concealer σ) : Direction → Leaf σ CipherError
  | .encrypt => c.cipher.encrypt
  | .decrypt => c.cipher.decrypt

/-- A copy of a value with the marked texts encrypted or decrypted. -/
def apply {α : Type} [HasRoot α] (c : Concealer σ) (d : Direction) (x : α) (key : String) :
    EStateM (Failure CipherError) σ α :=
  transform ⟨key, c.marker, c.leaf d⟩ x

/-- A copy of a value with the marked texts encrypted. -/
def encrypt {α : Type} [HasRoot α] (c : Concealer σ) (x : α) (key : String) :
    EStateM (Failure CipherError) σ α :=
  c.apply .encrypt x key

/-- A copy of a value with the marked texts decrypted. -/
def decrypt {α : Type} [HasRoot α] (c : Concealer σ) (x : α) (key : String) :
    EStateM (Failure CipherError) σ α :=
  c.apply .decrypt x key

end Concealer

end Shroud
