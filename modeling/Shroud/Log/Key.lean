import Shroud.Log.Line

/-!
# The key of the log

One key serves the whole process.  It is installed once; later attempts change nothing.  Until then,
and with an empty key, values pass unchanged and have no obscured lines.
-/

set_option autoImplicit false

namespace Shroud

/-- A key for the log.  It does not show in diagnostics. -/
structure LogKey where
  text : String
  deriving DecidableEq

namespace LogKey

/-- The key is the empty text, which stands for no key. -/
def isEmpty (k : LogKey) : Bool := k.text.isEmpty

/-- What a diagnostic shows of a key. -/
def diagnostic (_ : LogKey) : String := "LogKey([REDACTED])"

end LogKey

/-- The place of the key: empty, or taken for good. -/
structure KeySlot where
  key : Option LogKey
  deriving DecidableEq

namespace KeySlot

/-- The place without a key. -/
def vacant : KeySlot := ⟨none⟩

/-- An attempt to install a key: whether it was the first, and the place afterwards. -/
def install (slot : KeySlot) (key : String) : Bool × KeySlot :=
  match slot.key with
  | none => (true, ⟨some ⟨key⟩⟩)
  | some _ => (false, slot)

/-- The text of the key, which is empty when there is none. -/
def current (slot : KeySlot) : String :=
  match slot.key with
  | some k => k.text
  | none => ""

variable {α : Type} (slot : KeySlot)

/-- A value with its marked texts encrypted under the key of the log. -/
def encrypt [HasRoot α] (x : α) : EStateM (Failure CipherError) Nonces α :=
  Concealer.standard.encrypt x slot.current

/-- A value with its marked texts decrypted under the key of the log. -/
def decrypt [HasRoot α] (x : α) : EStateM (Failure CipherError) Nonces α :=
  Concealer.standard.decrypt x slot.current

/-- A text encrypted under the key of the log. -/
def encryptText (s : String) : EStateM CipherError Nonces String :=
  if slot.current.isEmpty then return s else fieldCipher.encrypt s slot.current

/-- The obscured line of a value. -/
def obscured [HasRoot α] [HasDocument α] (x : α) : StateM Nonces Obscured :=
  Concealer.standard.obscured x slot.current

/-- The obscured line of data of a type known only at run time. -/
def obscuredErased (x : Erased) : StateM Nonces Obscured :=
  Concealer.standard.obscuredErased x slot.current

end KeySlot

end Shroud
