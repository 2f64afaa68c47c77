import Shroud.Crypt.Bytes

/-!
# Texts as bytes

UTF-8, in both directions.  Bytes that are not the encoding of a text have no text; but they can
still be read glyph by glyph, each byte that belongs to no character being marked.
-/

set_option autoImplicit false

namespace Shroud.Text

/-- The bytes of a text. -/
def utf8 (s : String) : Bytes := s.toUTF8.data.toList

/-- The text of bytes, if they are the encoding of one. -/
def ofUtf8? (b : Bytes) : Option String := String.fromUTF8? ⟨b.toArray⟩

theorem ofUtf8?_utf8 (s : String) : ofUtf8? (utf8 s) = some s := by
  simp [ofUtf8?, utf8, String.fromUTF8?, s.isValidUTF8, String.fromUTF8, String.toUTF8]

/-- Bytes that have a text are its encoding. -/
theorem utf8_of_ofUtf8? {b : Bytes} {s : String} (h : ofUtf8? b = some s) : utf8 s = b := by
  rw [ofUtf8?, String.fromUTF8?] at h
  split at h
  · obtain rfl := Option.some.inj h
    simp [utf8, String.fromUTF8, String.toUTF8]
  · cases h

/-- Characters and stray bytes from an index on, put behind those in `acc`, which are in reverse. -/
def glyphsFrom (b : ByteArray) (i : Nat) (acc : List (Option Char)) : List (Option Char) :=
  if _h : i < b.size then
    match b.utf8DecodeChar? i with
    | some c => glyphsFrom b (i + c.utf8Size) (some c :: acc)
    | none => glyphsFrom b (i + 1) (none :: acc)
  else acc.reverse
termination_by b.size - i
decreasing_by
  · have := c.utf8Size_pos
    omega
  · omega

/-- Bytes as characters and, marked by `none`, stray bytes. -/
def glyphs (b : Bytes) : List (Option Char) := glyphsFrom ⟨b.toArray⟩ 0 []

end Shroud.Text
