import Shroud.Text.Utf8

/-!
# The glyphs of a text

A body is read glyph by glyph.  When the bytes are the encoding of a text, the glyphs are the
characters of the text, and no byte is stray.
-/

set_option autoImplicit false

namespace Shroud.Text

/-- The glyphs of a text that stands behind other bytes. -/
theorem glyphsFrom_utf8Encode (cs : List Char) (front : ByteArray) (acc : List (Option Char)) :
    glyphsFrom (front ++ cs.utf8Encode) front.size acc = acc.reverse ++ cs.map some := by
  induction cs generalizing front acc with
  | nil =>
    rw [glyphsFrom, dif_neg (by simp), List.map_nil, List.append_nil]
  | cons c cs ih =>
    have hlt : front.size < (front ++ (c :: cs).utf8Encode).size := by
      have hpos := c.utf8Size_pos
      rw [List.utf8Encode_cons]
      simp only [ByteArray.size_append, List.utf8Encode_singleton, List.size_toByteArray,
        String.length_utf8EncodeChar]
      omega
    have hrest : (front ++ (c :: cs).utf8Encode).extract front.size
        (front ++ (c :: cs).utf8Encode).size = (c :: cs).utf8Encode :=
      ByteArray.extract_append_eq_right rfl (by rw [ByteArray.size_append])
    have hchar : (front ++ (c :: cs).utf8Encode).utf8DecodeChar? front.size = some c := by
      rw [ByteArray.utf8DecodeChar?_eq_utf8DecodeChar?_extract, hrest,
        List.utf8DecodeChar?_utf8Encode_cons]
    have hsplit : front ++ (c :: cs).utf8Encode = front ++ [c].utf8Encode ++ cs.utf8Encode := by
      rw [List.utf8Encode_cons, ByteArray.append_assoc]
    have hsize : front.size + c.utf8Size = (front ++ [c].utf8Encode).size := by
      rw [ByteArray.size_append, List.utf8Encode_singleton, List.size_toByteArray,
        String.length_utf8EncodeChar]
    rw [glyphsFrom, dif_pos hlt, hchar]
    simp only
    rw [hsize, hsplit, ih (front ++ [c].utf8Encode) (some c :: acc), List.reverse_cons,
      List.append_assoc, List.map_cons, List.singleton_append]

/-- **A text is read as its characters.** -/
theorem glyphs_utf8 (s : String) : glyphs (utf8 s) = s.toList.map some := by
  have h := glyphsFrom_utf8Encode s.toList ByteArray.empty []
  rw [ByteArray.empty_append, String.utf8Encode_toList] at h
  exact h

theorem length_utf8_le (s : String) : (utf8 s).length ≤ 4 * s.toList.length := by
  have hsize (cs : List Char) : cs.utf8Encode.size ≤ 4 * cs.length := by
    induction cs with
    | nil => exact Nat.le_refl _
    | cons c cs ih =>
      have hc := c.utf8Size_le_four
      rw [List.utf8Encode_cons, ByteArray.size_append, List.utf8Encode_singleton,
        List.size_toByteArray, String.length_utf8EncodeChar, List.length_cons]
      omega
  have h := hsize s.toList
  rw [String.utf8Encode_toList] at h
  exact h

theorem length_le_length_utf8 (s : String) : s.toList.length ≤ (utf8 s).length := by
  have hsize (cs : List Char) : cs.length ≤ cs.utf8Encode.size := by
    induction cs with
    | nil => exact Nat.le_refl _
    | cons c cs ih =>
      have hc := c.utf8Size_pos
      rw [List.utf8Encode_cons, ByteArray.size_append, List.utf8Encode_singleton,
        List.size_toByteArray, String.length_utf8EncodeChar, List.length_cons]
      omega
  have h := hsize s.toList
  rw [String.utf8Encode_toList] at h
  exact h

theorem utf8_append (s t : String) : utf8 (s ++ t) = utf8 s ++ utf8 t := by
  simp [utf8, String.toUTF8]

/-- Different texts have different bytes. -/
theorem utf8_inj {s t : String} : utf8 s = utf8 t ↔ s = t := by
  refine ⟨fun h ↦ ?_, fun h ↦ h ▸ rfl⟩
  have ht := ofUtf8?_utf8 t
  rw [← h, ofUtf8?_utf8] at ht
  exact Option.some.inj ht

end Shroud.Text
