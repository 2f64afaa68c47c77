import Shroud.Sealed.Basic
import Shroud.Proofs.Text.Base64Url

/-!
# One text for each encrypted field

A text is read as an encrypted field exactly if it is the text of that field (`parse?_eq_some`).
Since the digits of base 64 and the version have no dot, the two dots of a text are found where they
were put; and since base 64 has one spelling for each byte string, nothing else is read as the same
field.
-/

set_option autoImplicit false

namespace Shroud

namespace GcmSiv

theorem Nonce.ofBytes?_bytes (n : Nonce) : ofBytes? n.bytes = some n := dif_pos n.size_eq

theorem Nonce.bytes_of_ofBytes? {b : Bytes} {n : Nonce} (h : ofBytes? b = some n) :
    n.bytes = b := by
  rw [ofBytes?] at h
  split at h
  · obtain rfl := Option.some.inj h
    rfl
  · cases h

end GcmSiv

namespace Sealed

/-! ## Dots -/

theorem splitDot?_append {front : List Char} (h : '.' ∉ front) (rest : List Char) :
    splitDot? (front ++ '.' :: rest) = some (front, rest) := by
  induction front with
  | nil => rfl
  | cons c front ih =>
    have hc : '.' ≠ c := List.ne_of_not_mem_cons h
    have hfront : '.' ∉ front := List.not_mem_of_not_mem_cons h
    rw [List.cons_append, splitDot?, if_neg hc.symm, ih hfront]
    rfl

theorem eq_of_splitDot? {cs front rest : List Char} (h : splitDot? cs = some (front, rest)) :
    cs = front ++ '.' :: rest := by
  induction cs generalizing front with
  | nil => cases h
  | cons c cs ih =>
    rw [splitDot?] at h
    split at h
    case isTrue hc =>
      obtain ⟨rfl, rfl⟩ := Prod.mk.inj (Option.some.inj h)
      rw [hc, List.nil_append]
    case isFalse hc =>
      obtain ⟨⟨front', rest'⟩, hsplit, heq⟩ := Option.map_eq_some_iff.mp h
      obtain ⟨rfl, rfl⟩ := Prod.mk.inj heq
      rw [ih hsplit, List.cons_append]

/-! ## Texts -/

theorem ofChars?_chars (x : Sealed) : ofChars? x.chars = some x := by
  have hversion : '.' ∉ version := by decide
  have hnonce := Text.Base64Url.dot_not_mem_encode x.nonce.bytes
  rw [ofChars?, chars, splitDot?_append hversion]
  simp only [Option.bind_eq_bind, Option.bind_some, splitDot?_append hnonce, if_pos,
    Text.Base64Url.decode?_encode, GcmSiv.Nonce.ofBytes?_bytes]
  rfl

theorem chars_of_ofChars? {cs : List Char} {x : Sealed} (h : ofChars? cs = some x) :
    x.chars = cs := by
  simp only [ofChars?, Option.bind_eq_bind, Option.bind_eq_some_iff] at h
  obtain ⟨⟨front, rest⟩, hfront, ⟨middle, back⟩, hmiddle, h⟩ := h
  split at h
  case isFalse => cases h
  case isTrue hversion =>
    simp only [Option.bind_eq_some_iff] at h
    obtain ⟨b, hb, nonce, hnonce, payload, hpayload, h⟩ := h
    obtain rfl := Option.some.inj h
    rw [chars, GcmSiv.Nonce.bytes_of_ofBytes? hnonce, Text.Base64Url.encode_of_decode? hb,
      Text.Base64Url.encode_of_decode? hpayload, ← hversion, ← eq_of_splitDot? hmiddle,
      ← eq_of_splitDot? hfront]

/-- **A text is read as an encrypted field exactly if it is the text of it.** -/
theorem parse?_eq_some {s : String} {x : Sealed} : parse? s = some x ↔ s = x.text := by
  constructor
  · intro h
    rw [text, chars_of_ofChars? h, String.ofList_toList]
  · rintro rfl
    rw [parse?, text, String.toList_ofList, ofChars?_chars]

theorem parse?_text (x : Sealed) : parse? x.text = some x := parse?_eq_some.mpr rfl

theorem length_text_le (x : Sealed) : x.text.toList.length ≤ 28 + 2 * x.payload.length := by
  have hnonce := Text.Base64Url.length_encode_le x.nonce.bytes
  have hpayload := Text.Base64Url.length_encode_le x.payload
  have hversion : version.length = 2 := rfl
  have hsize : GcmSiv.nonceSize = 12 := rfl
  rw [x.nonce.size_eq] at hnonce
  rw [text, String.toList_ofList, chars]
  simp only [List.length_append, List.length_cons]
  omega

/-- Different fields have different texts. -/
theorem text_inj {x y : Sealed} : x.text = y.text ↔ x = y := by
  refine ⟨fun h ↦ ?_, fun h ↦ h ▸ rfl⟩
  have hparse := parse?_text x
  rw [h, parse?_text] at hparse
  exact (Option.some.inj hparse).symm

theorem parse?_eq_none {s : String} : parse? s = none ↔ ∀ x : Sealed, s ≠ x.text := by
  rw [Option.eq_none_iff_forall_ne_some]
  exact forall_congr' fun x ↦ not_congr parse?_eq_some

end Sealed

end Shroud
