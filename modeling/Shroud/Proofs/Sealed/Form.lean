import Mathlib.Tactic.ByContra
import Shroud.Proofs.Sealed.Cipher
import Shroud.Proofs.Text.Spelling

/-!
# The form of sealed texts

Which texts are those of encrypted fields, said without the reader: the version, sixteen characters
of the alphabet, and the spelling of some bytes, with a dot before and after the sixteen.  What is
written is read back, what is read is written as it was, and everything that has not this form is
refused (`parse?_exact`).

A text that is refused has a `Flaw`, and the flaws are complete: a text without any of them has the
form (`hasForm_of_not_flaw`).  The parts that the first dot divides are the only ones
(`eq_of_append_dot`), so a flaw of one part is a flaw of the text.
-/

set_option autoImplicit false

namespace Shroud.Sealed

open Text.Base64Url (alphabet encode IsSpelling)

/-! ## The form -/

/-- The text has the form of an encrypted field. -/
def HasForm (s : String) : Prop :=
  ∃ (m : List Char) (b : Bytes), m.length = 16 ∧ (∀ c ∈ m, c ∈ alphabet) ∧
    s.toList = "v1.".toList ++ m ++ '.' :: encode b

theorem toList_text (x : Sealed) :
    x.text.toList = "v1.".toList ++ encode x.nonce.bytes ++ '.' :: encode x.payload := by
  rw [text, String.toList_ofList]
  rfl

/-- **Exactly the texts of this form are read.** -/
theorem isSome_parse?_iff {s : String} : (parse? s).isSome ↔ HasForm s := by
  rw [Option.isSome_iff_exists]
  constructor
  · rintro ⟨x, hx⟩
    rw [parse?_eq_some.mp hx]
    have hnonce := Text.Base64Url.exists_encode_of_twelve_iff.mp ⟨_, x.nonce.size_eq, rfl⟩
    exact ⟨encode x.nonce.bytes, x.payload, hnonce.1, hnonce.2, x.toList_text⟩
  · rintro ⟨m, b, hlength, hletters, hs⟩
    obtain ⟨nonce, hnonce, rfl⟩ :=
      Text.Base64Url.exists_encode_of_twelve_iff.mpr ⟨hlength, hletters⟩
    refine ⟨⟨⟨nonce, hnonce⟩, b⟩, parse?_eq_some.mpr ?_⟩
    rw [← String.toList_inj, hs, toList_text]

/-! ## Flaws -/

/-- What is wrong with a text that is not the text of an encrypted field. -/
inductive Flaw (s : String) : Prop where
  /-- A part is missing, or there is one too many. -/
  | parts (h : s.toList.count '.' ≠ 2)
  /-- The version is another one. -/
  | version (h : ¬ "v1.".toList <+: s.toList)
  /-- There is a character that is neither in the alphabet nor a dot. -/
  | letter {c : Char} (hc : c ∈ s.toList) (hdot : c ≠ '.') (h : c ∉ alphabet)
  /-- The nonce has not sixteen characters. -/
  | nonce {m p : List Char} (hs : s.toList = "v1.".toList ++ m ++ '.' :: p) (hm : '.' ∉ m)
      (h : m.length ≠ 16)
  /-- The ciphertext is no spelling. -/
  | payload {m p : List Char} (hs : s.toList = "v1.".toList ++ m ++ '.' :: p) (hm : '.' ∉ m)
      (h : ¬ IsSpelling p)

theorem dot_not_mem_alphabet : '.' ∉ alphabet := by decide

/-- Parts that are divided by the first dot are the only ones. -/
theorem eq_of_append_dot {m m' p p' : List Char} (hm : '.' ∉ m) (hm' : '.' ∉ m')
    (h : m ++ '.' :: p = m' ++ '.' :: p') : m = m' ∧ p = p' := by
  have hsplit := splitDot?_append hm p
  rw [h, splitDot?_append hm' p'] at hsplit
  obtain ⟨rfl, rfl⟩ := Prod.mk.inj (Option.some.inj hsplit)
  exact ⟨rfl, rfl⟩

theorem HasForm.letters {s : String} (h : HasForm s) {c : Char} (hc : c ∈ s.toList) :
    c = '.' ∨ c ∈ alphabet := by
  obtain ⟨m, b, -, hletters, hs⟩ := h
  have hversion : ∀ d ∈ "v1.".toList, d = '.' ∨ d ∈ alphabet := by
    have hall : ("v1.".toList.all fun d ↦ d == '.' || alphabet.contains d) = true := by decide
    simpa using hall
  rw [hs, List.append_assoc, List.mem_append, List.mem_append, List.mem_cons] at hc
  rcases hc with hc | hc | hc | hc
  · exact hversion c hc
  · exact .inr (hletters c hc)
  · exact .inl hc
  · exact .inr ((Text.Base64Url.isSpelling_encode b).letters c hc)

/-- A text with a flaw has not the form. -/
theorem Flaw.not_hasForm {s : String} (h : Flaw s) : ¬ HasForm s := by
  intro hform
  obtain ⟨m', b, hlength, hletters, hs'⟩ := id hform
  have hm' : '.' ∉ m' := fun hdot ↦ dot_not_mem_alphabet (hletters _ hdot)
  -- The version in front is taken off, and what is left has only one division.
  have hparts : ∀ {m p : List Char}, s.toList = "v1.".toList ++ m ++ '.' :: p → '.' ∉ m →
      m' = m ∧ encode b = p := by
    intro m p hs hm
    rw [hs', List.append_assoc, List.append_assoc] at hs
    exact eq_of_append_dot hm' hm (List.append_cancel_left hs)
  cases h with
  | parts h =>
    refine h ?_
    rw [hs', List.count_append, List.count_append, List.count_cons_self,
      List.count_eq_zero_of_not_mem hm',
      List.count_eq_zero_of_not_mem (Text.Base64Url.dot_not_mem_encode b)]
    decide
  | version h =>
    refine h ?_
    rw [hs', List.append_assoc]
    exact List.prefix_append _ _
  | letter hc hdot h =>
    rcases hform.letters hc with heq | hmem
    · exact hdot heq
    · exact h hmem
  | nonce hs hm h =>
    obtain ⟨rfl, -⟩ := hparts hs hm
    exact h hlength
  | payload hs hm h =>
    obtain ⟨-, rfl⟩ := hparts hs hm
    exact h (Text.Base64Url.isSpelling_encode b)

/-- A text without flaws has the form. -/
theorem hasForm_of_not_flaw {s : String} (h : ¬ Flaw s) : HasForm s := by
  have hversion : "v1.".toList <+: s.toList := by
    by_contra hversion
    exact h (.version hversion)
  have hcount : s.toList.count '.' = 2 := by
    by_contra hcount
    exact h (.parts hcount)
  obtain ⟨rest, hrest⟩ := hversion
  have hdot : '.' ∈ rest := by
    have hone : "v1.".toList.count '.' = 1 := by decide
    rw [← hrest, List.count_append, hone] at hcount
    rw [← List.count_pos_iff]
    omega
  obtain ⟨m, p, rfl, hm⟩ := List.eq_append_cons_of_mem hdot
  have hs : s.toList = "v1.".toList ++ m ++ '.' :: p := by rw [← hrest, List.append_assoc]
  have hlength : m.length = 16 := by
    by_contra hlength
    exact h (.nonce hs hm hlength)
  have hspelling : IsSpelling p := by
    by_contra hspelling
    exact h (.payload hs hm hspelling)
  obtain ⟨b, rfl⟩ := Text.Base64Url.exists_encode_iff.mpr hspelling
  refine ⟨m, b, hlength, fun c hc ↦ ?_, hs⟩
  by_contra hletter
  have hmem : c ∈ s.toList := by
    rw [hs]
    exact List.mem_append_left _ (List.mem_append_right _ hc)
  have hne : c ≠ '.' := by
    rintro rfl
    exact hm hc
  exact h (.letter hmem hne hletter)

/-- **A text that is refused has a flaw**, and a text with a flaw is refused. -/
theorem parse?_eq_none_iff_flaw {s : String} : parse? s = none ↔ Flaw s := by
  rw [← Option.not_isSome_iff_eq_none, isSome_parse?_iff]
  refine ⟨fun h ↦ ?_, Flaw.not_hasForm⟩
  by_contra hflaw
  exact h (hasForm_of_not_flaw hflaw)

/-- Decryption refuses the form of a text exactly if it has a flaw, under any key. -/
theorem decrypt_eq_invalidFormat_iff {s key : String} {n : Nonces} :
    fieldCipher.decrypt s key n = .error .invalidFormat n ↔ Flaw s := by
  rw [decrypt_eq_error_iff, ← parse?_eq_none_iff_flaw, parse?_eq_none]
  refine ⟨fun h ↦ ?_, .invalidFormat⟩
  cases h with
  | invalidFormat h => exact h

/-! ## Texts and fields -/

/-- **The text form and its reader are inverses.**  Every encrypted field, whatever its twelve bytes
of nonce and its payload are, is read back from its text, and a text that is read is the text of the
field.

So what is read are exactly the texts that have the version, sixteen characters of the alphabet and
the spelling of some bytes, with dots between them.  A spelling has the bits of the bytes, filled up
with zeros; and it is known by its form: characters of the alphabet, no single one behind the groups
of four, zeros in what is not used of the last one.

Every other text is refused for its form, under any key, and has one of the flaws. -/
theorem parse?_exact :
    (∀ x : Sealed, parse? x.text = some x) ∧
    (∀ (s : String) (x : Sealed), parse? s = some x → x.text = s) ∧
    (∀ s : String, (parse? s).isSome ↔
      ∃ (m : List Char) (b : Bytes), m.length = 16 ∧ (∀ c ∈ m, c ∈ alphabet) ∧
        s.toList = "v1.".toList ++ m ++ '.' :: encode b) ∧
    (∀ b : Bytes, ∃ k < 6, Text.Base64Url.charBits (encode b) =
      Text.Base64Url.byteBits b ++ List.replicate k false) ∧
    (∀ p : List Char, (∃ b : Bytes, p = encode b) ↔ IsSpelling p) ∧
    ∀ s : String, (parse? s = none ↔ Flaw s) ∧
      ∀ (key : String) (n : Nonces),
        fieldCipher.decrypt s key n = .error .invalidFormat n ↔ Flaw s := by
  refine ⟨parse?_text, fun s x h ↦ ?_, fun s ↦ isSome_parse?_iff, Text.Base64Url.bits_encode,
    fun p ↦ Text.Base64Url.exists_encode_iff, fun s ↦ ⟨parse?_eq_none_iff_flaw, fun key n ↦ ?_⟩⟩
  · exact (parse?_eq_some.mp h).symm
  · exact decrypt_eq_invalidFormat_iff

/-- A field without a payload comes back.  A last character with unused bits that are not zero is
refused, and so are padding, a further dot and a nonce of eleven bytes. -/
theorem parse?_exact_zeros :
    parse? "v1.AAAAAAAAAAAAAAAA." = some ⟨.zero, []⟩ ∧
    parse? "v1.AAAAAAAAAAAAAAAA.AB" = none ∧ parse? "v1.AAAAAAAAAAAAAAAA.AA==" = none ∧
    parse? "v1.AAAAAAAAAAAAAAAA..AA" = none ∧ parse? "v1.AAAAAAAAAAAAAAA.AA" = none := by
  obtain ⟨hread, -, -, -, -, hrefused⟩ := parse?_exact
  have hspelling : ¬ IsSpelling "AB".toList := by
    intro h
    exact absurd (h.two rfl 'B' rfl) (by decide)
  refine ⟨hread ⟨.zero, []⟩, (hrefused _).1.mpr ?_, (hrefused _).1.mpr ?_, (hrefused _).1.mpr ?_,
    (hrefused _).1.mpr ?_⟩
  · exact .payload (m := List.replicate 16 'A') (by decide) (by decide) hspelling
  · exact .letter (c := '=') (by decide) (by decide) (by decide)
  · exact .parts (by decide)
  · exact .nonce (m := List.replicate 15 'A') (p := "AA".toList) (by decide) (by decide) (by decide)

end Shroud.Sealed
