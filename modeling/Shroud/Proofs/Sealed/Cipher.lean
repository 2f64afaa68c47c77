import Shroud.Sealed.Cipher
import Shroud.Proofs.Crypt.GcmSiv
import Shroud.Proofs.Sealed.Basic
import Shroud.Proofs.Text.Utf8

/-!
# Decryption accepts what encryption produces, and nothing else

`fieldCipher_decrypt` is the main statement.  The result of decrypting a text is determined by how
the text relates to what encryption under the same key can produce, and the four refusals exclude
each other in a fixed order: first the form, then the key, then the tag, then UTF-8.

`Encloses` says which encrypted fields encryption can produce, and `Result` spells out the five
results in its terms.  That decryption follows `Result` (`decryptText_eq_iff`) needs one direction
only, since `Result` has a case for every text: the results of two cases are never both right.
-/

set_option autoImplicit false

namespace Shroud.Sealed

/-! ## What encryption produces -/

/-- Encrypting bytes under the key yields the field, whenever the nonce that is drawn is that of
the field. -/
def Encloses (key : String) (b : Bytes) (x : Sealed) : Prop :=
  ∀ n : Nonces, n.next.1 = x.nonce → encryptBytes b key n = .ok x n.next.2

theorem encryptBytes_of_ne {key : String} (hkey : key ≠ "") (b : Bytes) (n : Nonces) :
    encryptBytes b key n = .ok (enclose key n.next.1 b) n.next.2 := by
  have hempty : ¬ key.isEmpty = true := mt String.isEmpty_iff.mp hkey
  rw [encryptBytes, if_neg hempty]
  rfl

theorem encryptBytes_empty (b : Bytes) (n : Nonces) :
    encryptBytes b "" n = .error .invalidKey n :=
  rfl

theorem encloses_iff {key : String} {b : Bytes} {x : Sealed} :
    Encloses key b x ↔ key ≠ "" ∧ x.payload = GcmSiv.encrypt (cipherKey key) x.nonce b := by
  constructor
  · intro h
    have hx := h ⟨fun _ ↦ x.nonce, 0⟩ rfl
    have hkey : key ≠ "" := by
      rintro rfl
      rw [encryptBytes_empty] at hx
      cases hx
    rw [encryptBytes_of_ne hkey] at hx
    injection hx with henclose
    exact ⟨hkey, (congrArg payload henclose).symm⟩
  · rintro ⟨hkey, hpayload⟩ n hn
    rw [encryptBytes_of_ne hkey, hn, enclose, ← hpayload]

theorem encloses_enclose {key : String} (hkey : key ≠ "") (nonce : GcmSiv.Nonce) (b : Bytes) :
    Encloses key b (enclose key nonce b) :=
  encloses_iff.mpr ⟨hkey, rfl⟩

/-- The text of an encrypted text is not much longer than the text. -/
theorem length_enclose_le (key : String) (nonce : GcmSiv.Nonce) (p : String) :
    (enclose key nonce (Text.utf8 p)).text.toList.length ≤ 60 + 8 * p.toList.length := by
  have htext := length_text_le (enclose key nonce (Text.utf8 p))
  have hutf8 := Text.length_utf8_le p
  have htag : GcmSiv.tagSize = 16 := rfl
  rw [enclose, GcmSiv.length_encrypt] at htext
  rw [enclose]
  omega

/-- Bytes have one field for each key and nonce. -/
theorem Encloses.eq {key : String} {b : Bytes} {x y : Sealed} (hx : Encloses key b x)
    (hy : Encloses key b y) (hnonce : x.nonce = y.nonce) : x = y := by
  obtain ⟨xn, xp⟩ := x
  obtain ⟨yn, yp⟩ := y
  obtain rfl : xn = yn := hnonce
  rw [Sealed.mk.injEq]
  exact ⟨rfl, (encloses_iff.mp hx).2.trans (encloses_iff.mp hy).2.symm⟩

theorem encrypt_of_ne {key : String} (hkey : key ≠ "") (p : String) (n : Nonces) :
    fieldCipher.encrypt p key n =
      .ok (enclose key n.next.1 (Text.utf8 p)).text n.next.2 := by
  show EStateM.bind (encryptBytes (Text.utf8 p) key) _ n = _
  rw [EStateM.bind, encryptBytes_of_ne hkey]
  rfl

/-- A field that holds a text is what the cipher produces from the text. -/
theorem encloses_utf8_iff {key p : String} {x : Sealed} :
    Encloses key (Text.utf8 p) x ↔
      ∀ n : Nonces, n.next.1 = x.nonce → fieldCipher.encrypt p key n = .ok x.text n.next.2 := by
  constructor
  · intro h n hn
    obtain ⟨hkey, -⟩ := encloses_iff.mp h
    have hx := h n hn
    rw [encryptBytes_of_ne hkey] at hx
    injection hx with henclose
    rw [encrypt_of_ne hkey, henclose]
  · intro h
    have hx := h ⟨fun _ ↦ x.nonce, 0⟩ rfl
    have hkey : key ≠ "" := by
      rintro rfl
      cases hx
    rw [encrypt_of_ne hkey] at hx
    injection hx with htext
    rw [← text_inj.mp htext]
    exact encloses_enclose hkey _ _

/-! ## The result of decryption -/

/-- What decrypting a text under a key must result in. -/
inductive Result (key : String) : String → Except CipherError String → Prop where
  | invalidFormat {s : String} (h : ∀ x : Sealed, s ≠ x.text) : Result key s (.error .invalidFormat)
  | invalidKey (x : Sealed) (h : key = "") : Result key x.text (.error .invalidKey)
  | text {x : Sealed} {p : String} (h : Encloses key (Text.utf8 p) x) : Result key x.text (.ok p)
  | invalidUtf8 {x : Sealed} {b : Bytes} (h : Encloses key b x) (hb : ∀ p, Text.utf8 p ≠ b) :
      Result key x.text (.error .invalidUtf8)
  | aead {x : Sealed} (hkey : key ≠ "") (h : ∀ b, ¬ Encloses key b x) :
      Result key x.text (.error .aead)

theorem exists_result (key s : String) : ∃ r, Result key s r := by
  by_cases hs : ∃ x : Sealed, s = x.text
  · obtain ⟨x, rfl⟩ := hs
    by_cases hkey : key = ""
    · exact ⟨_, .invalidKey x hkey⟩
    by_cases hb : ∃ b, Encloses key b x
    · obtain ⟨b, hb⟩ := hb
      by_cases hp : ∃ p, Text.utf8 p = b
      · obtain ⟨p, rfl⟩ := hp
        exact ⟨_, .text hb⟩
      · exact ⟨_, .invalidUtf8 hb fun p h ↦ hp ⟨p, h⟩⟩
    · exact ⟨_, .aead hkey fun b h ↦ hb ⟨b, h⟩⟩
  · exact ⟨_, .invalidFormat fun x h ↦ hs ⟨x, h⟩⟩

theorem disclose_of_encloses {key : String} {b : Bytes} {x : Sealed} (h : Encloses key b x) :
    disclose key x = .ok b := by
  obtain ⟨hkey, hpayload⟩ := encloses_iff.mp h
  have hempty : ¬ key.isEmpty = true := mt String.isEmpty_iff.mp hkey
  rw [disclose, if_neg hempty, GcmSiv.decrypt?_eq_some.mpr hpayload]

theorem disclose_of_not_encloses {key : String} {x : Sealed} (hkey : key ≠ "")
    (h : ∀ b, ¬ Encloses key b x) : disclose key x = .error .aead := by
  have hempty : ¬ key.isEmpty = true := mt String.isEmpty_iff.mp hkey
  have hnone : GcmSiv.decrypt? (cipherKey key) x.nonce x.payload = none := by
    rw [Option.eq_none_iff_forall_ne_some]
    intro b hb
    exact h b (encloses_iff.mpr ⟨hkey, GcmSiv.decrypt?_eq_some.mp hb⟩)
  rw [disclose, if_neg hempty, hnone]

theorem ofUtf8?_eq_none {b : Bytes} (h : ∀ p, Text.utf8 p ≠ b) : Text.ofUtf8? b = none := by
  rw [Option.eq_none_iff_forall_ne_some]
  exact fun p hp ↦ h p (Text.utf8_of_ofUtf8? hp)

/-- Decryption of a text of the right form is what follows the disclosure of its field. -/
theorem decryptText_text (x : Sealed) (key : String) :
    decryptText x.text key =
      (disclose key x).bind fun b ↦
        match Text.ofUtf8? b with
        | some p => .ok p
        | none => .error .invalidUtf8 := by
  rw [decryptText, parse?_text]
  rfl

theorem Result.decryptText_eq {key s : String} {r : Except CipherError String}
    (h : Result key s r) : decryptText s key = r := by
  cases h with
  | invalidFormat h => rw [decryptText, parse?_eq_none.mpr h]
  | invalidKey x h =>
    subst h
    rw [decryptText_text]
    rfl
  | text h => rw [decryptText_text, disclose_of_encloses h, Except.bind, Text.ofUtf8?_utf8]
  | invalidUtf8 h hb =>
    rw [decryptText_text, disclose_of_encloses h, Except.bind, ofUtf8?_eq_none hb]
  | aead hkey h =>
    rw [decryptText_text, disclose_of_not_encloses hkey h]
    rfl

theorem decryptText_eq_iff {key s : String} {r : Except CipherError String} :
    decryptText s key = r ↔ Result key s r := by
  refine ⟨fun h ↦ ?_, Result.decryptText_eq⟩
  obtain ⟨r', hr'⟩ := exists_result key s
  rwa [← h, hr'.decryptText_eq]

/-- The cipher answers what the text is decrypted to, and leaves the nonces alone. -/
theorem decrypt_apply (s key : String) (m : Nonces) :
    fieldCipher.decrypt s key m =
      match decryptText s key with
      | .ok p => .ok p m
      | .error e => .error e m :=
  rfl

theorem decrypt_eq_ok_iff {key s p : String} {m : Nonces} :
    fieldCipher.decrypt s key m = .ok p m ↔ Result key s (.ok p) := by
  rw [← decryptText_eq_iff, decrypt_apply]
  cases decryptText s key with
  | ok t => simp
  | error e => simp

theorem decrypt_eq_error_iff {key s : String} {e : CipherError} {m : Nonces} :
    fieldCipher.decrypt s key m = .error e m ↔ Result key s (.error e) := by
  rw [← decryptText_eq_iff, decrypt_apply]
  cases decryptText s key with
  | ok t => simp
  | error e' => simp

theorem decrypt_of_encloses {key p : String} {x : Sealed} (h : Encloses key (Text.utf8 p) x)
    (m : Nonces) : fieldCipher.decrypt x.text key m = .ok p m :=
  decrypt_eq_ok_iff.mpr (.text h)

/-- What is decrypted is the field of its text. -/
theorem encloses_of_decrypt {key p : String} {x : Sealed} {m : Nonces}
    (h : fieldCipher.decrypt x.text key m = .ok p m) : Encloses key (Text.utf8 p) x := by
  obtain ⟨y, hy, hencloses⟩ : ∃ y : Sealed, x.text = y.text ∧ Encloses key (Text.utf8 p) y := by
    generalize x.text = s at h
    cases decrypt_eq_ok_iff.mp h with
    | text h => exact ⟨_, rfl, h⟩
  rwa [text_inj.mp hy]

/-- A payload that is shorter than a tag holds nothing. -/
theorem not_encloses_of_short {key : String} {b : Bytes} {x : Sealed}
    (h : x.payload.length < GcmSiv.tagSize) : ¬ Encloses key b x := by
  intro hb
  rw [(encloses_iff.mp hb).2, GcmSiv.length_encrypt] at h
  omega

/-- **Decryption accepts exactly what encryption produces.**  For every text and every key:

* the form is refused exactly if the text is not that of an encrypted field, the key exactly if it
  is empty and the form is right;
* the result is `p` exactly if encrypting `p` under the key yields this very text whenever the nonce
  drawn is the one in the text;
* the plaintext is refused exactly if encrypting bytes that are no text yields the text, and the tag
  exactly if, under a key that is not empty, no bytes do; among these texts are those with fewer
  bytes than a tag.

There is no other result, and the nonces are left alone.  So what is encrypted is decrypted to
itself, and under one key and nonce a plaintext has one accepted spelling. -/
theorem fieldCipher_decrypt (key : String) :
    (∀ (s : String) (m : Nonces),
      (fieldCipher.decrypt s key m = .error .invalidFormat m ↔ ∀ x : Sealed, s ≠ x.text) ∧
      (fieldCipher.decrypt s key m = .error .invalidKey m ↔ key = "" ∧ ∃ x : Sealed, s = x.text) ∧
      (∀ p : String, fieldCipher.decrypt s key m = .ok p m ↔
        ∃ x : Sealed, s = x.text ∧
          ∀ n : Nonces, n.next.1 = x.nonce → fieldCipher.encrypt p key n = .ok s n.next.2) ∧
      (fieldCipher.decrypt s key m = .error .invalidUtf8 m ↔
        ∃ (x : Sealed) (b : Bytes),
          s = x.text ∧ Encloses key b x ∧ ∀ p : String, Text.utf8 p ≠ b) ∧
      (fieldCipher.decrypt s key m = .error .aead m ↔
        key ≠ "" ∧ ∃ x : Sealed, s = x.text ∧ ∀ b : Bytes, ¬ Encloses key b x) ∧
      ((∃ p : String, fieldCipher.decrypt s key m = .ok p m) ∨
        ∃ e : CipherError, fieldCipher.decrypt s key m = .error e m)) ∧
    (key ≠ "" → ∀ (x : Sealed) (m : Nonces), x.payload.length < GcmSiv.tagSize →
      fieldCipher.decrypt x.text key m = .error .aead m) ∧
    (key ≠ "" → ∀ (p : String) (n m : Nonces), ∃ s : String,
      fieldCipher.encrypt p key n = .ok s n.next.2 ∧ fieldCipher.decrypt s key m = .ok p m) ∧
    (∀ (x y : Sealed) (p : String) (m : Nonces), x.nonce = y.nonce →
      fieldCipher.decrypt x.text key m = .ok p m → fieldCipher.decrypt y.text key m = .ok p m →
      x.text = y.text) := by
  refine ⟨fun s m ↦ ⟨?form, ?key, fun p ↦ ?text, ?utf8, ?tag, ?total⟩, ?short, ?roundTrip, ?single⟩
  case form =>
    rw [decrypt_eq_error_iff]
    refine ⟨fun h ↦ ?_, .invalidFormat⟩
    cases h with
    | invalidFormat h => exact h
  case key =>
    rw [decrypt_eq_error_iff]
    constructor
    · intro h
      cases h with
      | invalidKey x h => exact ⟨h, x, rfl⟩
    · rintro ⟨hkey, x, rfl⟩
      exact .invalidKey x hkey
  case text =>
    rw [decrypt_eq_ok_iff]
    constructor
    · intro h
      cases h with
      | text h => exact ⟨_, rfl, encloses_utf8_iff.mp h⟩
    · rintro ⟨x, rfl, h⟩
      exact .text (encloses_utf8_iff.mpr h)
  case utf8 =>
    rw [decrypt_eq_error_iff]
    constructor
    · intro h
      cases h with
      | invalidUtf8 h hb => exact ⟨_, _, rfl, h, hb⟩
    · rintro ⟨x, b, rfl, h, hb⟩
      exact .invalidUtf8 h hb
  case tag =>
    rw [decrypt_eq_error_iff]
    constructor
    · intro h
      cases h with
      | aead hkey h => exact ⟨hkey, _, rfl, h⟩
    · rintro ⟨hkey, x, rfl, h⟩
      exact .aead hkey h
  case total =>
    obtain ⟨r, hr⟩ := exists_result key s
    cases r with
    | ok p => exact .inl ⟨p, decrypt_eq_ok_iff.mpr hr⟩
    | error e => exact .inr ⟨e, decrypt_eq_error_iff.mpr hr⟩
  case short =>
    intro hkey x m hlength
    exact decrypt_eq_error_iff.mpr (.aead hkey fun _ ↦ not_encloses_of_short hlength)
  case roundTrip =>
    intro hkey p n m
    have hencloses := encloses_enclose hkey n.next.1 (Text.utf8 p)
    exact ⟨_, encrypt_of_ne hkey p n, decrypt_of_encloses hencloses m⟩
  case single =>
    intro x y p m hnonce hx hy
    rw [(encloses_of_decrypt hx).eq (encloses_of_decrypt hy) hnonce]

/-- A text that looks like an encrypted field comes back from encryption; a payload without a tag is
refused, and a text without dots is refused for its form even under the empty key. -/
theorem fieldCipher_decrypt_deadbeef :
    (∃ s : String,
      fieldCipher.encrypt "v1.AA.\"é\n" "deadbeef" ⟨fun _ ↦ .zero, 0⟩ = .ok s ⟨fun _ ↦ .zero, 1⟩ ∧
        fieldCipher.decrypt s "deadbeef" ⟨fun _ ↦ .zero, 0⟩ =
          .ok "v1.AA.\"é\n" ⟨fun _ ↦ .zero, 0⟩) ∧
    fieldCipher.decrypt (text ⟨.zero, [1, 2, 3]⟩) "deadbeef" ⟨fun _ ↦ .zero, 0⟩ =
      .error .aead ⟨fun _ ↦ .zero, 0⟩ ∧
    fieldCipher.decrypt "alice" "" ⟨fun _ ↦ .zero, 0⟩ =
      .error .invalidFormat ⟨fun _ ↦ .zero, 0⟩ := by
  have hkey : "deadbeef" ≠ "" := by decide
  have hform : parse? "alice" = none := by decide
  exact ⟨(fieldCipher_decrypt "deadbeef").2.2.1 hkey _ _ _,
    (fieldCipher_decrypt "deadbeef").2.1 hkey _ _ (by decide),
    ((fieldCipher_decrypt "").1 "alice" _).1.mpr (parse?_eq_none.mp hform)⟩

end Shroud.Sealed
