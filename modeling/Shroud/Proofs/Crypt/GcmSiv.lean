import Shroud.Crypt.GcmSiv

/-!
# What the authenticated cipher accepts

`decrypt?_eq_some` is the main statement: a ciphertext has a plaintext exactly if it is what
encryption makes of this plaintext, under the same key and nonce.  Nothing here looks into the block
cipher or the hash; three facts are enough:

* **the keystream is long enough** (`length_le_keystream`), so that no byte of a text goes through
  unchanged or is lost, whether the last block is whole or not;
* **the keystream is undone by itself** (`applyKeystream_applyKeystream`), because combining keeps
  the length, and the length and the tag are all that it depends on;
* **the tag has one size** (`length_tag`), so that it can be cut off again.

The direction from decryption to encryption rests on the synthetic start of the keystream: the tag
that was cut off is compared with the tag of the recovered plaintext, and so encryption starts the
same keystream.
-/

set_option autoImplicit false

namespace Shroud

theorem Bytes.xor_xor {a b : Bytes} (h : a.length ≤ b.length) : xor (xor a b) b = a := by
  induction a generalizing b with
  | nil => rfl
  | cons x a ih =>
    cases b with
    | nil => cases h
    | cons y b =>
      have hxy : x ^^^ y ^^^ y = x := by rw [UInt8.xor_assoc, UInt8.xor_self, UInt8.xor_zero]
      have hrest : xor (xor a b) b = a := ih (Nat.le_of_succ_le_succ h)
      simp only [xor, List.zipWith_cons_cons] at hrest ⊢
      rw [hxy, hrest]

namespace GcmSiv

/-! ## The keystream -/

theorem length_keystreamBlocks (keys : List Aes256.Block) (tail : Bytes) (n counter : Nat) :
    (keystreamBlocks keys tail n counter).length = 16 * n := by
  induction n generalizing counter with
  | zero => rfl
  | succ n ih =>
    rw [keystreamBlocks, List.length_append, Aes256.length_encrypt, ih]
    omega

theorem length_le_keystream (k : MessageKeys) (tag : Bytes) (n : Nat) :
    n ≤ (keystream k tag n).length := by
  rw [keystream, length_keystreamBlocks]
  omega

theorem length_applyKeystream (k : MessageKeys) (tag text : Bytes) :
    (applyKeystream k tag text).length = text.length := by
  rw [applyKeystream, Bytes.xor, List.length_zipWith]
  exact Nat.min_eq_left (length_le_keystream k tag text.length)

/-- The keystream is undone by itself. -/
theorem applyKeystream_applyKeystream (k : MessageKeys) (tag text : Bytes) :
    applyKeystream k tag (applyKeystream k tag text) = text := by
  have hlength := length_applyKeystream k tag text
  rw [applyKeystream, hlength, applyKeystream]
  exact Bytes.xor_xor (length_le_keystream k tag text.length)

/-! ## Ciphertexts -/

theorem length_tag (k : MessageKeys) (nonce : Nonce) (plain : Bytes) :
    (tag k nonce plain).length = tagSize :=
  rfl

theorem length_encrypt (key : Bytes) (nonce : Nonce) (plain : Bytes) :
    (encrypt key nonce plain).length = plain.length + tagSize := by
  rw [encrypt, List.length_append, length_applyKeystream, length_tag]

theorem decrypt?_of_lt {key cipher : Bytes} (nonce : Nonce) (h : cipher.length < tagSize) :
    decrypt? key nonce cipher = none :=
  if_pos h

/-- Decryption of a text under the keystream of a tag, followed by this tag. -/
theorem decrypt?_append (key : Bytes) (nonce : Nonce) {text t : Bytes} (h : t.length = tagSize) :
    decrypt? key nonce (text ++ t) =
      if tag (.derive key nonce) nonce (applyKeystream (.derive key nonce) t text) = t then
        some (applyKeystream (.derive key nonce) t text)
      else none := by
  have hfront : (text ++ t).length - tagSize = text.length := by
    rw [List.length_append, h, Nat.add_sub_cancel]
  have hlong : ¬ (text ++ t).length < tagSize := by
    rw [List.length_append, h]
    omega
  rw [decrypt?, if_neg hlong]
  simp only [hfront, List.take_left, List.drop_left]

/-- What is encrypted is decrypted to itself. -/
theorem decrypt?_encrypt (key : Bytes) (nonce : Nonce) (plain : Bytes) :
    decrypt? key nonce (encrypt key nonce plain) = some plain := by
  rw [encrypt, decrypt?_append key nonce (length_tag _ nonce plain),
    applyKeystream_applyKeystream, if_pos rfl]

/-- What is decrypted was encrypted. -/
theorem encrypt_of_decrypt? {key : Bytes} {nonce : Nonce} {cipher plain : Bytes}
    (h : decrypt? key nonce cipher = some plain) : encrypt key nonce plain = cipher := by
  by_cases hshort : cipher.length < tagSize
  · rw [decrypt?_of_lt nonce hshort] at h
    cases h
  have hcut : cipher = cipher.take (cipher.length - tagSize) ++
      cipher.drop (cipher.length - tagSize) := (List.take_append_drop _ _).symm
  have ht : (cipher.drop (cipher.length - tagSize)).length = tagSize := by
    rw [List.length_drop]
    omega
  generalize cipher.take (cipher.length - tagSize) = text at hcut
  generalize cipher.drop (cipher.length - tagSize) = t at hcut ht
  subst hcut
  rw [decrypt?_append key nonce ht] at h
  split at h
  case isFalse => cases h
  case isTrue htag =>
    obtain rfl := Option.some.inj h
    -- the tag of the recovered plaintext is the one that was cut off
    rw [encrypt, htag, applyKeystream_applyKeystream]

/-- **A ciphertext has a plaintext exactly if it is the encryption of it.** -/
theorem decrypt?_eq_some {key : Bytes} {nonce : Nonce} {cipher plain : Bytes} :
    decrypt? key nonce cipher = some plain ↔ cipher = encrypt key nonce plain := by
  refine ⟨fun h ↦ (encrypt_of_decrypt? h).symm, ?_⟩
  rintro rfl
  exact decrypt?_encrypt key nonce plain

end GcmSiv

end Shroud
