import Shroud.Proofs.Crypt.Hmac
import Shroud.Proofs.Sealed.Cipher

/-!
# Keys that are one to the cipher

Any text that is not empty is a key, and the key of the authenticated cipher is the code of a label
under it.  A text of at most 64 bytes is filled with zeros for that, and zero is the byte of the
character NUL; so texts that differ in NULs at the end alone are one key (`nul_unseen`).

`opens_iff_mistakable` says which short texts are one key at all.  `Mistakable` lists the three ways
for it to happen.  The first is the one above, and it can be seen in the texts.  The other two are
what a hash and a cipher are chosen to make infeasible: a collision of the hash, at the two messages
that are hashed last, and two keys of the authenticated cipher under which every text becomes the
same.  Nothing else can make one key open what another one has closed, for decryption accepts what
encryption under its own key produces, and nothing else.
-/

set_option autoImplicit false

namespace Shroud.Sealed

/-! ## Keys up to the NULs at their end -/

/-- The characters of a key without the NULs at its end. -/
def bare (key : String) : List Char := key.toList.rdropWhile (· == '\x00')

theorem utf8_append_nuls (s : String) (n : Nat) :
    Text.utf8 (s ++ String.ofList (List.replicate n '\x00')) =
      Text.utf8 s ++ List.replicate n 0 := by
  have hnuls : Text.utf8 (String.ofList (List.replicate n '\x00')) = List.replicate n 0 := by
    induction n with
    | zero => rfl
    | succ n ih =>
      rw [List.replicate_succ, List.replicate_succ, ← List.singleton_append, String.ofList_append,
        Text.utf8_append, ih]
      rfl
  rw [Text.utf8_append, hnuls]

/-- NULs at the end of a text are zeros at the end of its bytes. -/
theorem bare_eq_iff {k₁ k₂ : String} :
    bare k₁ = bare k₂ ↔
      (Text.utf8 k₁).rdropWhile (· == 0) = (Text.utf8 k₂).rdropWhile (· == 0) := by
  have hfilled (m n : Nat) :
      k₁.toList ++ List.replicate m '\x00' = k₂.toList ++ List.replicate n '\x00' ↔
        Text.utf8 k₁ ++ List.replicate m 0 = Text.utf8 k₂ ++ List.replicate n 0 := by
    rw [← utf8_append_nuls, ← utf8_append_nuls, Text.utf8_inj, ← String.toList_inj,
      String.toList_append, String.toList_append, String.toList_ofList, String.toList_ofList]
  rw [bare, bare, rdropWhile_eq_iff, rdropWhile_eq_iff]
  exact exists_congr fun m ↦ exists_congr fun n ↦ hfilled m n

/-- The message that is hashed last to make the key of the cipher. -/
def lastMessage (key : String) : Bytes := Hmac.lastMessage (Text.utf8 key) keyLabel

/-- **Short keys make the same key of the cipher only if they differ in NULs at the end alone**, a
collision of the hash apart. -/
theorem cipherKey_eq_iff {k₁ k₂ : String} (hk₁ : (Text.utf8 k₁).length ≤ 64)
    (hk₂ : (Text.utf8 k₂).length ≤ 64) :
    cipherKey k₁ = cipherKey k₂ ↔
      bare k₁ = bare k₂ ∨ Hmac.Collides (lastMessage k₁) (lastMessage k₂) := by
  rw [cipherKey, cipherKey, Hmac.code_eq_iff, Hmac.keyBlock_eq_iff hk₁ hk₂, bare_eq_iff]
  rfl

/-! ## What a key closes and another one opens -/

section

variable {k₁ k₂ : String} (h₁ : k₁ ≠ "") (h₂ : k₂ ≠ "")

include h₁ h₂

/-- The cipher knows of a key what is made of it. -/
theorem fieldCipher_congr (h : cipherKey k₁ = cipherKey k₂) (text : String) :
    fieldCipher.encrypt text k₁ = fieldCipher.encrypt text k₂ ∧
      fieldCipher.decrypt text k₁ = fieldCipher.decrypt text k₂ := by
  constructor
  · funext n
    rw [encrypt_of_ne h₁, encrypt_of_ne h₂, enclose, h, ← enclose]
  · have hdisclose (x : Sealed) : disclose k₁ x = disclose k₂ x := by
      rw [disclose, disclose, if_neg (mt String.isEmpty_iff.mp h₁),
        if_neg (mt String.isEmpty_iff.mp h₂), h]
    have hdecrypt : decryptText text k₁ = decryptText text k₂ := by
      simp only [decryptText, hdisclose]
    funext m
    rw [decrypt_apply, decrypt_apply, hdecrypt]

end

/-- What is encrypted under the first key, with whatever nonce, is decrypted to itself under the
second one. -/
def Opens (k₁ k₂ : String) : Prop :=
  ∀ (p : String) (n m : Nonces), ∃ s : String,
    fieldCipher.encrypt p k₁ n = .ok s n.next.2 ∧ fieldCipher.decrypt s k₂ m = .ok p m

/-- Under both keys of the authenticated cipher every text becomes the same, whatever the nonce. -/
def EncryptAlike (a b : Bytes) : Prop :=
  ∀ (nonce : GcmSiv.Nonce) (p : String),
    GcmSiv.encrypt a nonce (Text.utf8 p) = GcmSiv.encrypt b nonce (Text.utf8 p)

/-- A key opens what another one closes only by encrypting in the same way. -/
theorem opens_iff_encryptAlike {k₁ k₂ : String} (h₁ : k₁ ≠ "") (h₂ : k₂ ≠ "") :
    Opens k₁ k₂ ↔ EncryptAlike (cipherKey k₁) (cipherKey k₂) := by
  constructor
  · intro h nonce p
    obtain ⟨s, hs, hp⟩ := h p ⟨fun _ ↦ nonce, 0⟩ ⟨fun _ ↦ nonce, 0⟩
    rw [encrypt_of_ne h₁] at hs
    injection hs with hs
    subst hs
    -- what the second key accepts is what it produces itself
    exact (encloses_iff.mp (encloses_of_decrypt hp)).2
  · intro h p n m
    refine ⟨_, encrypt_of_ne h₁ p n, decrypt_of_encloses (encloses_iff.mpr ⟨h₂, ?_⟩) m⟩
    exact h n.next.1 p

/-- The ways in which one short key may open what another one closes. -/
inductive Mistakable (k₁ k₂ : String) : Prop where
  /-- The keys differ in NULs at the end alone. -/
  | padded (h : bare k₁ = bare k₂)
  /-- Two different messages, those that are hashed last, have the same hash. -/
  | collision (h : Hmac.Collides (lastMessage k₁) (lastMessage k₂))
  /-- Two different keys of the authenticated cipher encrypt every text alike. -/
  | twins (hne : cipherKey k₁ ≠ cipherKey k₂) (h : EncryptAlike (cipherKey k₁) (cipherKey k₂))

/-- **Which short keys are one to the cipher.**  Of two keys with at most 64 bytes the one opens all
that the other closes exactly if they differ in NULs at the end alone, or their last messages are a
collision of the hash, or the different keys that are made of them encrypt every text alike.  In any
other case there are a text and a nonce for which the text does not come back.

If they differ in NULs at the end alone, no difference can be seen at all: the cipher encrypts and
decrypts in the same way under both. -/
theorem opens_iff_mistakable {k₁ k₂ : String} (h₁ : k₁ ≠ "") (h₂ : k₂ ≠ "")
    (hk₁ : (Text.utf8 k₁).length ≤ 64) (hk₂ : (Text.utf8 k₂).length ≤ 64) :
    (Opens k₁ k₂ ↔ Mistakable k₁ k₂) ∧
    (bare k₁ = bare k₂ → ∀ text : String,
      fieldCipher.encrypt text k₁ = fieldCipher.encrypt text k₂ ∧
      fieldCipher.decrypt text k₁ = fieldCipher.decrypt text k₂) := by
  refine ⟨?_, fun h ↦ fieldCipher_congr h₁ h₂ ((cipherKey_eq_iff hk₁ hk₂).mpr (.inl h))⟩
  rw [opens_iff_encryptAlike h₁ h₂]
  constructor
  · intro h
    by_cases heq : cipherKey k₁ = cipherKey k₂
    · rcases (cipherKey_eq_iff hk₁ hk₂).mp heq with hbare | hcollides
      · exact .padded hbare
      · exact .collision hcollides
    · exact .twins heq h
  · intro h
    cases h with
    | padded h =>
      rw [(cipherKey_eq_iff hk₁ hk₂).mpr (.inl h)]
      exact fun _ _ ↦ rfl
    | collision h =>
      rw [(cipherKey_eq_iff hk₁ hk₂).mpr (.inr h)]
      exact fun _ _ ↦ rfl
    | twins _ h => exact h

/-- The first of these pairs of keys is one key.  The keys of the second make different keys of the
authenticated cipher, so only if these encrypted every text alike would one open what the other one
closes. -/
theorem opens_iff_mistakable_key :
    Opens "key" "key\x00\x00" ∧
    (Opens "key-one" "key-two" → EncryptAlike (cipherKey "key-one") (cipherKey "key-two")) := by
  constructor
  · exact (opens_iff_mistakable (by decide) (by decide) (by decide) (by decide)).1.mpr
      (.padded (by decide))
  · intro h
    have hne : cipherKey "key-one" ≠ cipherKey "key-two" := by decide +kernel
    cases (opens_iff_mistakable (by decide) (by decide) (by decide) (by decide)).1.mp h with
    | padded h => exact absurd h (by decide)
    | collision h => exact absurd h.2 hne
    | twins _ h => exact h

/-- **A NUL at the end of a key is not seen.**  These are two different keys, not empty and shorter
than 32 bytes, and the one opens all that the other one closes. -/
theorem nul_unseen :
    "key-one" ≠ "key-one\x00" ∧ "key-one" ≠ "" ∧ "key-one\x00" ≠ "" ∧
    (Text.utf8 "key-one").length < 32 ∧ (Text.utf8 "key-one\x00").length < 32 ∧
    Opens "key-one" "key-one\x00" := by
  have heq : cipherKey "key-one" = cipherKey "key-one\x00" :=
    (cipherKey_eq_iff (by decide) (by decide)).mpr (.inl (by decide))
  refine ⟨by decide, by decide, by decide, by decide, by decide, ?_⟩
  rw [opens_iff_encryptAlike (by decide) (by decide), heq]
  exact fun _ _ ↦ rfl

end Shroud.Sealed
