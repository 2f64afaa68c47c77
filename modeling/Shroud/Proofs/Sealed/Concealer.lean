import Shroud.Sealed.Concealer
import Shroud.Proofs.Outline.Undo
import Shroud.Proofs.Sealed.Cipher

/-!
# What is encrypted in one walk is decrypted in another

The standard concealer under a key that is not empty: encryption fails only for the shape of a value
(`Concealer.exists_encrypt`), and decryption of what it returns gives the value back
(`Concealer.decrypt_of_encrypt`), whatever nonces the supply has then.
-/

set_option autoImplicit false

namespace Shroud.Concealer

/-- What stays the same while a concealer walks over a value. -/
def pass {σ : Type} (c : Concealer σ) (d : Direction) (key : String) : Pass σ CipherError :=
  ⟨key, c.marker, c.leaf d⟩

variable {α : Type} [HasRoot α] {x y : α} {key : String} {n n₁ : Nonces}

/-- Encryption of one text takes the next nonce. -/
theorem leaf_encrypt (hkey : key ≠ "") (t : String) (n : Nonces) :
    (standard.pass .encrypt key).leaf t key n =
      .ok (Sealed.enclose key n.next.1 (Text.utf8 t)).text n.next.2 :=
  Sealed.encrypt_of_ne hkey t n

/-- Decryption of one text takes none. -/
theorem leaf_decrypt_of_ok {t p : String} (h : Sealed.decryptText t key = .ok p) (n : Nonces) :
    (standard.pass .decrypt key).leaf t key n = .ok p n := by
  show fieldCipher.decrypt t key n = _
  rw [Sealed.decrypt_apply, h]

theorem leaf_decrypt_of_error {t : String} {e : CipherError}
    (h : Sealed.decryptText t key = .error e) (n : Nonces) :
    (standard.pass .decrypt key).leaf t key n = .error e n := by
  show fieldCipher.decrypt t key n = _
  rw [Sealed.decrypt_apply, h]

/-- Decryption takes back what encryption answers. -/
theorem takenBack (hkey : key ≠ "") :
    (standard.pass .encrypt key).TakenBack (standard.pass .decrypt key) := by
  intro t a n n₁ h n₂
  have htext := Sealed.encrypt_of_ne hkey t n
  change fieldCipher.encrypt t key n = .ok a n₁ at h
  rw [htext] at h
  obtain ⟨rfl, rfl⟩ := EStateM.Result.ok.inj h
  exact ⟨n₂, Sealed.decrypt_of_encloses (Sealed.encloses_enclose hkey _ _) n₂⟩

/-- A value in which a walk meets nothing but texts can be encrypted. -/
theorem exists_encrypt (hkey : key ≠ "")
    (htexts : ∀ e ∈ (HasRoot.root x).events .standard, ∃ path t, e = .text path t) (n : Nonces) :
    ∃ y n₁, standard.encrypt x key n = .ok y n₁ := by
  have hleaf : ∀ t n, ∃ a n₁, (standard.pass .encrypt key).leaf t key n = .ok a n₁ := fun t n ↦
    ⟨_, _, Sealed.encrypt_of_ne hkey t n⟩
  obtain ⟨as, n₁, has⟩ := Pass.exists_answers hleaf (contents ((HasRoot.root x).events .standard)) n
  have hpasses : (standard.pass .encrypt key).Passes n ((HasRoot.root x).events .standard) as n₁ :=
    ⟨htexts, has⟩
  refine ⟨HasRoot.refill x ((HasRoot.root x).put .standard as), n₁, ?_⟩
  show transform (standard.pass .encrypt key) x n = _
  rw [transform_eq _ x hkey, map_eq_pure_bind]
  exact bind_of_ok hpasses.run

/-- What is encrypted is the value with the answers of the cipher in the places of its texts. -/
theorem eq_refill_of_encrypt (hkey : key ≠ "") (h : standard.encrypt x key n = .ok y n₁) :
    ∃ as, (standard.pass .encrypt key).run ((HasRoot.root x).events .standard) n = .ok as n₁ ∧
      y = HasRoot.refill x ((HasRoot.root x).put .standard as) := by
  change transform (standard.pass .encrypt key) x n = _ at h
  rw [transform_eq _ x hkey, map_eq_pure_bind] at h
  obtain ⟨as, n₂, hrun, h⟩ := bind_eq_ok h
  obtain ⟨rfl, rfl⟩ := EStateM.Result.ok.inj h
  exact ⟨as, hrun, rfl⟩

/-- Decryption draws no nonces, and comes to the same whatever the supply is. -/
theorem steady_decrypt (x : α) (key : String) : Pass.Steady (standard.decrypt x key) := by
  refine Pass.steady_transform (p := standard.pass .decrypt key) (fun t ↦ ?_) x
  cases h : Sealed.decryptText t key with
  | ok s => exact .inl ⟨s, leaf_decrypt_of_ok h⟩
  | error e => exact .inr ⟨e, leaf_decrypt_of_error h⟩

/-- **Decryption of an encrypted value gives the value back.** -/
theorem decrypt_of_encrypt (hkey : key ≠ "") (hx : Restorable .standard x)
    (h : standard.encrypt x key n = .ok y n₁) (n₂ : Nonces) :
    ∃ n₃, standard.decrypt y key n₂ = .ok x n₃ :=
  transform_of_transform (p := standard.pass .encrypt key) (q := standard.pass .decrypt key)
    hkey hkey rfl (takenBack hkey) hx h n₂

/-- What some texts are encrypted to is not much longer than the texts. -/
theorem totalLength_of_run (hkey : key ≠ "") {es : List Event} {as : List String}
    (h : (standard.pass .encrypt key).run es n = .ok as n₁) :
    totalLength as ≤ 8 * totalLength (contents es) + 60 * as.length := by
  induction es generalizing n as with
  | nil =>
    obtain ⟨rfl, -⟩ := EStateM.Result.ok.inj h
    exact Nat.le_refl _
  | cons e es ih =>
    cases e with
    | unsupported found => cases h
    | tooDeep => cases h
    | text path t =>
      rw [Pass.run, bind_of_ok (Pass.replace_of_ok (Sealed.encrypt_of_ne hkey t n) path)] at h
      obtain ⟨bs, n₂, hbs, h⟩ := bind_eq_ok h
      obtain ⟨rfl, rfl⟩ := EStateM.Result.ok.inj h
      have hrest := ih hbs
      have htext := Sealed.length_enclose_le key n.next.1 t
      rw [totalLength_cons, contents_text, totalLength_cons, List.length_cons]
      omega

end Shroud.Concealer
