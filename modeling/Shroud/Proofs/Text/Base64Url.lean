import Shroud.Text.Base64Url

/-!
# One spelling for each byte string

Reading and spelling in base 64 are inverse to each other, in both directions:

* **what is spelled is read back** (`decode?_encode`): the digits of a group hold all its bits;
* **what is read was spelled** (`encode_of_decode?`): reading refuses unused bits that are not
  zero, so that a text which is read is the spelling of its bytes, character for character.

`decode?_eq_some` puts the two together.  Both are shown group by group, and for one group they are
arithmetic on three bytes and four digits.
-/

set_option autoImplicit false

namespace Shroud.Text.Base64Url

/-! ## Digits -/

theorem value?_digit {n : Nat} (h : n < 64) : value? (digit n) = some n := by
  have hall : ∀ n < 64, value? (digit n) = some n := by decide
  exact hall n h

/-- A character of the alphabet is the digit of its value. -/
theorem digit_of_value? {c : Char} {n : Nat} (h : value? c = some n) : n < 64 ∧ digit n = c := by
  have hA : 'A'.toNat = 65 := rfl
  have ha : 'a'.toNat = 97 := rfl
  have h0 : '0'.toNat = 48 := rfl
  simp only [value?] at h
  split at h
  case isTrue hc =>
    obtain rfl := Option.some.inj h
    obtain ⟨hlow, hhigh⟩ : 65 ≤ c.toNat ∧ c.toNat ≤ 90 := hc
    refine ⟨by omega, ?_⟩
    rw [digit, if_pos (by omega), Nat.add_sub_cancel' (by omega), Char.ofNat_toNat]
  split at h
  case isTrue hc =>
    obtain rfl := Option.some.inj h
    obtain ⟨hlow, hhigh⟩ : 97 ≤ c.toNat ∧ c.toNat ≤ 122 := hc
    refine ⟨by omega, ?_⟩
    rw [digit, if_neg (by omega), if_pos (by omega), Nat.add_sub_cancel,
      Nat.add_sub_cancel' (by omega), Char.ofNat_toNat]
  split at h
  case isTrue hc =>
    obtain rfl := Option.some.inj h
    obtain ⟨hlow, hhigh⟩ : 48 ≤ c.toNat ∧ c.toNat ≤ 57 := hc
    refine ⟨by omega, ?_⟩
    rw [digit, if_neg (by omega), if_neg (by omega), if_pos (by omega), Nat.add_sub_cancel,
      Nat.add_sub_cancel' (by omega), Char.ofNat_toNat]
  split at h
  case isTrue hc =>
    obtain rfl := Option.some.inj h
    exact ⟨by decide, hc.symm⟩
  split at h
  case isTrue hc =>
    obtain rfl := Option.some.inj h
    exact ⟨by decide, hc.symm⟩
  cases h

/-- A dot is no digit, so that it can separate spellings. -/
theorem digit_ne_dot {n : Nat} (h : n < 64) : digit n ≠ '.' := by
  intro hdot
  have hvalue := value?_digit h
  rw [hdot] at hvalue
  cases hvalue

/-- A spelling has nothing but digits. -/
theorem exists_digit_of_mem_encode {b : Bytes} {c : Char} (h : c ∈ encode b) :
    ∃ n < 64, c = digit n := by
  fun_induction encode b with
  | case1 => nomatch h
  | case2 x =>
    have hx := x.toNat_lt
    rcases List.mem_cons.mp h with rfl | h
    · exact ⟨_, by omega, rfl⟩
    · exact ⟨_, by omega, List.mem_singleton.mp h⟩
  | case3 x y =>
    have hx := x.toNat_lt
    have hy := y.toNat_lt
    rcases List.mem_cons.mp h with rfl | h
    · exact ⟨_, by omega, rfl⟩
    rcases List.mem_cons.mp h with rfl | h
    · exact ⟨_, by omega, rfl⟩
    · exact ⟨_, by omega, List.mem_singleton.mp h⟩
  | case4 x y z rest ih =>
    have hx := x.toNat_lt
    have hy := y.toNat_lt
    have hz := z.toNat_lt
    rcases List.mem_cons.mp h with rfl | h
    · exact ⟨_, by omega, rfl⟩
    rcases List.mem_cons.mp h with rfl | h
    · exact ⟨_, by omega, rfl⟩
    rcases List.mem_cons.mp h with rfl | h
    · exact ⟨_, by omega, rfl⟩
    rcases List.mem_cons.mp h with rfl | h
    · exact ⟨_, by omega, rfl⟩
    · exact ih h

theorem dot_not_mem_encode (b : Bytes) : '.' ∉ encode b := by
  intro h
  obtain ⟨n, hn, hdot⟩ := exists_digit_of_mem_encode h
  exact digit_ne_dot hn hdot.symm

theorem length_encode_le (b : Bytes) : (encode b).length ≤ 2 * b.length := by
  fun_induction encode b with
  | case1 => exact Nat.le_refl _
  | case2 => exact Nat.le_refl _
  | case3 => exact Nat.le_succ _
  | case4 x y z rest ih =>
    simp only [List.length_cons]
    omega

theorem length_le_length_encode (b : Bytes) : b.length ≤ (encode b).length := by
  fun_induction encode b with
  | case1 => exact Nat.le_refl _
  | case2 => exact Nat.le_succ _
  | case3 => exact Nat.le_succ _
  | case4 x y z rest ih =>
    simp only [List.length_cons]
    omega

/-! ## Groups -/

theorem ofNat_eq_of_toNat_eq {x : UInt8} {n : Nat} (h : n = x.toNat) : UInt8.ofNat n = x := by
  rw [h, UInt8.ofNat_toNat]

/-- What is spelled is read back. -/
theorem decode?_encode (b : Bytes) : decode? (encode b) = some b := by
  fun_induction encode b with
  | case1 => rfl
  | case2 x =>
    have hx := x.toNat_lt
    have hx₀ : UInt8.ofNat (x.toNat / 4 * 4 + x.toNat % 4 * 16 / 16) = x :=
      ofNat_eq_of_toNat_eq (by omega)
    rw [decode?, value?_digit (by omega), value?_digit (by omega)]
    simp only [Option.bind_eq_bind, Option.bind_some]
    rw [if_pos (by omega), hx₀]
    rfl
  | case3 x y =>
    have hx := x.toNat_lt
    have hy := y.toNat_lt
    have hx₀ : UInt8.ofNat (x.toNat / 4 * 4 + (x.toNat % 4 * 16 + y.toNat / 16) / 16) = x :=
      ofNat_eq_of_toNat_eq (by omega)
    have hy₀ : UInt8.ofNat ((x.toNat % 4 * 16 + y.toNat / 16) % 16 * 16 +
        y.toNat % 16 * 4 / 4) = y := ofNat_eq_of_toNat_eq (by omega)
    rw [decode?, value?_digit (by omega), value?_digit (by omega), value?_digit (by omega)]
    simp only [Option.bind_eq_bind, Option.bind_some]
    rw [if_pos (by omega), hx₀, hy₀]
    rfl
  | case4 x y z rest ih =>
    have hx := x.toNat_lt
    have hy := y.toNat_lt
    have hz := z.toNat_lt
    have hx₀ : UInt8.ofNat (x.toNat / 4 * 4 + (x.toNat % 4 * 16 + y.toNat / 16) / 16) = x :=
      ofNat_eq_of_toNat_eq (by omega)
    have hy₀ : UInt8.ofNat ((x.toNat % 4 * 16 + y.toNat / 16) % 16 * 16 +
        (y.toNat % 16 * 4 + z.toNat / 64) / 4) = y := ofNat_eq_of_toNat_eq (by omega)
    have hz₀ : UInt8.ofNat ((y.toNat % 16 * 4 + z.toNat / 64) % 4 * 64 + z.toNat % 64) = z :=
      ofNat_eq_of_toNat_eq (by omega)
    rw [decode?, value?_digit (by omega), value?_digit (by omega), value?_digit (by omega),
      value?_digit (by omega), ih]
    simp only [Option.bind_eq_bind, Option.bind_some, hx₀, hy₀, hz₀]
    rfl

/-- What is read was spelled. -/
theorem encode_of_decode? {cs : List Char} {b : Bytes} (h : decode? cs = some b) :
    encode b = cs := by
  fun_induction decode? cs generalizing b with
  | case1 =>
    obtain rfl := Option.some.inj h
    rfl
  | case2 => cases h
  | case3 c d =>
    simp only [Option.bind_eq_bind, Option.bind_eq_some_iff] at h
    obtain ⟨x, hx, y, hy, h⟩ := h
    obtain ⟨hxlt, rfl⟩ := digit_of_value? hx
    obtain ⟨hylt, rfl⟩ := digit_of_value? hy
    split at h
    case isFalse => cases h
    case isTrue hmod =>
      obtain rfl := Option.some.inj h
      have hbyte : x * 4 + y / 16 < 256 := by omega
      simp only [encode, UInt8.toNat_ofNat', Nat.mod_eq_of_lt hbyte]
      rw [show (x * 4 + y / 16) / 4 = x by omega,
        show (x * 4 + y / 16) % 4 * 16 = y by omega]
  | case4 c d e =>
    simp only [Option.bind_eq_bind, Option.bind_eq_some_iff] at h
    obtain ⟨x, hx, y, hy, z, hz, h⟩ := h
    obtain ⟨hxlt, rfl⟩ := digit_of_value? hx
    obtain ⟨hylt, rfl⟩ := digit_of_value? hy
    obtain ⟨hzlt, rfl⟩ := digit_of_value? hz
    split at h
    case isFalse => cases h
    case isTrue hmod =>
      obtain rfl := Option.some.inj h
      have hfirst : x * 4 + y / 16 < 256 := by omega
      have hsecond : y % 16 * 16 + z / 4 < 256 := by omega
      simp only [encode, UInt8.toNat_ofNat', Nat.mod_eq_of_lt hfirst, Nat.mod_eq_of_lt hsecond]
      rw [show (x * 4 + y / 16) / 4 = x by omega,
        show (x * 4 + y / 16) % 4 * 16 + (y % 16 * 16 + z / 4) / 16 = y by omega,
        show (y % 16 * 16 + z / 4) % 16 * 4 = z by omega]
  | case5 c d e f rest ih =>
    simp only [Option.bind_eq_bind, Option.bind_eq_some_iff] at h
    obtain ⟨x, hx, y, hy, z, hz, w, hw, b, hrest, h⟩ := h
    obtain ⟨hxlt, rfl⟩ := digit_of_value? hx
    obtain ⟨hylt, rfl⟩ := digit_of_value? hy
    obtain ⟨hzlt, rfl⟩ := digit_of_value? hz
    obtain ⟨hwlt, rfl⟩ := digit_of_value? hw
    obtain rfl := Option.some.inj h
    have hfirst : x * 4 + y / 16 < 256 := by omega
    have hsecond : y % 16 * 16 + z / 4 < 256 := by omega
    have hthird : z % 4 * 64 + w < 256 := by omega
    simp only [encode, UInt8.toNat_ofNat', Nat.mod_eq_of_lt hfirst, Nat.mod_eq_of_lt hsecond,
      Nat.mod_eq_of_lt hthird, ih hrest]
    rw [show (x * 4 + y / 16) / 4 = x by omega,
      show (x * 4 + y / 16) % 4 * 16 + (y % 16 * 16 + z / 4) / 16 = y by omega,
      show (y % 16 * 16 + z / 4) % 16 * 4 + (z % 4 * 64 + w) / 64 = z by omega,
      show (z % 4 * 64 + w) % 64 = w by omega]

/-- **A text is read as a byte string exactly if it is the spelling of it.** -/
theorem decode?_eq_some {cs : List Char} {b : Bytes} : decode? cs = some b ↔ cs = encode b := by
  refine ⟨fun h ↦ (encode_of_decode? h).symm, ?_⟩
  rintro rfl
  exact decode?_encode b

end Shroud.Text.Base64Url
