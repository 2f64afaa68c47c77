import Mathlib.Algebra.Group.Nat.Defs
import Shroud.Proofs.Text.Base64Url

/-!
# What a spelling looks like

`Text.Base64Url.encode` is described here from outside, without a look at how it computes.

* The **bits** of a spelling are those of the bytes, six to a character and with zeros behind them
  to fill the last one (`bits_encode`).  That fixes the spelling, since each character of the
  alphabet stands for six bits of its own.
* A text **is** the spelling of some bytes exactly if it looks like one (`exists_encode_iff`): it
  has nothing but characters of the alphabet, no single one is left over behind the groups of four,
  and the last one has zeros in the bits that are not used.

Neither statement is about the reader, but both hold of what it accepts, which is the spellings and
nothing else.
-/

set_option autoImplicit false

namespace Shroud.Text.Base64Url

/-! ## The alphabet -/

/-- The characters in the order of the values they stand for. -/
def alphabet : List Char :=
  "ABCDEFGHIJKLMNOPQRSTUVWXYZabcdefghijklmnopqrstuvwxyz0123456789-_".toList

theorem alphabet_getElem? {n : Nat} (h : n < 64) : alphabet[n]? = some (digit n) := by
  have hall : ∀ n < 64, alphabet[n]? = some (digit n) := by decide
  exact hall n h

theorem mem_alphabet_iff {c : Char} : c ∈ alphabet ↔ ∃ n < 64, c = digit n := by
  have hlength : alphabet.length = 64 := by decide
  constructor
  · intro h
    obtain ⟨n, hn⟩ := List.getElem?_of_mem h
    have hlt : n < 64 := by
      rw [← hlength]
      exact (List.getElem?_eq_some_iff.mp hn).1
    rw [alphabet_getElem? hlt] at hn
    exact ⟨n, hlt, (Option.some.inj hn).symm⟩
  · rintro ⟨n, hn, rfl⟩
    exact List.mem_of_getElem? (alphabet_getElem? hn)

/-- The characters of the alphabet are those that have a value. -/
theorem mem_alphabet_iff_value? {c : Char} : c ∈ alphabet ↔ ∃ n, value? c = some n := by
  rw [mem_alphabet_iff]
  constructor
  · rintro ⟨n, hn, rfl⟩
    exact ⟨n, value?_digit hn⟩
  · rintro ⟨n, hn⟩
    obtain ⟨hlt, rfl⟩ := digit_of_value? hn
    exact ⟨n, hlt, rfl⟩

/-- The characters whose last two bits are zero. -/
def endsOfThree : List Char := "AEIMQUYcgkosw048".toList

/-- The characters whose last four bits are zero. -/
def endsOfTwo : List Char := "AQgw".toList

theorem digit_mem_endsOfThree {n : Nat} (h : n < 64) : digit n ∈ endsOfThree ↔ n % 4 = 0 := by
  have hall : ∀ n < 64, digit n ∈ endsOfThree ↔ n % 4 = 0 := by decide
  exact hall n h

theorem digit_mem_endsOfTwo {n : Nat} (h : n < 64) : digit n ∈ endsOfTwo ↔ n % 16 = 0 := by
  have hall : ∀ n < 64, digit n ∈ endsOfTwo ↔ n % 16 = 0 := by decide
  exact hall n h

/-! ## Bits -/

/-- The last `n` bits of a number, the highest first. -/
def bits : Nat → Nat → List Bool
  | 0, _ => []
  | n + 1, x => x.testBit n :: bits n x

/-- The bits of some bytes. -/
def byteBits (b : Bytes) : List Bool := b.flatMap fun x ↦ bits 8 x.toNat

/-- The bits of some characters: each has the six bits of its place in the alphabet. -/
def charBits (cs : List Char) : List Bool := cs.flatMap fun c ↦ bits 6 (alphabet.idxOf c)

theorem idxOf_digit {n : Nat} (h : n < 64) : alphabet.idxOf (digit n) = n := by
  have hall : ∀ n < 64, alphabet.idxOf (digit n) = n := by decide
  exact hall n h

theorem charBits_digit {n : Nat} (h : n < 64) (cs : List Char) :
    charBits (digit n :: cs) = bits 6 n ++ charBits cs := by
  rw [charBits, List.flatMap_cons, idxOf_digit h]
  rfl

theorem byteBits_cons (x : UInt8) (b : Bytes) : byteBits (x :: b) = bits 8 x.toNat ++ byteBits b :=
  rfl

/-- What is further up in a number has no part in its last bits. -/
theorem bits_congr {n x y : Nat} (h : x % 2 ^ n = y % 2 ^ n) : bits n x = bits n y := by
  have hbit : ∀ i < n, x.testBit i = y.testBit i := by
    intro i hi
    have hmod := congrArg (Nat.testBit · i) h
    simpa [Nat.testBit_mod_two_pow, hi] using hmod
  clear h
  induction n with
  | zero => rfl
  | succ n ih =>
    rw [bits, bits, hbit n (Nat.lt_succ_self n), ih fun i hi ↦ hbit i (Nat.lt_succ_of_lt hi)]

theorem bits_zero (n : Nat) : bits n 0 = List.replicate n false := by
  induction n with
  | zero => rfl
  | succ n ih => rw [bits, ih, Nat.zero_testBit, List.replicate_succ]

theorem bits_add (n k x : Nat) : bits (n + k) x = bits n (x / 2 ^ k) ++ bits k x := by
  induction n with
  | zero => rw [Nat.zero_add, bits, List.nil_append]
  | succ n ih => rw [Nat.succ_add, bits, bits, ih, Nat.testBit_div_two_pow, List.cons_append]

/-- The bits of two numbers, one behind the other, are those of one number. -/
theorem bits_append (n : Nat) {k a b : Nat} (h : b < 2 ^ k) :
    bits n a ++ bits k b = bits (n + k) (a * 2 ^ k + b) := by
  have hhigh : (a * 2 ^ k + b) / 2 ^ k = a := by
    rw [Nat.mul_comm, Nat.mul_add_div (Nat.two_pow_pos k), Nat.div_eq_of_lt h, Nat.add_zero]
  have hlow : (a * 2 ^ k + b) % 2 ^ k = b % 2 ^ k := Nat.mul_add_mod_self_right a (2 ^ k) b
  rw [bits_add, hhigh, bits_congr hlow]

/-- Three bytes and four characters have the same bits. -/
theorem bits_group {x y z : Nat} (hy : y < 256) (hz : z < 256) :
    bits 6 (x / 4) ++ (bits 6 (x % 4 * 16 + y / 16) ++ (bits 6 (y % 16 * 4 + z / 64) ++
      bits 6 (z % 64))) = bits 8 x ++ (bits 8 y ++ bits 8 z) := by
  have hchars : x / 4 * 2 ^ 18 + ((x % 4 * 16 + y / 16) * 2 ^ 12 + ((y % 16 * 4 + z / 64) * 2 ^ 6 +
      z % 64)) = x * 2 ^ 16 + (y * 2 ^ 8 + z) := by omega
  rw [bits_append 6 (by omega), bits_append 6 (by omega), bits_append 6 (by omega),
    bits_append 8 (by omega), bits_append 8 (by omega), hchars]

/-- **The bits of a spelling are those of the bytes**, with less than six zeros behind them. -/
theorem bits_encode (b : Bytes) :
    ∃ k < 6, charBits (encode b) = byteBits b ++ List.replicate k false := by
  fun_induction encode b with
  | case1 => exact ⟨0, by decide, rfl⟩
  | case2 x =>
    have hx := x.toNat_lt
    have hchars : x.toNat / 4 * 2 ^ 6 + x.toNat % 4 * 16 = x.toNat * 2 ^ 4 + 0 := by omega
    have hbits : bits 6 (x.toNat / 4) ++ bits 6 (x.toNat % 4 * 16) =
        bits 8 x.toNat ++ bits 4 0 := by
      rw [bits_append 6 (by omega), bits_append 8 (by omega), hchars]
    refine ⟨4, by decide, ?_⟩
    rw [charBits_digit (by omega), charBits_digit (by omega)]
    simpa [charBits, byteBits, bits_zero] using hbits
  | case3 x y =>
    have hx := x.toNat_lt
    have hy := y.toNat_lt
    have hchars : x.toNat / 4 * 2 ^ 12 + ((x.toNat % 4 * 16 + y.toNat / 16) * 2 ^ 6 +
        y.toNat % 16 * 4) = x.toNat * 2 ^ 10 + (y.toNat * 2 ^ 2 + 0) := by omega
    have hbits : bits 6 (x.toNat / 4) ++ (bits 6 (x.toNat % 4 * 16 + y.toNat / 16) ++
        bits 6 (y.toNat % 16 * 4)) = bits 8 x.toNat ++ (bits 8 y.toNat ++ bits 2 0) := by
      rw [bits_append 6 (by omega), bits_append 6 (by omega), bits_append 8 (by omega),
        bits_append 8 (by omega), hchars]
    refine ⟨2, by decide, ?_⟩
    rw [charBits_digit (by omega), charBits_digit (by omega), charBits_digit (by omega)]
    simpa [charBits, byteBits, bits_zero] using hbits
  | case4 x y z rest ih =>
    have hx := x.toNat_lt
    have hy := y.toNat_lt
    have hz := z.toNat_lt
    obtain ⟨k, hk, hrest⟩ := ih
    refine ⟨k, hk, ?_⟩
    rw [charBits_digit (by omega), charBits_digit (by omega), charBits_digit (by omega),
      charBits_digit (by omega), hrest, byteBits_cons, byteBits_cons, byteBits_cons]
    have hgroup := bits_group (x := x.toNat) hy hz
    simp only [← List.append_assoc] at hgroup ⊢
    rw [hgroup]

/-! ## The form of a spelling -/

theorem length_encode (b : Bytes) : (encode b).length = (8 * b.length + 5) / 6 := by
  fun_induction encode b with
  | case1 => rfl
  | case2 => simp
  | case3 => simp
  | case4 x y z rest ih =>
    simp only [List.length_cons, ih]
    omega

/-- A text looks like the spelling of some bytes. -/
structure IsSpelling (cs : List Char) : Prop where
  /-- It has nothing but characters of the alphabet. -/
  letters : ∀ c ∈ cs, c ∈ alphabet
  /-- No single character is left over behind the groups of four. -/
  length : cs.length % 4 ≠ 1
  /-- If two are left over, four bits of the last one are not used. -/
  two : cs.length % 4 = 2 → ∀ c ∈ cs.getLast?, c ∈ endsOfTwo
  /-- If three are left over, two bits of the last one are not used. -/
  three : cs.length % 4 = 3 → ∀ c ∈ cs.getLast?, c ∈ endsOfThree

theorem mem_endsOfThree_iff {c : Char} {n : Nat} (h : value? c = some n) :
    c ∈ endsOfThree ↔ n % 4 = 0 := by
  obtain ⟨hlt, rfl⟩ := digit_of_value? h
  exact digit_mem_endsOfThree hlt

theorem mem_endsOfTwo_iff {c : Char} {n : Nat} (h : value? c = some n) :
    c ∈ endsOfTwo ↔ n % 16 = 0 := by
  obtain ⟨hlt, rfl⟩ := digit_of_value? h
  exact digit_mem_endsOfTwo hlt

/-- A spelling behind a group of four is a spelling. -/
theorem isSpelling_cons {c d e f : Char} {cs : List Char} :
    IsSpelling (c :: d :: e :: f :: cs) ↔ (∀ g ∈ [c, d, e, f], g ∈ alphabet) ∧ IsSpelling cs := by
  have hlength : (c :: d :: e :: f :: cs).length % 4 = cs.length % 4 := by
    simp only [List.length_cons]
    omega
  have hlast : cs.length % 4 ≠ 0 → (c :: d :: e :: f :: cs).getLast? = cs.getLast? := by
    intro hcs
    have hne : cs ≠ [] := by
      rintro rfl
      exact hcs rfl
    simp [List.getLast?_cons, List.getLast?_eq_some_getLast hne]
  constructor
  · rintro ⟨hletters, hone, htwo, hthree⟩
    rw [hlength] at hone htwo hthree
    refine ⟨fun g hg ↦ hletters g ?_, fun g hg ↦ hletters g ?_, hone, fun h ↦ ?_, fun h ↦ ?_⟩
    · exact List.mem_append_left cs hg
    · exact List.mem_append_right [c, d, e, f] hg
    · rw [← hlast (by omega)]
      exact htwo h
    · rw [← hlast (by omega)]
      exact hthree h
  · rintro ⟨hgroup, hletters, hone, htwo, hthree⟩
    refine ⟨fun g hg ↦ ?_, hlength ▸ hone, fun h ↦ ?_, fun h ↦ ?_⟩
    · rcases List.mem_append.mp (show g ∈ [c, d, e, f] ++ cs from hg) with hg | hg
      · exact hgroup g hg
      · exact hletters g hg
    · rw [hlength] at h
      rw [hlast (by omega)]
      exact htwo h
    · rw [hlength] at h
      rw [hlast (by omega)]
      exact hthree h

theorem isSpelling_two {c d : Char} :
    IsSpelling [c, d] ↔ c ∈ alphabet ∧ d ∈ alphabet ∧ d ∈ endsOfTwo := by
  constructor
  · intro h
    exact ⟨h.letters c (by simp), h.letters d (by simp), h.two rfl d rfl⟩
  · rintro ⟨hc, hd, htwo⟩
    refine ⟨by simp [hc, hd], by simp, ?_, by simp⟩
    intro _ e he
    obtain rfl := Option.some.inj he
    exact htwo

theorem isSpelling_three {c d e : Char} :
    IsSpelling [c, d, e] ↔ c ∈ alphabet ∧ d ∈ alphabet ∧ e ∈ alphabet ∧ e ∈ endsOfThree := by
  constructor
  · intro h
    exact ⟨h.letters c (by simp), h.letters d (by simp), h.letters e (by simp), h.three rfl e rfl⟩
  · rintro ⟨hc, hd, he, hthree⟩
    refine ⟨by simp [hc, hd, he], by simp, by simp, ?_⟩
    intro _ f hf
    obtain rfl := Option.some.inj hf
    exact hthree

/-- A spelling looks like one. -/
theorem isSpelling_encode (b : Bytes) : IsSpelling (encode b) := by
  have hdigit : ∀ {n : Nat}, n < 64 → digit n ∈ alphabet := fun hn ↦
    mem_alphabet_iff.mpr ⟨_, hn, rfl⟩
  fun_induction encode b with
  | case1 => constructor <;> simp
  | case2 x =>
    have hx := x.toNat_lt
    refine isSpelling_two.mpr ⟨hdigit (by omega), hdigit (by omega), ?_⟩
    exact (digit_mem_endsOfTwo (by omega)).mpr (by omega)
  | case3 x y =>
    have hx := x.toNat_lt
    have hy := y.toNat_lt
    refine isSpelling_three.mpr ⟨hdigit (by omega), hdigit (by omega), hdigit (by omega), ?_⟩
    exact (digit_mem_endsOfThree (by omega)).mpr (by omega)
  | case4 x y z rest ih =>
    have hx := x.toNat_lt
    have hy := y.toNat_lt
    have hz := z.toNat_lt
    refine isSpelling_cons.mpr ⟨?_, ih⟩
    simp only [List.mem_cons, List.not_mem_nil, or_false, forall_eq_or_imp, forall_eq]
    exact ⟨hdigit (by omega), hdigit (by omega), hdigit (by omega), hdigit (by omega)⟩

/-- What looks like a spelling is read. -/
theorem isSome_decode? {cs : List Char} (h : IsSpelling cs) : (decode? cs).isSome := by
  fun_induction decode? cs with
  | case1 => rfl
  | case2 c => exact absurd rfl h.length
  | case3 c d =>
    obtain ⟨hc, hd, hends⟩ := isSpelling_two.mp h
    obtain ⟨x, hx⟩ := mem_alphabet_iff_value?.mp hc
    obtain ⟨y, hy⟩ := mem_alphabet_iff_value?.mp hd
    simp [hx, hy, (mem_endsOfTwo_iff hy).mp hends]
  | case4 c d e =>
    obtain ⟨hc, hd, he, hends⟩ := isSpelling_three.mp h
    obtain ⟨x, hx⟩ := mem_alphabet_iff_value?.mp hc
    obtain ⟨y, hy⟩ := mem_alphabet_iff_value?.mp hd
    obtain ⟨z, hz⟩ := mem_alphabet_iff_value?.mp he
    simp [hx, hy, hz, (mem_endsOfThree_iff hz).mp hends]
  | case5 c d e f rest ih =>
    obtain ⟨hgroup, hrest⟩ := isSpelling_cons.mp h
    obtain ⟨x, hx⟩ := mem_alphabet_iff_value?.mp (hgroup c (by simp))
    obtain ⟨y, hy⟩ := mem_alphabet_iff_value?.mp (hgroup d (by simp))
    obtain ⟨z, hz⟩ := mem_alphabet_iff_value?.mp (hgroup e (by simp))
    obtain ⟨w, hw⟩ := mem_alphabet_iff_value?.mp (hgroup f (by simp))
    obtain ⟨b, hb⟩ := Option.isSome_iff_exists.mp (ih hrest)
    simp [hx, hy, hz, hw, hb]

/-- **A text is a spelling exactly if it looks like one.** -/
theorem exists_encode_iff {cs : List Char} : (∃ b, cs = encode b) ↔ IsSpelling cs := by
  constructor
  · rintro ⟨b, rfl⟩
    exact isSpelling_encode b
  · intro h
    obtain ⟨b, hb⟩ := Option.isSome_iff_exists.mp (isSome_decode? h)
    exact ⟨b, decode?_eq_some.mp hb⟩

/-- Sixteen characters of the alphabet are the spelling of twelve bytes, and so is nothing else. -/
theorem exists_encode_of_twelve_iff {cs : List Char} :
    (∃ b : Bytes, b.length = 12 ∧ cs = encode b) ↔ cs.length = 16 ∧ ∀ c ∈ cs, c ∈ alphabet := by
  constructor
  · rintro ⟨b, hb, rfl⟩
    refine ⟨?_, (isSpelling_encode b).letters⟩
    rw [length_encode, hb]
  · rintro ⟨hlength, hletters⟩
    have hcs : IsSpelling cs := by
      refine ⟨hletters, ?_, ?_, ?_⟩ <;> simp [hlength]
    obtain ⟨b, rfl⟩ := exists_encode_iff.mpr hcs
    rw [length_encode] at hlength
    exact ⟨b, by omega, rfl⟩

end Shroud.Text.Base64Url
