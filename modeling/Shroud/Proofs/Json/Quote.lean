import Shroud.Json.Quote
import Shroud.Proofs.Json.Grammar

/-!
# Strings that are spelled are read

However a string is spelled, it is read as its characters (`readString?_letters`).  First each
character, or each half of a surrogate pair, is one part of the string; then the parts are joined.

What the printer writes is one spelling (`spellsText_quote`), and there is no control in it.
-/

set_option autoImplicit false

namespace Shroud.Json

/-! ## One character -/

/-- A character that stands for itself is read as it is. -/
theorem readParts?_plain {c : Char} (hquote : c ≠ '"') (hslash : c ≠ '\\') (hlow : ¬ c.toNat < 0x20)
    (acc : List Part) (gs : Glyphs) :
    readParts? acc (some c :: gs) = readParts? (.char c :: acc) gs := by
  rw [readParts?]
  · rw [if_neg hlow]
  all_goals simp_all

theorem readParts?_short {e c : Char} (h : (e, c) ∈ shortEscapes) (acc : List Part)
    (gs : Glyphs) :
    readParts? acc (some '\\' :: some e :: gs) = readParts? (.char c :: acc) gs := by
  simp only [shortEscapes, List.mem_cons, Prod.mk.injEq, List.not_mem_nil, or_false] at h
  rcases h with ⟨rfl, rfl⟩ | ⟨rfl, rfl⟩ | ⟨rfl, rfl⟩ | ⟨rfl, rfl⟩ | ⟨rfl, rfl⟩ | ⟨rfl, rfl⟩ |
    ⟨rfl, rfl⟩ | ⟨rfl, rfl⟩
  all_goals rfl

theorem readParts?_unit {n : Nat} {ds : List Char} (h : UnitDigits n ds) (acc : List Part)
    (gs : Glyphs) :
    readParts? acc (some '\\' :: some 'u' :: (ds.map some ++ gs)) =
      readParts? (.unit n :: acc) gs := by
  obtain ⟨a, b, c, d, rfl, hn⟩ := h
  simp only [List.map_cons, List.map_nil, List.cons_append, List.nil_append, readParts?, hn]

theorem isHigh_iff {n : Nat} : isHigh n = true ↔ 0xd800 ≤ n ∧ n < 0xdc00 := by
  simp [isHigh]

theorem isLow_iff {n : Nat} : isLow n = true ↔ 0xdc00 ≤ n ∧ n < 0xe000 := by
  simp [isLow]

/-- A unit that is no half of a pair is joined to its character. -/
theorem joinParts?_unit {n : Nat} (h : n < 0xd800 ∨ 0xe000 ≤ n) (acc : List Char)
    (ps : List Part) :
    joinParts? acc (.unit n :: ps) = joinParts? (Char.ofNat n :: acc) ps := by
  have hhigh : isHigh n = false := by
    rw [Bool.eq_false_iff, Ne, isHigh_iff]
    omega
  have hlow : isLow n = false := by
    rw [Bool.eq_false_iff, Ne, isLow_iff]
    omega
  -- a unit looks at the next one only to see whether the two are a pair
  cases ps with
  | nil => simp [joinParts?, hhigh, hlow]
  | cons p ps => cases p <;> simp [joinParts?, hhigh, hlow]

theorem joinParts?_pair {n m : Nat} (hn : 0xd800 ≤ n ∧ n < 0xdc00) (hm : 0xdc00 ≤ m ∧ m < 0xe000)
    (acc : List Char) (ps : List Part) :
    joinParts? acc (.unit n :: .unit m :: ps) =
      joinParts? (Char.ofNat (0x10000 + 0x400 * (n - 0xd800) + (m - 0xdc00)) :: acc) ps := by
  rw [joinParts?, isHigh_iff.mpr hn, isLow_iff.mpr hm]
  rfl

/-! ## Whole strings -/

/-- What is spelled between quotes is read as parts, and they are joined to the characters. -/
theorem exists_parts {cs ts : List Char} (h : Letters cs ts) :
    ∃ ps, (∀ acc gs, readParts? acc (ts.map some ++ some '"' :: gs) =
        some (acc.reverse ++ ps, gs)) ∧
      ∀ acc, joinParts? acc ps = some (acc.reverse ++ cs) := by
  induction h with
  | nil => exact ⟨[], fun acc gs ↦ by simp [readParts?], fun acc ↦ by simp [joinParts?]⟩
  | @plain c cs ts hquote hslash hlow _ ih =>
    obtain ⟨ps, hread, hjoin⟩ := ih
    refine ⟨.char c :: ps, fun acc gs ↦ ?_, fun acc ↦ ?_⟩
    · rw [List.map_cons, List.cons_append, readParts?_plain hquote hslash (Nat.not_lt.mpr hlow),
        hread]
      simp
    · simp [joinParts?, hjoin]
  | @short e c cs ts he _ ih =>
    obtain ⟨ps, hread, hjoin⟩ := ih
    refine ⟨.char c :: ps, fun acc gs ↦ ?_, fun acc ↦ ?_⟩
    · rw [List.map_cons, List.map_cons, List.cons_append, List.cons_append, readParts?_short he,
        hread]
      simp
    · simp [joinParts?, hjoin]
  | @unit n ds cs ts hds hn _ ih =>
    obtain ⟨ps, hread, hjoin⟩ := ih
    refine ⟨.unit n :: ps, fun acc gs ↦ ?_, fun acc ↦ ?_⟩
    · rw [List.map_cons, List.map_cons, List.map_append, List.cons_append, List.cons_append,
        List.append_assoc, readParts?_unit hds, hread]
      simp
    · simp [joinParts?_unit hn, hjoin]
  | @pair n m ds es cs ts hds hes hn hm _ ih =>
    obtain ⟨ps, hread, hjoin⟩ := ih
    refine ⟨.unit n :: .unit m :: ps, fun acc gs ↦ ?_, fun acc ↦ ?_⟩
    · simp only [List.map_cons, List.map_append, List.cons_append, List.append_assoc]
      rw [readParts?_unit hds, readParts?_unit hes, hread]
      simp
    · simp [joinParts?_pair hn hm, hjoin]

/-- **A string is read as its characters**, however it is spelled. -/
theorem readString?_letters {s : String} {ts : List Char} (h : Letters s.toList ts)
    (gs : Glyphs) : readString? (ts.map some ++ some '"' :: gs) = some (some s, gs) := by
  obtain ⟨ps, hread, hjoin⟩ := exists_parts h
  simp [readString?, hread, hjoin]

/-! ## Written strings -/

theorem natOfHex?_hexOfNat {n : Nat} (h : n < 0x20) :
    ∃ a b c d, Text.hexOfNat 4 n = [a, b, c, d] ∧ Text.natOfHex? [a, b, c, d] = some n := by
  have hall : ∀ n < 0x20, Text.natOfHex? (Text.hexOfNat 4 n) = some n := by decide
  have hn := hall n h
  simp only [Text.hexOfNat, List.nil_append, List.cons_append] at hn ⊢
  exact ⟨_, _, _, _, rfl, hn⟩

/-- A written character spells itself. -/
theorem letters_escape_append (c : Char) {cs ts : List Char} (h : Letters cs ts) :
    Letters (c :: cs) (escape c ++ ts) := by
  rw [escape]
  split
  case isTrue hc =>
    subst hc
    exact .short (by decide) h
  case isFalse hquote =>
  split
  case isTrue hc =>
    subst hc
    exact .short (by decide) h
  case isFalse hslash =>
  split
  case isTrue hc =>
    subst hc
    exact .short (by decide) h
  split
  case isTrue hc =>
    subst hc
    exact .short (by decide) h
  split
  case isTrue hc =>
    subst hc
    exact .short (by decide) h
  split
  case isTrue hc =>
    subst hc
    exact .short (by decide) h
  split
  case isTrue hc =>
    subst hc
    exact .short (by decide) h
  split
  case isTrue hlow =>
    obtain ⟨w, x, y, z, hdigits, hvalue⟩ := natOfHex?_hexOfNat hlow
    have hunit := Letters.unit (n := c.toNat) ⟨w, x, y, z, hdigits, hdigits ▸ hvalue⟩
      (.inl (Nat.lt_trans hlow (by decide))) h
    rwa [Char.ofNat_toNat] at hunit
  case isFalse hlow => exact .plain hquote hslash (Nat.not_lt.mp hlow) h

theorem letters_flatMap_escape (cs : List Char) : Letters cs (cs.flatMap escape) := by
  induction cs with
  | nil => exact .nil
  | cons c cs ih => exact letters_escape_append c ih

theorem toList_quote (s : String) :
    (quote s).toList = '"' :: (s.toList.flatMap escape ++ ['"']) := by
  simp [quote, escaped]

/-- **A written string is a spelling**, whatever characters it has. -/
theorem spellsText_quote (s : String) : SpellsText s (quote s).toList :=
  ⟨_, letters_flatMap_escape s.toList, toList_quote s⟩

theorem noControls_escape (c : Char) : NoControls (escape c) := by
  by_cases hlow : c.toNat < 0x20
  · have hall : ∀ n < 0x20, (escape (Char.ofNat n)).all (0x20 ≤ ·.toNat) = true := by decide
    have hc := hall _ hlow
    rw [Char.ofNat_toNat] at hc
    exact noControls_of_all hc
  · intro d hd
    have hd : d = '\\' ∨ d = c := by
      rw [escape] at hd
      repeat' split at hd
      all_goals simp_all
    rcases hd with rfl | rfl
    · decide
    · exact Nat.not_lt.mp hlow

/-- **No control is written between quotes.** -/
theorem noControls_quote (s : String) : NoControls (quote s).toList := by
  have hescaped : NoControls (s.toList.flatMap escape) := fun d hd ↦ by
    obtain ⟨c, -, hd⟩ := List.mem_flatMap.mp hd
    exact noControls_escape c d hd
  rw [toList_quote]
  exact .cons (by decide) (.append hescaped (.cons (by decide) noControls_nil))

theorem length_escape_le (c : Char) : (escape c).length ≤ 6 := by
  rw [escape]
  repeat' split
  all_goals simp [Text.hexOfNat]

theorem length_quote_le (s : String) : (quote s).toList.length ≤ 6 * s.toList.length + 2 := by
  have hescaped (cs : List Char) : (cs.flatMap escape).length ≤ 6 * cs.length := by
    induction cs with
    | nil => exact Nat.le_refl _
    | cons c cs ih =>
      have hc := length_escape_le c
      rw [List.flatMap_cons, List.length_append, List.length_cons]
      omega
  have h := hescaped s.toList
  rw [toList_quote, List.length_cons, List.length_append, List.length_singleton]
  omega

end Shroud.Json
