import Mathlib.Tactic.Common
import Shroud.Text.Lowercase

/-!
# What lower case leaves alone

No character is mapped to one before `a`, unless to itself.  So characters before `A`, such as
digits, signs, dots and brackets, stay as they are, and they come from nothing else.
-/

set_option autoImplicit false

namespace Shroud.Text

/-! ## Single characters -/

/-- The mappings lead to no character before `a`. -/
theorem le_of_mem_lowerRuns {r : CaseRun} (hr : r ∈ lowerRuns) : 0x61 ≤ r.first + r.shift := by
  have hall : (lowerRuns.all fun r ↦ 0x61 ≤ r.first + r.shift) = true := by decide
  exact of_decide_eq_true (List.all_eq_true.mp hall r hr)

theorem toNat_ofNat_cases (n : Nat) : (Char.ofNat n).toNat = n ∨ (Char.ofNat n).toNat = 0 := by
  by_cases h : n.isValidChar
  · refine .inl ?_
    rw [Char.ofNat, dif_pos h]
    rfl
  · refine .inr ?_
    rw [Char.ofNat, dif_neg h]
    rfl

/-- Of the characters of seven bits, the lower case is the same, or not before `a`. -/
theorem toLower_cases {d : Char} (hd : d.toNat < 0x80) :
    d.toLower = d ∨ 0x61 ≤ d.toLower.toNat := by
  have hall : ∀ n < 0x80, (Char.ofNat n).toLower = Char.ofNat n ∨
      0x61 ≤ (Char.ofNat n).toLower.toNat := by decide
  have hcases := hall _ hd
  rwa [Char.ofNat_toNat] at hcases

/-- A character before `a` comes from itself alone. -/
theorem eq_of_lowerChar {c d : Char} (h : lowerChar d = c) (hpos : 0 < c.toNat)
    (hlt : c.toNat < 0x61) : d = c := by
  rw [lowerChar] at h
  split at h
  case isTrue hd =>
    rcases toLower_cases hd with hsame | hle
    · exact hsame.symm.trans h
    · rw [h] at hle
      omega
  case isFalse =>
    split at h
    case h_1 r hr =>
      have hshift := le_of_mem_lowerRuns (List.mem_of_find?_eq_some hr)
      have hfirst : r.first ≤ d.toNat := by
        have hfound := List.find?_some hr
        simp only [Bool.and_eq_true, decide_eq_true_eq] at hfound
        exact hfound.1.1
      rcases toNat_ofNat_cases (d.toNat + r.shift).toNat with hn | hn
      all_goals
        rw [h] at hn
        omega
    case h_2 => exact h

/-- A character before `A` stays as it is. -/
theorem lowerChar_eq_self {c : Char} (h : c.toNat < 0x41) : lowerChar c = c := by
  have hall : ∀ n < 0x41, lowerChar (Char.ofNat n) = Char.ofNat n := by decide
  have hc := hall _ h
  rwa [Char.ofNat_toNat] at hc

/-! ## Texts -/

/-- A character before `a` in the lower case of a text is in the text. -/
theorem mem_of_mem_lowerFrom {c : Char} (hpos : 0 < c.toNat) (hlt : c.toNat < 0x61)
    {before cs : List Char} (h : c ∈ lowerFrom before cs) : c ∈ cs := by
  induction cs generalizing before with
  | nil => exact h
  | cons d rest ih =>
    have hne {e : Char} (he : 0x61 ≤ e.toNat) : c ≠ e := by
      rintro rfl
      omega
    rw [lowerFrom] at h
    rcases List.mem_append.mp h with h | h
    · refine List.mem_cons.mpr (.inl ?_)
      repeat' split at h
      · rcases List.mem_cons.mp h with h | h
        · exact absurd h (hne (by decide))
        · exact absurd (List.mem_singleton.mp h) (hne (by decide))
      · exact absurd (List.mem_singleton.mp h) (hne (by decide))
      · exact absurd (List.mem_singleton.mp h) (hne (by decide))
      · exact (eq_of_lowerChar (List.mem_singleton.mp h).symm hpos hlt).symm
    · exact List.mem_cons_of_mem d (ih h)

theorem mem_of_mem_lowercase {c : Char} {s : String} (hpos : 0 < c.toNat) (hlt : c.toNat < 0x61)
    (h : c ∈ (lowercase s).toList) : c ∈ s.toList := by
  rw [lowercase, String.toList_ofList] at h
  exact mem_of_mem_lowerFrom hpos hlt h

theorem lowerFrom_eq_self {cs : List Char} (h : ∀ c ∈ cs, c.toNat < 0x41) (before : List Char) :
    lowerFrom before cs = cs := by
  induction cs generalizing before with
  | nil => rfl
  | cons c cs ih =>
    have hc := h c List.mem_cons_self
    have hdotted : c ≠ '\u0130' := by
      rintro rfl
      exact absurd hc (by decide)
    have hsigma : c ≠ '\u03a3' := by
      rintro rfl
      exact absurd hc (by decide)
    rw [lowerFrom, if_neg hdotted, if_neg hsigma, lowerChar_eq_self hc,
      ih (fun d hd ↦ h d (List.mem_cons_of_mem c hd))]
    rfl

/-- A text of characters before `A` is its own lower case. -/
theorem lowercase_eq_self {s : String} (h : ∀ c ∈ s.toList, c.toNat < 0x41) : lowercase s = s := by
  rw [lowercase, lowerFrom_eq_self h, String.ofList_toList]

end Shroud.Text
