import Shroud.Json.Writing
import Shroud.Proofs.Json.Grammar

/-!
# Numerals that are spelled are read

The reader of numbers takes the spellings of the grammar and no others (`Numeral.read?_of_spelled`,
`Numeral.exists_spelled_of_read?`).  What follows a numeral must not continue it.

An integer of eight bytes is spelled by its decimal digits, and these stand for it
(`spellsNumber_int`).
-/

set_option autoImplicit false

namespace Shroud.Json

/-! ## Digits -/

theorem digits_append {cs : List Char} (h : AllDigits cs) {gs : Glyphs}
    (hgs : ∀ g ∈ gs.head?, isDigit g = false) :
    digits (cs.map some ++ gs) = values cs ∧ afterDigits (cs.map some ++ gs) = gs := by
  have hdigits : ∀ g ∈ cs.map some, isDigit g = true := by
    intro g hg
    obtain ⟨c, hc, rfl⟩ := List.mem_map.mp hg
    exact h c hc
  have hrest : gs.takeWhile isDigit = [] ∧ gs.dropWhile isDigit = gs := by
    cases gs with
    | nil => exact ⟨rfl, rfl⟩
    | cons g gs =>
      have hg := hgs g rfl
      simp [hg]
  rw [digits, afterDigits, List.takeWhile_append_of_pos hdigits,
    List.dropWhile_append_of_pos hdigits, hrest.1, hrest.2, List.append_nil, List.filterMap_map]
  exact ⟨congrFun List.filterMap_eq_map cs, rfl⟩

/-- A text starts with the digits that are read. -/
theorem exists_digits (gs : Glyphs) :
    ∃ cs, AllDigits cs ∧ digits gs = values cs ∧ gs = cs.map some ++ afterDigits gs := by
  induction gs with
  | nil => exact ⟨[], nofun, rfl, rfl⟩
  | cons g gs ih =>
    by_cases hg : isDigit g = true
    · cases g with
      | none => cases hg
      | some c =>
        obtain ⟨cs, hcs, hdigits, hgs⟩ := ih
        refine ⟨c :: cs, List.forall_mem_cons.mpr ⟨hg, hcs⟩, ?_, ?_⟩
        · rw [digits] at hdigits
          rw [digits, List.takeWhile_cons_of_pos hg]
          exact congrArg (_ :: ·) hdigits
        · rw [afterDigits, List.dropWhile_cons_of_pos hg]
          exact congrArg (some c :: ·) hgs
    · exact ⟨[], nofun, by rw [digits, List.takeWhile_cons_of_neg hg]; rfl,
        by rw [afterDigits, List.dropWhile_cons_of_neg hg]; rfl⟩

theorem isEmpty_values {cs : List Char} (h : cs ≠ []) : (values cs).isEmpty = false := by
  cases cs with
  | nil => exact absurd rfl h
  | cons c cs => rfl

/-- What may stand behind a value: nothing, a blank, a comma, or a bracket that closes. -/
def Ends (gs : Glyphs) : Prop :=
  ∀ g ∈ gs.head?, isSpace g = true ∨ g = some ',' ∨ g = some ']' ∨ g = some '\x7d'

/-- What ends a value does not go on as a number. -/
theorem Ends.head {gs : Glyphs} (h : Ends gs) {g : Option Char} (hg : g ∈ gs.head?) :
    isDigit g = false ∧ g ≠ some '.' ∧ g ≠ some 'e' ∧ g ≠ some 'E' := by
  have hcases : g = some ' ' ∨ g = some '\n' ∨ g = some '\t' ∨ g = some '\r' ∨ g = some ',' ∨
      g = some ']' ∨ g = some '\x7d' := by
    have hg := h g hg
    simp only [isSpace, Bool.or_eq_true, beq_iff_eq, or_assoc] at hg
    exact hg
  rcases hcases with rfl | rfl | rfl | rfl | rfl | rfl | rfl
  all_goals decide

namespace Numeral

/-! ## Parts of a numeral -/

variable {cs fs es : List Char} {fraction : List Nat} {exponent : Option (Bool × List Nat)}
  {gs : Glyphs}

theorem Whole.allDigits (h : Whole cs) : AllDigits cs := by
  cases h with
  | zero => exact List.forall_mem_singleton.mpr (by decide)
  | other _ h => exact h

theorem Whole.exists_head (h : Whole cs) : ∃ c cs', cs = c :: cs' ∧ c.isDigit = true := by
  cases h with
  | zero => exact ⟨_, _, rfl, by decide⟩
  | other _ h => exact ⟨_, _, rfl, h _ List.mem_cons_self⟩

theorem le_toNat_of_isDigit {c : Char} (h : c.isDigit = true) : 48 ≤ c.toNat := by
  simp only [Char.isDigit, Bool.and_eq_true, decide_eq_true_eq] at h
  exact UInt32.le_iff_toNat_le.mp h.1

/-- A digit of value zero is the zero. -/
theorem eq_zero_of_isDigit {c : Char} (h : c.isDigit = true) (hvalue : c.toNat - '0'.toNat = 0) :
    c = '0' := by
  have hle := le_toNat_of_isDigit h
  have hc : c.toNat = '0'.toNat := Nat.le_antisymm (Nat.le_of_sub_eq_zero hvalue) hle
  rw [← Char.ofNat_toNat c, hc]
  rfl

theorem wholeOk_iff (h : AllDigits cs) : wholeOk (values cs) = true ↔ Whole cs := by
  constructor
  · intro hok
    match cs, h with
    | [], _ => cases hok
    | [c], h =>
      by_cases hc : c = '0'
      · exact hc ▸ .zero
      · exact .other hc h
    | c :: d :: cs, h =>
      refine .other (fun hc ↦ ?_) h
      subst hc
      cases hok
  · intro hw
    cases hw with
    | zero => rfl
    | @other c cs hc h =>
      have hvalue : c.toNat - '0'.toNat ≠ 0 := fun hzero ↦
        hc (eq_zero_of_isDigit (h c List.mem_cons_self) hzero)
      obtain ⟨k, hk⟩ := Nat.exists_eq_succ_of_ne_zero hvalue
      rw [values, List.map_cons, hk]
      rfl

theorem readFraction?_of_fraction (h : Fraction fraction fs)
    (hgs : ∀ g ∈ gs.head?, isDigit g = false ∧ g ≠ some '.') :
    readFraction? (fs.map some ++ gs) = some (fraction, gs) := by
  cases h with
  | absent =>
    rw [List.map_nil, List.nil_append, readFraction?]
    intro gs' hgs'
    subst hgs'
    exact (hgs _ rfl).2 rfl
  | @digits cs hne hcs =>
    obtain ⟨hdigits, hafter⟩ := digits_append hcs fun g hg ↦ (hgs g hg).1
    rw [List.map_cons, List.cons_append, readFraction?, hdigits, hafter, isEmpty_values hne]
    rfl

theorem exists_fraction {gs rest : Glyphs} (h : readFraction? gs = some (fraction, rest)) :
    ∃ fs, Fraction fraction fs ∧ gs = fs.map some ++ rest := by
  rw [readFraction?.eq_def] at h
  split at h
  · rename_i gs
    obtain ⟨cs, hcs, hdigits, hgs⟩ := exists_digits gs
    split at h
    · cases h
    · rename_i hempty
      cases h
      refine ⟨'.' :: cs, hdigits ▸ .digits (fun hnil ↦ hempty ?_) hcs, congrArg (some '.' :: ·) hgs⟩
      rw [hdigits, hnil]
      rfl
  · cases h
    exact ⟨[], .absent, rfl⟩

theorem readSign_of_sign {negative : Bool} {s : List Char} (h : Sign negative s) (hne : cs ≠ [])
    (hcs : AllDigits cs) (gs : Glyphs) :
    readSign (s.map some ++ (cs.map some ++ gs)) = (negative, cs.map some ++ gs) := by
  cases h with
  | plus => rfl
  | minus => rfl
  | absent =>
    match cs, hne with
    | c :: cs, _ =>
      have hc := hcs c List.mem_cons_self
      rw [List.map_nil, List.nil_append, List.map_cons, List.cons_append, readSign]
      · rintro gs heq
        cases heq
        exact absurd hc (by decide)
      · rintro gs heq
        cases heq
        exact absurd hc (by decide)

theorem exists_sign (gs : Glyphs) :
    ∃ s, Sign (readSign gs).1 s ∧ gs = s.map some ++ (readSign gs).2 := by
  rw [readSign.eq_def]
  split
  · exact ⟨_, .minus, rfl⟩
  · exact ⟨_, .plus, rfl⟩
  · exact ⟨_, .absent, rfl⟩

theorem readExponent?_of_exponent (h : Exponent exponent es) (hgs : Ends gs) :
    readExponent? (es.map some ++ gs) = some (exponent, gs) := by
  cases h with
  | absent =>
    match gs, hgs with
    | [], _ => rfl
    | none :: gs, _ => rfl
    | some c :: gs, hgs =>
      obtain ⟨-, -, he, hE⟩ := hgs.head rfl
      have hc : ¬ (c = 'e' ∨ c = 'E') := by
        rintro (rfl | rfl)
        · exact he rfl
        · exact hE rfl
      rw [List.map_nil, List.nil_append, readExponent?, if_neg hc]
  | @digits e negative s cs he hs hne hcs =>
    obtain ⟨hdigits, hafter⟩ := digits_append hcs fun g hg ↦ (hgs.head hg).1
    rw [List.map_cons, List.cons_append, List.map_append, List.append_assoc, readExponent?,
      if_pos he, readSign_of_sign hs hne hcs]
    simp only [hdigits, hafter, isEmpty_values hne]
    rfl

theorem exists_exponent {gs rest : Glyphs} (h : readExponent? gs = some (exponent, rest)) :
    ∃ es, Exponent exponent es ∧ gs = es.map some ++ rest := by
  rw [readExponent?.eq_def] at h
  split at h
  · rename_i c gs
    split at h
    · rename_i he
      obtain ⟨s, hs, hsign⟩ := exists_sign gs
      obtain ⟨cs, hcs, hdigits, hgs⟩ := exists_digits (readSign gs).2
      simp only at h
      split at h
      · cases h
      · rename_i hempty
        cases h
        refine ⟨c :: (s ++ cs), hdigits ▸ .digits he hs (fun hnil ↦ hempty ?_) hcs, ?_⟩
        · rw [hdigits, hnil]
          rfl
        · rw [List.map_cons, List.map_append, List.cons_append, List.append_assoc, ← hgs, ← hsign]
    · cases h
      exact ⟨[], .absent, rfl⟩
  · cases h
    exact ⟨[], .absent, rfl⟩

/-! ## Whole numerals -/

theorem Exponent.head (h : Exponent exponent es) (hgs : Ends gs) :
    ∀ g ∈ (es.map some ++ gs).head?, isDigit g = false ∧ g ≠ some '.' := by
  intro g hg
  cases h with
  | absent =>
    obtain ⟨hdigit, hpoint, -⟩ := hgs.head hg
    exact ⟨hdigit, hpoint⟩
  | digits he _ _ _ =>
    obtain rfl := Option.some.inj hg
    rcases he with rfl | rfl
    all_goals decide

theorem Fraction.head (h : Fraction fraction fs)
    (hgs : ∀ g ∈ gs.head?, isDigit g = false ∧ g ≠ some '.') :
    ∀ g ∈ (fs.map some ++ gs).head?, isDigit g = false := by
  intro g hg
  cases h with
  | absent => exact (hgs g hg).1
  | digits _ _ =>
    obtain rfl := Option.some.inj hg
    rfl

theorem Spelled.exists_head {x : Numeral} (h : x.Spelled cs) :
    ∃ c cs', cs = c :: cs' ∧ (c = '-' ∨ c.isDigit = true) := by
  obtain @⟨whole, fs, es, _, _, negative, hwhole, -, -⟩ := h
  cases negative with
  | true => exact ⟨'-', _, rfl, .inl rfl⟩
  | false =>
    obtain ⟨c, cs', rfl, hc⟩ := hwhole.exists_head
    exact ⟨c, _, rfl, .inr hc⟩

theorem noControls_of_allDigits (h : AllDigits cs) : NoControls cs :=
  fun c hc ↦ Nat.le_trans (by decide) (le_toNat_of_isDigit (h c hc))

theorem Spelled.noControls {x : Numeral} (h : x.Spelled cs) : NoControls cs := by
  obtain @⟨whole, fs, es, _, _, negative, hwhole, hfraction, hexponent⟩ := h
  refine .append ?_ (.append (noControls_of_allDigits hwhole.allDigits) (.append ?_ ?_))
  · cases negative with
    | true => exact .cons (by decide) noControls_nil
    | false => exact noControls_nil
  · cases hfraction with
    | absent => exact noControls_nil
    | digits _ h => exact .cons (by decide) (noControls_of_allDigits h)
  · cases hexponent with
    | absent => exact noControls_nil
    | digits he hs _ h =>
      refine .cons ?_ (.append ?_ (noControls_of_allDigits h))
      · rcases he with rfl | rfl
        all_goals decide
      · cases hs with
        | absent => exact noControls_nil
        | plus => exact .cons (by decide) noControls_nil
        | minus => exact .cons (by decide) noControls_nil

/-- A numeral after its sign. -/
def readUnsigned? (negative : Bool) (gs : Glyphs) : Option (Numeral × Glyphs) := do
  if wholeOk (digits gs) then
    let (fraction, rest) ← readFraction? (afterDigits gs)
    let (exponent, rest) ← readExponent? rest
    return (⟨negative, digits gs, fraction, exponent⟩, rest)
  else none

theorem read?_minus (gs : Glyphs) : read? (some '-' :: gs) = readUnsigned? true gs := rfl

theorem read?_of_ne {gs : Glyphs} (h : some '-' ∉ gs.head?) :
    read? gs = readUnsigned? false gs := by
  match gs, h with
  | [], _ => rfl
  | none :: _, _ => rfl
  | some c :: gs, h =>
    have hc : c ≠ '-' := fun hc ↦ h (hc ▸ rfl)
    rw [read?.eq_def]
    split
    rename_i heq
    split at heq
    · rename_i h'
      cases h'
      exact absurd rfl hc
    · cases heq
      rfl

/-- **A spelled numeral is read**, whatever stands behind it. -/
theorem read?_of_spelled {x : Numeral} (h : x.Spelled cs) (hgs : Ends gs) :
    read? (cs.map some ++ gs) = some (x, gs) := by
  obtain @⟨whole, fs, es, fraction, exponent, negative, hwhole, hfraction, hexponent⟩ := h
  have hpoint := hexponent.head hgs
  obtain ⟨hdigits, hafter⟩ := digits_append hwhole.allDigits (hfraction.head hpoint)
  have hunsigned : readUnsigned? negative (whole.map some ++ (fs.map some ++
      (es.map some ++ gs))) = some (⟨negative, values whole, fraction, exponent⟩, gs) := by
    rw [readUnsigned?, hdigits, hafter, if_pos ((wholeOk_iff hwhole.allDigits).mpr hwhole),
      readFraction?_of_fraction hfraction hpoint]
    simp only [Option.bind_eq_bind, Option.bind_some, readExponent?_of_exponent hexponent hgs]
    rfl
  simp only [List.map_append, List.append_assoc]
  cases negative with
  | true => exact hunsigned
  | false =>
    refine (read?_of_ne fun hminus ↦ ?_).trans hunsigned
    obtain ⟨c, cs', rfl, hc⟩ := hwhole.exists_head
    cases hminus
    exact absurd hc (by decide)

theorem exists_unsigned {negative : Bool} {gs rest : Glyphs} {x : Numeral}
    (h : readUnsigned? negative gs = some (x, rest)) :
    ∃ whole fs es fraction exponent, Whole whole ∧ Fraction fraction fs ∧ Exponent exponent es ∧
      x = ⟨negative, values whole, fraction, exponent⟩ ∧
      gs = whole.map some ++ (fs.map some ++ (es.map some ++ rest)) := by
  obtain ⟨whole, hwhole, hdigits, hgs⟩ := exists_digits gs
  rw [readUnsigned?] at h
  split at h
  · rename_i hok
    rw [hdigits, wholeOk_iff hwhole] at hok
    obtain ⟨⟨fraction, rest₁⟩, hfraction, h⟩ := Option.bind_eq_some_iff.mp h
    obtain ⟨⟨exponent, rest₂⟩, hexponent, h⟩ := Option.bind_eq_some_iff.mp h
    obtain ⟨rfl, rfl⟩ := Prod.mk.inj (Option.some.inj h)
    obtain ⟨fs, hfs, hfraction⟩ := exists_fraction hfraction
    obtain ⟨es, hes, hexponent⟩ := exists_exponent hexponent
    exact ⟨whole, fs, es, fraction, exponent, hok, hfs, hes, by rw [hdigits],
      by rw [← hexponent, ← hfraction, ← hgs]⟩
  · cases h

/-- **What is read as a numeral is spelled as one.** -/
theorem exists_spelled_of_read? {gs rest : Glyphs} {x : Numeral} (h : read? gs = some (x, rest)) :
    ∃ cs, x.Spelled cs ∧ gs = cs.map some ++ rest := by
  by_cases hminus : some '-' ∈ gs.head?
  · obtain ⟨gs, rfl⟩ := List.head?_eq_some_iff.mp hminus
    rw [read?_minus] at h
    obtain ⟨whole, fs, es, fraction, exponent, hwhole, hfs, hes, rfl, rfl⟩ := exists_unsigned h
    exact ⟨_, .mk true hwhole hfs hes, by simp⟩
  · rw [read?_of_ne hminus] at h
    obtain ⟨whole, fs, es, fraction, exponent, hwhole, hfs, hes, rfl, rfl⟩ := exists_unsigned h
    exact ⟨_, .mk false hwhole hfs hes, by simp⟩

/-! ## Integers -/

theorem le_ofDigitChars (cs : List Char) (n : Nat) : n ≤ Nat.ofDigitChars 10 cs n := by
  induction cs generalizing n with
  | nil => exact Nat.le_refl n
  | cons c cs ih =>
    rw [Nat.ofDigitChars_cons]
    exact Nat.le_trans (by omega) (ih _)

/-- Digits that make less than eight bytes are all absorbed. -/
theorem absorb_values {cs : List Char} {n : Nat} (h : Nat.ofDigitChars 10 cs n < wordLimit) :
    absorb n (values cs) = (Nat.ofDigitChars 10 cs n, cs.length) := by
  induction cs generalizing n with
  | nil => rfl
  | cons c cs ih =>
    rw [Nat.ofDigitChars_cons] at h ⊢
    have hlt := Nat.lt_of_le_of_lt (le_ofDigitChars cs _) h
    rw [values, List.map_cons, absorb, if_pos hlt]
    exact congrArg (fun r : Nat × Nat ↦ (r.1, r.2 + 1)) (ih h)

theorem exists_head_toDigits {n : Nat} (h : n ≠ 0) :
    ∃ c cs, Nat.toDigits 10 n = c :: cs ∧ c ≠ '0' := by
  induction n using Nat.strongRecOn with
  | ind n ih =>
    by_cases hn : n < 10
    · exact ⟨_, [], Nat.toDigits_of_lt_base hn, mt Nat.digitChar_eq_zero.mp h⟩
    · obtain ⟨c, cs, hcs, hc⟩ := ih (n / 10) (by omega) (by omega)
      exact ⟨c, _, by rw [Nat.toDigits_of_base_le (by decide) (Nat.not_lt.mp hn), hcs]; rfl, hc⟩

theorem whole_toDigits (n : Nat) : Whole (Nat.toDigits 10 n) := by
  by_cases hn : n = 0
  · exact hn ▸ .zero
  · obtain ⟨c, cs, hcs, hc⟩ := exists_head_toDigits hn
    rw [hcs]
    refine .other hc fun d hd ↦ ?_
    exact Nat.isDigit_of_mem_toDigits (by decide) (Nat.le_refl 10) (hcs ▸ hd)

/-- The decimal numeral of an integer. -/
def ofInt (n : Int) : Numeral := ⟨decide (n < 0), values (Nat.toDigits 10 n.natAbs), [], none⟩

theorem toList_toString_int (n : Int) :
    (toString n).toList = (if decide (n < 0) then ['-'] else []) ++ Nat.toDigits 10 n.natAbs := by
  rw [Int.toString_eq_repr, Int.repr_eq_if]
  by_cases hn : n < 0
  · have habs : (-n).toNat = n.natAbs := by omega
    rw [if_neg (Int.not_le.mpr hn), Nat.repr_eq_ofList_toDigits, habs]
    simp [hn]
  · have habs : n.toNat = n.natAbs := by omega
    rw [if_pos (Int.not_lt.mp hn), Nat.repr_eq_ofList_toDigits, habs]
    simp [hn]

theorem spelled_ofInt (n : Int) : (ofInt n).Spelled (toString n).toList := by
  have hspelled := Spelled.mk (decide (n < 0)) (whole_toDigits n.natAbs) .absent .absent
  rwa [List.append_nil, List.append_nil, ← toList_toString_int] at hspelled

theorem value?_ofInt {n : Int} (hleast : Document.leastInt ≤ n)
    (hgreatest : n ≤ Document.greatestInt) : (ofInt n).value? = some (.int n) := by
  rw [Document.leastInt] at hleast
  rw [Document.greatestInt] at hgreatest
  have hlimit : Nat.ofDigitChars 10 (Nat.toDigits 10 n.natAbs) 0 < wordLimit := by
    rw [Nat.ofDigitChars_ten_toDigits, show wordLimit = 18446744073709551616 from rfl]
    omega
  have habsorb := absorb_values hlimit
  rw [Nat.ofDigitChars_ten_toDigits] at habsorb
  have hinteger : (ofInt n).integer? = some n := by
    have hlength : (values (Nat.toDigits 10 n.natAbs)).length = (Nat.toDigits 10 n.natAbs).length :=
      List.length_map _
    have hplain : ¬ (!([] : List Nat).isEmpty || (none : Option (Bool × List Nat)).isSome ||
        decide ((Nat.toDigits 10 n.natAbs).length < (Nat.toDigits 10 n.natAbs).length)) = true := by
      simp
    simp only [integer?, ofInt, habsorb, hlength]
    rw [if_neg hplain]
    by_cases hn : n < 0
    · have hfits : 0 < n.natAbs ∧ n.natAbs ≤ pow2 63 := by
        rw [show pow2 63 = 9223372036854775808 from rfl]
        omega
      rw [if_neg (by simpa using hn), if_pos hfits, show -(n.natAbs : Int) = n by omega]
    · rw [if_pos (by simpa using hn), show (n.natAbs : Int) = n by omega]
  rw [value?, hinteger]

end Numeral

/-- **An integer of eight bytes is spelled by its digits**, and they stand for it. -/
theorem spellsNumber_int {n : Int} (hleast : Document.leastInt ≤ n)
    (hgreatest : n ≤ Document.greatestInt) : SpellsNumber (.int n) (Number.int n).text.toList :=
  ⟨_, Numeral.spelled_ofInt n, Numeral.value?_ofInt hleast hgreatest⟩

end Shroud.Json
