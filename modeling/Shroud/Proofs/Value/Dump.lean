import Mathlib.Algebra.Group.Nat.Defs
import Mathlib.Data.List.Basic
import Shroud.Proofs.Json.Numeral
import Shroud.Proofs.Json.Quote
import Shroud.Value.Dump

/-!
# One value for each canonical text

Two values have the same canonical text only if they are the same (`Value.dump_inj`).  What is shown
is a little more: where a canonical text is followed by nothing, or by what ends an element or a
field, it can be told where it ends, and which value it belongs to (`Value.Told`).  The first
character of a text tells the kind of its value (`Value.exists_opening`), but for two pairs of
kinds: `false` differs from a number only in the second character, and a text from a record only
in what follows its quotes.
-/

set_option autoImplicit false

namespace Shroud

/-! ## Where parts of a text end -/

/-- The characters of one sort at the start of a text. -/
theorem takeWhile_append_of_head {p : Char → Bool} {u r : List Char} (hu : ∀ c ∈ u, p c = true)
    (hr : ∀ c ∈ r.head?, p c = false) : (u ++ r).takeWhile p = u := by
  rw [List.takeWhile_append_of_pos hu]
  cases r with
  | nil => exact List.append_nil u
  | cons c r => rw [List.takeWhile_cons_of_neg (by simp [hr c rfl]), List.append_nil]

/-- Two texts of characters of one sort are the same, and so is what follows them, if that starts
with a character of another sort. -/
theorem eq_of_append_of_all {p : Char → Bool} {u v r s : List Char} (hu : ∀ c ∈ u, p c = true)
    (hv : ∀ c ∈ v, p c = true) (hr : ∀ c ∈ r.head?, p c = false) (hs : ∀ c ∈ s.head?, p c = false)
    (h : u ++ r = v ++ s) : u = v ∧ r = s := by
  obtain rfl : u = v := by
    rw [← takeWhile_append_of_head hu hr, h, takeWhile_append_of_head hv hs]
  exact ⟨rfl, List.append_cancel_left h⟩

/-- A string between quotes ends at the second quote. -/
theorem Json.eq_of_quote_append {s t : String} {r r' : List Char}
    (h : (quote s).toList ++ r = (quote t).toList ++ r') : s = t ∧ r = r' := by
  have hread (s : String) (r : List Char) :
      readString? (((quote s).toList ++ r).tail.map some) = some (some s, r.map some) := by
    have hletters := readString?_letters (letters_flatMap_escape s.toList) (r.map some)
    simpa [toList_quote] using hletters
  have hsame := hread s r
  rw [h, hread t r'] at hsame
  obtain ⟨htext, hrest⟩ := Prod.mk.inj (Option.some.inj hsame)
  have hinj := List.map_injective_iff.mpr fun (c d : Char) (hcd : some c = some d) ↦
    Option.some.inj hcd
  exact ⟨(Option.some.inj htext).symm, (hinj hrest).symm⟩

/-! ## Numbers -/

/-- A character of the digits of an integer. -/
def isIntChar (c : Char) : Bool := c == '-' || c.isDigit

theorem isIntChar_of_mem_toString {n : Int} {c : Char} (h : c ∈ (toString n).toList) :
    isIntChar c = true := by
  rw [Json.Numeral.toList_toString_int, List.mem_append] at h
  rcases h with h | h
  · have hc : c = '-' := by
      split at h
      · exact List.mem_singleton.mp h
      · cases h
    subst hc
    rfl
  · have hdigit := Nat.isDigit_of_mem_toDigits (by decide) (Nat.le_refl 10) h
    rw [isIntChar, hdigit, Bool.or_true]

theorem eq_of_toDigits_eq {a b : Nat} (h : Nat.toDigits 10 a = Nat.toDigits 10 b) : a = b := by
  have ha : Nat.ofDigitChars 10 (Nat.toDigits 10 a) 0 = a := Nat.ofDigitChars_ten_toDigits
  rwa [h, Nat.ofDigitChars_ten_toDigits, eq_comm] at ha

theorem eq_of_toString_eq {n m : Int} (h : (toString n).toList = (toString m).toList) : n = m := by
  have hminus (a b : Nat) : Nat.toDigits 10 a ≠ '-' :: Nat.toDigits 10 b := by
    intro hab
    have hdigit : '-'.isDigit = true :=
      Nat.isDigit_of_mem_toDigits (by decide) (Nat.le_refl 10) (hab ▸ List.mem_cons_self)
    cases hdigit
  rw [Json.Numeral.toList_toString_int, Json.Numeral.toList_toString_int] at h
  by_cases hn : n < 0
  · by_cases hm : m < 0
    · simp only [hn, hm, decide_true, if_true, List.singleton_append] at h
      have habs := eq_of_toDigits_eq (List.cons.inj h).2
      omega
    · simp only [hn, hm, decide_true, decide_false, if_true, Bool.false_eq_true, if_false,
        List.singleton_append, List.nil_append] at h
      exact absurd h.symm (hminus _ _)
  · by_cases hm : m < 0
    · simp only [hn, hm, decide_true, decide_false, if_true, Bool.false_eq_true, if_false,
        List.singleton_append, List.nil_append] at h
      exact absurd h (hminus _ _)
    · simp only [hn, hm, decide_false, Bool.false_eq_true, if_false, List.nil_append] at h
      have habs := eq_of_toDigits_eq h
      omega

/-- Zeros in front do not change a number. -/
theorem ofDigitChars_padded (n v : Nat) : Nat.ofDigitChars 10 (padded n v) 0 = v := by
  have hzeros (k : Nat) (ds : List Char) :
      Nat.ofDigitChars 10 (List.replicate k '0' ++ ds) 0 = Nat.ofDigitChars 10 ds 0 := by
    induction k with
    | zero => rfl
    | succ k ih =>
      rw [List.replicate_succ, List.cons_append, Nat.ofDigitChars_cons]
      exact ih
  rw [padded, hzeros, Nat.ofDigitChars_ten_toDigits]

theorem isDigit_of_mem_padded {n v : Nat} {c : Char} (h : c ∈ padded n v) : c.isDigit = true := by
  rw [padded, List.mem_append] at h
  rcases h with h | h
  · obtain rfl := List.eq_of_mem_replicate h
    rfl
  · exact Nat.isDigit_of_mem_toDigits (by decide) (Nat.le_refl 10) h

theorem Text.length_hexOfNat (k n : Nat) : (hexOfNat k n).length = k := by
  induction k generalizing n with
  | zero => rfl
  | succ k ih => rw [hexOfNat, List.length_append, ih, List.length_singleton]

theorem Text.hexValue?_hexDigit {n : Nat} (h : n < 16) : hexValue? (hexDigit n) = some n := by
  have hall : ∀ n < 16, hexValue? (hexDigit n) = some n := by decide
  exact hall n h

theorem Text.ne_of_mem_hexOfNat {k n : Nat} {c : Char} (h : c ∈ hexOfNat k n) : c ≠ 'l' := by
  induction k generalizing n with
  | zero => cases h
  | succ k ih =>
    rw [hexOfNat, List.mem_append] at h
    rcases h with h | h
    · exact ih h
    · obtain rfl := List.mem_singleton.mp h
      intro hl
      have hvalue := hexValue?_hexDigit (Nat.mod_lt n (show 16 > 0 by decide))
      rw [hl] at hvalue
      cases hvalue

/-- The digits of a number tell the number as far as they go. -/
theorem Text.mod_eq_of_hexOfNat_eq {k a b : Nat} (h : hexOfNat k a = hexOfNat k b) :
    a % 16 ^ k = b % 16 ^ k := by
  induction k generalizing a b with
  | zero => rw [Nat.pow_zero, Nat.mod_one, Nat.mod_one]
  | succ k ih =>
    obtain ⟨hfront, hlast⟩ := List.append_inj' h rfl
    have hvalue := hexValue?_hexDigit (Nat.mod_lt a (show 16 > 0 by decide))
    rw [List.singleton_inj.mp hlast, hexValue?_hexDigit (Nat.mod_lt b (show 16 > 0 by decide))]
      at hvalue
    have hlow : a % 16 = b % 16 := (Option.some.inj hvalue).symm
    rw [Nat.pow_succ', Nat.mod_mul, Nat.mod_mul, hlow, ih hfront]

theorem Double.eq_of_hexOfNat_eq {x y : Double}
    (h : Text.hexOfNat 16 x.bits.toNat = Text.hexOfNat 16 y.bits.toNat) : x = y := by
  have hmod := Text.mod_eq_of_hexOfNat_eq h
  have hpow : 16 ^ 16 = 2 ^ 64 := by decide
  rw [hpow, Nat.mod_eq_of_lt x.bits.toNat_lt, Nat.mod_eq_of_lt y.bits.toNat_lt] at hmod
  obtain ⟨bits⟩ := x
  obtain ⟨bits'⟩ := y
  rw [Double.mk.injEq]
  exact UInt64.toNat_inj.mp hmod

namespace Value

/-! ## Annotations -/

/-- The characters of an annotation. -/
def tagChars (t : Tag) : List Char :=
  '#' :: ((Json.quote t.1).toList ++ '=' :: (Json.quote t.2).toList)

theorem toList_dumpTags (tags : TagMap) :
    (dumpTags tags).toList = tags.entries.flatMap tagChars := by
  rw [dumpTags]
  induction tags.entries with
  | nil => rfl
  | cons t rest ih =>
    rw [List.map_cons, String.join_cons, String.toList_append, ih, List.flatMap_cons]
    simp [tagChars]

/-- Annotations end where no further one starts. -/
theorem eq_of_tags_append {ts us : List Tag} {r s : List Char} (hr : r.head? ≠ some '#')
    (hs : s.head? ≠ some '#') (h : ts.flatMap tagChars ++ r = us.flatMap tagChars ++ s) :
    ts = us ∧ r = s := by
  induction ts generalizing us with
  | nil =>
    cases us with
    | nil => exact ⟨rfl, h⟩
    | cons u us =>
      obtain rfl : r = _ := h
      exact absurd rfl hr
  | cons t ts ih =>
    cases us with
    | nil =>
      obtain rfl : _ = s := h
      exact absurd rfl hs
    | cons u us =>
      simp only [List.flatMap_cons, tagChars, List.cons_append, List.append_assoc] at h
      obtain ⟨hkey, h⟩ := Json.eq_of_quote_append (List.cons.inj h).2
      obtain ⟨hvalue, h⟩ := Json.eq_of_quote_append (List.cons.inj h).2
      obtain ⟨rfl, rfl⟩ := ih h
      exact ⟨by rw [Prod.ext hkey hvalue], rfl⟩

/-! ## Elements and fields -/

/-- The characters of a field. -/
def fieldChars (f : Field TagMap Value) : List Char :=
  (Json.quote f.name).toList ++ ((dumpTags f.tags).toList ++ ':' :: (dump f.value).toList)

/-- The characters of parts with a comma in front of each. -/
def further {α : Type} (chars : α → List Char) (xs : List α) : List Char :=
  xs.flatMap fun x ↦ ',' :: chars x

theorem further_cons_append {α : Type} (chars : α → List Char) (x : α) (rest : List α)
    (r : List Char) :
    further chars (x :: rest) ++ r = ',' :: (chars x ++ (further chars rest ++ r)) := by
  simp [further]

/-- The characters of parts with a comma between any two. -/
def separated {α : Type} (chars : α → List Char) : List α → List Char
  | [] => []
  | x :: rest => chars x ++ further chars rest

theorem intercalate_map {α : Type} (chars : α → List Char) (xs : List α) :
    [','].intercalate (xs.map chars) = separated chars xs := by
  cases xs with
  | nil => rfl
  | cons x rest =>
    induction rest generalizing x with
    | nil => simp [separated, further]
    | cons y rest ih =>
      rw [List.map_cons, List.map_cons, List.intercalate_cons_cons, ← List.map_cons, ih]
      simp [separated, further]

theorem dumpItems_eq_map (items : List Value) : dumpItems items = items.map dump := by
  induction items with
  | nil => rfl
  | cons v rest ih => rw [dumpItems, ih, List.map_cons]

theorem toList_dumpFields (fs : List (Field TagMap Value)) :
    (dumpFields fs).map String.toList = fs.map fieldChars := by
  induction fs with
  | nil => rfl
  | cons f rest ih =>
    obtain ⟨name, tags, v⟩ := f
    rw [dumpFields, List.map_cons, List.map_cons, ih]
    simp [fieldChars]

theorem toList_dump_seq (items : List Value) :
    (dump (seq items)).toList = '[' :: (separated (fun v ↦ (dump v).toList) items ++ [']']) := by
  rw [dump, dumpItems_eq_map, ← intercalate_map]
  simp [String.toList_intercalate, Function.comp_def]

theorem toList_dump_record (name : String) (fs : List (Field TagMap Value)) :
    (dump (record ⟨name, fs⟩)).toList =
      (Json.quote name).toList ++ '\x7b' :: (separated fieldChars fs ++ ['\x7d']) := by
  rw [dump, ← intercalate_map, ← toList_dumpFields]
  simp [String.toList_intercalate]

theorem toList_dump_timestamp (t : Instant) :
    (dump (timestamp t)).toList =
      '@' :: ((toString t.seconds).toList ++ '.' :: padded 9 t.nanos) := by
  simp [dump, dumpInstant]

theorem toList_dump_float (x : Double) :
    (dump (float x)).toList = 'f' :: Text.hexOfNat 16 x.bits.toNat := by
  simp [dump]

theorem toList_dump_ref (v : Value) : (dump (ref v)).toList = '&' :: (dump v).toList := by
  simp [dump]

/-! ## First characters -/

/-- What the first character of a canonical text tells. -/
inductive Opening where
  | quote
  | letter
  | null
  | timestamp
  | ref
  | seq
  | int
  /-- No canonical text starts with this character. -/
  | none

/-- What a character tells, as the first one of a canonical text. -/
def openingOf (c : Char) : Opening :=
  if c = '"' then .quote
  else if c = 't' ∨ c = 'f' then .letter
  else if c = 'n' then .null
  else if c = '@' then .timestamp
  else if c = '&' then .ref
  else if c = '[' then .seq
  else if isIntChar c then .int
  else .none

/-- What the first character of the canonical text of a value tells. -/
def opening : Value → Opening
  | text _ | record _ => .quote
  | bool _ | float _ => .letter
  | null => .null
  | timestamp _ => .timestamp
  | ref _ => .ref
  | seq _ => .seq
  | int _ => .int

theorem openingOf_of_isIntChar {c : Char} (h : isIntChar c = true) : openingOf c = .int := by
  have hne (d : Char) (hd : isIntChar d = false) : c ≠ d := by
    rintro rfl
    rw [h] at hd
    cases hd
  simp [openingOf, h, hne _ (show isIntChar '"' = false by decide),
    hne _ (show isIntChar 't' = false by decide), hne _ (show isIntChar 'f' = false by decide),
    hne _ (show isIntChar 'n' = false by decide), hne _ (show isIntChar '@' = false by decide),
    hne _ (show isIntChar '&' = false by decide), hne _ (show isIntChar '[' = false by decide)]

theorem exists_opening (v : Value) :
    ∃ c cs, (dump v).toList = c :: cs ∧ openingOf c = opening v := by
  cases v with
  | text s => exact ⟨_, _, Json.toList_quote s, rfl⟩
  | record r => exact ⟨_, _, by rw [toList_dump_record, Json.toList_quote]; rfl, rfl⟩
  | bool b =>
    cases b with
    | true => exact ⟨'t', ['r', 'u', 'e'], by simp [dump], rfl⟩
    | false => exact ⟨'f', ['a', 'l', 's', 'e'], by simp [dump], rfl⟩
  | float x => exact ⟨_, _, toList_dump_float x, rfl⟩
  | null => exact ⟨'n', ['u', 'l', 'l'], by simp [dump], rfl⟩
  | timestamp t => exact ⟨_, _, toList_dump_timestamp t, rfl⟩
  | ref v => exact ⟨_, _, toList_dump_ref v, rfl⟩
  | seq items => exact ⟨_, _, toList_dump_seq items, rfl⟩
  | int n =>
    have hdigits : (toString n).toList ≠ [] := by
      rw [Json.Numeral.toList_toString_int]
      exact List.append_ne_nil_of_right_ne_nil _ Nat.toDigits_ne_nil
    obtain ⟨c, cs, hc⟩ := List.exists_cons_of_ne_nil hdigits
    have hint := isIntChar_of_mem_toString (hc ▸ List.mem_cons_self : c ∈ (toString n).toList)
    exact ⟨c, cs, by rw [dump, hc], openingOf_of_isIntChar hint⟩

theorem opening_eq_of_append {v w : Value} {r s : List Char}
    (h : (dump v).toList ++ r = (dump w).toList ++ s) : opening v = opening w := by
  obtain ⟨c, cs, hv, hc⟩ := exists_opening v
  obtain ⟨d, ds, hw, hd⟩ := exists_opening w
  rw [hv, hw] at h
  rw [← hc, ← hd, (List.cons.inj h).1]

theorem ne_append_of_openingOf {v : Value} {c : Char} {r s : List Char}
    (hc : openingOf c = .none) : c :: r ≠ (dump v).toList ++ s := by
  obtain ⟨d, ds, hv, hd⟩ := exists_opening v
  rw [hv]
  intro h
  rw [(List.cons.inj h).1, hd] at hc
  cases v <;> cases hc

/-! ## The values of a text -/

/-- What may follow a value: nothing, or what ends an element or a field. -/
def Stops (r : List Char) : Prop := ∀ c ∈ r.head?, c = ',' ∨ c = ']' ∨ c = '\x7d'

theorem stops_nil : Stops [] := by
  intro c hc
  cases hc

theorem stops_cons {c : Char} {r : List Char} (hc : c = ',' ∨ c = ']' ∨ c = '\x7d') :
    Stops (c :: r) := by
  intro d hd
  obtain rfl := Option.some.inj hd
  exact hc

theorem stops_further {α : Type} {chars : α → List Char} {e : Char} {xs : List α} {r : List Char}
    (he : e = ']' ∨ e = '\x7d') : Stops (further chars xs ++ e :: r) := by
  cases xs with
  | nil => exact stops_cons (.inr he)
  | cons x rest => exact stops_cons (.inl rfl)

/-- What follows a value does not start with a character of a sort to which neither the comma nor a
closing bracket belongs. -/
theorem Stops.eq_false {p : Char → Bool} {r : List Char} (hr : Stops r) (hcomma : p ',' = false)
    (hbracket : p ']' = false) (hbrace : p '\x7d' = false) : ∀ c ∈ r.head?, p c = false := by
  intro c hc
  obtain rfl | rfl | rfl := hr c hc
  · exact hcomma
  · exact hbracket
  · exact hbrace

/-- Comparing parts with commas between them amounts to comparing them with commas in front. -/
theorem further_append_of_separated {α : Type} {chars : α → List Char} {e : Char} {xs ys : List α}
    {r s : List Char} (he : ∀ x r s, e :: r ≠ chars x ++ s)
    (h : separated chars xs ++ e :: r = separated chars ys ++ e :: s) :
    further chars xs ++ e :: r = further chars ys ++ e :: s := by
  cases xs with
  | nil =>
    cases ys with
    | nil => exact h
    | cons y ys =>
      rw [separated, separated, List.nil_append, List.append_assoc] at h
      exact absurd h (he y r _)
  | cons x xs =>
    cases ys with
    | nil =>
      rw [separated, separated, List.nil_append, List.append_assoc] at h
      exact absurd h.symm (he x s _)
    | cons y ys => exact congrArg (',' :: ·) h

/-- The canonical text of the value tells the value, and where it ends. -/
def Told (v : Value) : Prop :=
  ∀ ⦃w : Value⦄ ⦃r s : List Char⦄, Stops r → Stops s →
    (dump v).toList ++ r = (dump w).toList ++ s → v = w ∧ r = s

theorem toList_dump_false : (dump (bool false)).toList = ['f', 'a', 'l', 's', 'e'] := by
  simp [dump]

theorem toList_dump_true : (dump (bool true)).toList = ['t', 'r', 'u', 'e'] := by
  simp [dump]

/-- The digits of a number are told from `false` by the second one. -/
theorem bool_append_ne_float {b : Bool} {x : Double} {r s : List Char} :
    (dump (bool b)).toList ++ r ≠ (dump (float x)).toList ++ s := by
  intro h
  rw [toList_dump_float] at h
  cases b with
  | true =>
    rw [toList_dump_true] at h
    exact absurd (List.cons.inj h).1 (by decide)
  | false =>
    rw [toList_dump_false] at h
    have hlength := Text.length_hexOfNat 16 x.bits.toNat
    have hsecond : (Text.hexOfNat 16 x.bits.toNat)[1]? = some 'l' := by
      have htail : ['a', 'l', 's', 'e'] ++ r = Text.hexOfNat 16 x.bits.toNat ++ s :=
        (List.cons.inj h).2
      rw [← List.getElem?_append_left (by omega), ← htail]
      rfl
    exact Text.ne_of_mem_hexOfNat (List.mem_of_getElem? hsecond) rfl

theorem told_bool (b : Bool) : Told (bool b) := by
  intro w r s hr hs h
  cases w with
  | bool c =>
    cases b with
    | true =>
      cases c with
      | true => exact ⟨rfl, List.append_cancel_left h⟩
      | false =>
        rw [toList_dump_true, toList_dump_false] at h
        exact absurd (List.cons.inj h).1 (by decide)
    | false =>
      cases c with
      | true =>
        rw [toList_dump_true, toList_dump_false] at h
        exact absurd (List.cons.inj h).1 (by decide)
      | false => exact ⟨rfl, List.append_cancel_left h⟩
  | float x => exact absurd h bool_append_ne_float
  | _ => cases opening_eq_of_append h

theorem told_float (x : Double) : Told (float x) := by
  intro w r s hr hs h
  cases w with
  | float y =>
    rw [toList_dump_float, toList_dump_float] at h
    obtain ⟨hdigits, hrest⟩ := List.append_inj (List.cons.inj h).2
      ((Text.length_hexOfNat 16 _).trans (Text.length_hexOfNat 16 _).symm)
    exact ⟨congrArg float (Double.eq_of_hexOfNat_eq hdigits), hrest⟩
  | bool c => exact absurd h.symm bool_append_ne_float
  | _ => cases opening_eq_of_append h

theorem told_int (n : Int) : Told (int n) := by
  intro w r s hr hs h
  cases w with
  | int m =>
    rw [dump, dump] at h
    obtain ⟨hdigits, hrest⟩ := eq_of_append_of_all (fun _ hc ↦ isIntChar_of_mem_toString hc)
      (fun _ hc ↦ isIntChar_of_mem_toString hc) (hr.eq_false rfl rfl rfl)
      (hs.eq_false rfl rfl rfl) h
    exact ⟨congrArg int (eq_of_toString_eq hdigits), hrest⟩
  | _ => cases opening_eq_of_append h

theorem told_timestamp (t : Instant) : Told (timestamp t) := by
  intro w r s hr hs h
  cases w with
  | timestamp u =>
    simp only [toList_dump_timestamp, List.cons_append, List.append_assoc] at h
    have hpoint (ds : List Char) : ∀ c ∈ ('.' :: ds).head?, isIntChar c = false := by
      intro c hc
      obtain rfl := Option.some.inj hc
      rfl
    obtain ⟨hseconds, h⟩ := eq_of_append_of_all (fun _ hc ↦ isIntChar_of_mem_toString hc)
      (fun _ hc ↦ isIntChar_of_mem_toString hc) (hpoint _) (hpoint _) (List.cons.inj h).2
    obtain ⟨hnanos, hrest⟩ := eq_of_append_of_all (fun _ hc ↦ isDigit_of_mem_padded hc)
      (fun _ hc ↦ isDigit_of_mem_padded hc) (hr.eq_false rfl rfl rfl) (hs.eq_false rfl rfl rfl)
      (List.cons.inj h).2
    have hvalue := congrArg (Nat.ofDigitChars 10 · 0) hnanos
    simp only [ofDigitChars_padded] at hvalue
    have hsame : t = u := by
      rw [Instant.mk.injEq]
      exact ⟨eq_of_toString_eq hseconds, hvalue⟩
    exact ⟨congrArg timestamp hsame, hrest⟩
  | _ => cases opening_eq_of_append h

theorem told_null : Told null := by
  intro w r s hr hs h
  cases w with
  | null => exact ⟨rfl, List.append_cancel_left h⟩
  | _ => cases opening_eq_of_append h

/-- A record starts as a text does, but where the text ends it goes on. -/
theorem text_append_ne_record {a : String} {q : Record TagMap Value} {r s : List Char}
    (hr : Stops r) : (dump (text a)).toList ++ r ≠ (dump (record q)).toList ++ s := by
  intro h
  rw [dump, toList_dump_record, List.append_assoc] at h
  obtain ⟨-, rfl⟩ := Json.eq_of_quote_append h
  exact absurd (hr _ rfl) (by decide)

theorem told_text (a : String) : Told (text a) := by
  intro w r s hr hs h
  cases w with
  | text b =>
    obtain ⟨rfl, rfl⟩ := Json.eq_of_quote_append h
    exact ⟨rfl, rfl⟩
  | record q => exact absurd h (text_append_ne_record hr)
  | _ => cases opening_eq_of_append h

theorem Told.ref {v : Value} (hv : Told v) : Told (ref v) := by
  intro w r s hr hs h
  cases w with
  | ref w =>
    rw [toList_dump_ref, toList_dump_ref] at h
    obtain ⟨rfl, rfl⟩ := hv hr hs (List.cons.inj h).2
    exact ⟨rfl, rfl⟩
  | _ => cases opening_eq_of_append h

theorem eq_of_items_append {vs ws : List Value} {r s : List Char} (hvs : ∀ v ∈ vs, Told v)
    (h : further (fun v ↦ (dump v).toList) vs ++ ']' :: r =
      further (fun v ↦ (dump v).toList) ws ++ ']' :: s) : vs = ws ∧ r = s := by
  induction vs generalizing ws with
  | nil =>
    cases ws with
    | nil => exact ⟨rfl, (List.cons.inj h).2⟩
    | cons w ws => exact absurd (List.cons.inj h).1 (by decide)
  | cons v vs ih =>
    cases ws with
    | nil => exact absurd (List.cons.inj h).1 (by decide)
    | cons w ws =>
      rw [further_cons_append, further_cons_append] at h
      obtain ⟨rfl, hrest⟩ := hvs v List.mem_cons_self (stops_further (.inl rfl))
        (stops_further (.inl rfl)) (List.cons.inj h).2
      obtain ⟨rfl, rfl⟩ := ih (fun u hu ↦ hvs u (List.mem_cons_of_mem v hu)) hrest
      exact ⟨rfl, rfl⟩

theorem told_seq {vs : List Value} (hvs : ∀ v ∈ vs, Told v) : Told (seq vs) := by
  intro w r s hr hs h
  cases w with
  | seq ws =>
    simp only [toList_dump_seq, List.cons_append, List.append_assoc, List.nil_append] at h
    obtain ⟨rfl, rfl⟩ := eq_of_items_append hvs (further_append_of_separated
      (fun _ _ _ ↦ ne_append_of_openingOf rfl) (List.cons.inj h).2)
    exact ⟨rfl, rfl⟩
  | _ => cases opening_eq_of_append h

theorem ne_fieldChars_append (f : Field TagMap Value) (r s : List Char) :
    '\x7d' :: r ≠ fieldChars f ++ s := by
  rw [fieldChars, Json.toList_quote]
  exact fun h ↦ absurd (List.cons.inj h).1 (by decide)

theorem eq_of_fields_append {fs gs : List (Field TagMap Value)} {r s : List Char}
    (hfs : ∀ f ∈ fs, Told f.value)
    (h : further fieldChars fs ++ '\x7d' :: r = further fieldChars gs ++ '\x7d' :: s) :
    fs = gs ∧ r = s := by
  induction fs generalizing gs with
  | nil =>
    cases gs with
    | nil => exact ⟨rfl, (List.cons.inj h).2⟩
    | cons g gs => exact absurd (List.cons.inj h).1 (by decide)
  | cons f fs ih =>
    cases gs with
    | nil => exact absurd (List.cons.inj h).1 (by decide)
    | cons g gs =>
      rw [further_cons_append, further_cons_append, fieldChars, fieldChars, toList_dumpTags,
        toList_dumpTags] at h
      simp only [List.cons_append, List.append_assoc] at h
      obtain ⟨hname, hafter⟩ := Json.eq_of_quote_append (List.cons.inj h).2
      have hcolon (ds : List Char) : (':' :: ds).head? ≠ some '#' := by simp
      obtain ⟨htags, hafter⟩ := eq_of_tags_append (hcolon _) (hcolon _) hafter
      obtain ⟨hvalue, hrest⟩ := hfs f List.mem_cons_self (stops_further (.inr rfl))
        (stops_further (.inr rfl)) (List.cons.inj hafter).2
      obtain ⟨rfl, rfl⟩ := ih (fun f' hf' ↦ hfs f' (List.mem_cons_of_mem f hf')) hrest
      have hsame : f = g := by
        rw [Field.mk.injEq, TagMap.mk.injEq]
        exact ⟨hname, htags, hvalue⟩
      exact ⟨by rw [hsame], rfl⟩

theorem told_record {name : String} {fs : List (Field TagMap Value)}
    (hfs : ∀ f ∈ fs, Told f.value) : Told (record ⟨name, fs⟩) := by
  intro w r s hr hs h
  cases w with
  | record q =>
    obtain ⟨name', gs⟩ := q
    simp only [toList_dump_record, List.cons_append, List.append_assoc, List.nil_append] at h
    obtain ⟨rfl, hfields⟩ := Json.eq_of_quote_append h
    obtain ⟨rfl, rfl⟩ := eq_of_fields_append hfs
      (further_append_of_separated ne_fieldChars_append (List.cons.inj hfields).2)
    exact ⟨rfl, rfl⟩
  | text b => exact absurd h.symm (text_append_ne_record hs)
  | _ => cases opening_eq_of_append h

mutual

/-- **A canonical text tells its value**, also where more follows it. -/
theorem told : ∀ v : Value, Told v
  | bool b => told_bool b
  | int n => told_int n
  | float x => told_float x
  | text s => told_text s
  | timestamp t => told_timestamp t
  | null => told_null
  | ref v => (told v).ref
  | seq items => told_seq (told_items items)
  | record ⟨_, fs⟩ => told_record (told_fields fs)

theorem told_items : ∀ items : List Value, ∀ v ∈ items, Told v
  | [] => fun _ h ↦ absurd h List.not_mem_nil
  | v :: rest => List.forall_mem_cons.mpr ⟨told v, told_items rest⟩

theorem told_fields : ∀ fs : List (Field TagMap Value), ∀ f ∈ fs, Told f.value
  | [] => fun _ h ↦ absurd h List.not_mem_nil
  | ⟨_, _, v⟩ :: rest => List.forall_mem_cons.mpr ⟨told v, told_fields rest⟩

end

/-- **Two values have the same canonical text exactly when they are the same.** -/
theorem dump_inj {v w : Value} : dump v = dump w ↔ v = w := by
  constructor
  · intro h
    have hchars : (dump v).toList ++ [] = (dump w).toList ++ [] := by rw [h]
    exact (told v stops_nil stops_nil hchars).1
  · exact congrArg dump

end Value

end Shroud
