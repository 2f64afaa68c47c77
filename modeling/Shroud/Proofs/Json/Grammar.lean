import Shroud.Json.Literal

/-!
# The grammar of JSON

What a text of JSON looks like is said here without the reader and without the printer.  A value has
many spellings: blanks may stand between tokens, a string may escape what it need not escape, and a
number may have a fraction and an exponent.

* `Letters cs ts`: between quotes, `ts` spells the characters `cs`.
* `Numeral.Spelled x ts`: `ts` spells the numeral `x`.
* `Spells v ts`: `ts` spells the value `v`, whose entries are in the order of the text and may
  repeat a key.
* `TextOf v s`: the text `s` is a spelling of `v` with blanks around it.
-/

set_option autoImplicit false

namespace Shroud.Json

/-! ## Blanks -/

/-- Nothing but spaces, tabs and ends of lines. -/
def Blank (w : List Char) : Prop := ∀ c ∈ w, c = ' ' ∨ c = '\n' ∨ c = '\t' ∨ c = '\r'

/-- A spelling with blanks around it. -/
def Padded (spelling : List Char → Prop) (cs : List Char) : Prop :=
  ∃ w ts w', Blank w ∧ spelling ts ∧ Blank w' ∧ cs = w ++ (ts ++ w')

/-! ## Strings -/

/-- The short escapes: the letter behind the backslash, and the character that it stands for. -/
def shortEscapes : List (Char × Char) :=
  [('"', '"'), ('\\', '\\'), ('/', '/'), ('b', '\x08'), ('f', '\x0c'), ('n', '\n'), ('r', '\r'),
    ('t', '\t')]

/-- Four hexadecimal digits spell a code unit. -/
def UnitDigits (n : Nat) (ds : List Char) : Prop :=
  ∃ a b c d, ds = [a, b, c, d] ∧ Text.natOfHex? ds = some n

/-- `Letters cs ts`: between quotes, `ts` spells the characters `cs`. -/
inductive Letters : List Char → List Char → Prop
  | nil : Letters [] []
  /-- A character may stand for itself, unless it is a quote, a backslash or a control. -/
  | plain {c : Char} {cs ts : List Char} (hquote : c ≠ '"') (hslash : c ≠ '\\')
      (hlow : 0x20 ≤ c.toNat) (h : Letters cs ts) : Letters (c :: cs) (c :: ts)
  | short {e c : Char} {cs ts : List Char} (he : (e, c) ∈ shortEscapes) (h : Letters cs ts) :
      Letters (c :: cs) ('\\' :: e :: ts)
  /-- A code unit by itself is no half of a surrogate pair. -/
  | unit {n : Nat} {ds cs ts : List Char} (hds : UnitDigits n ds)
      (hn : n < 0xd800 ∨ 0xe000 ≤ n) (h : Letters cs ts) :
      Letters (Char.ofNat n :: cs) ('\\' :: 'u' :: (ds ++ ts))
  | pair {n m : Nat} {ds es cs ts : List Char} (hds : UnitDigits n ds) (hes : UnitDigits m es)
      (hn : 0xd800 ≤ n ∧ n < 0xdc00) (hm : 0xdc00 ≤ m ∧ m < 0xe000) (h : Letters cs ts) :
      Letters (Char.ofNat (0x10000 + 0x400 * (n - 0xd800) + (m - 0xdc00)) :: cs)
        ('\\' :: 'u' :: (ds ++ '\\' :: 'u' :: (es ++ ts)))

/-- The characters of a text between quotes. -/
def SpellsText (s : String) (cs : List Char) : Prop :=
  ∃ ts, Letters s.toList ts ∧ cs = '"' :: (ts ++ ['"'])

/-! ## Numbers -/

/-- Nothing but decimal digits. -/
def AllDigits (cs : List Char) : Prop := ∀ c ∈ cs, c.isDigit = true

/-- The values of decimal digits. -/
def values (cs : List Char) : List Nat := cs.map fun c ↦ c.toNat - '0'.toNat

namespace Numeral

/-- The digits before the point: a zero stands alone. -/
inductive Whole : List Char → Prop
  | zero : Whole ['0']
  | other {c : Char} {cs : List Char} (hc : c ≠ '0') (h : AllDigits (c :: cs)) : Whole (c :: cs)

/-- The fraction, if there is one. -/
inductive Fraction : List Nat → List Char → Prop
  | absent : Fraction [] []
  | digits {cs : List Char} (hne : cs ≠ []) (h : AllDigits cs) : Fraction (values cs) ('.' :: cs)

/-- The sign of an exponent, if there is one. -/
inductive Sign : Bool → List Char → Prop
  | absent : Sign false []
  | plus : Sign false ['+']
  | minus : Sign true ['-']

/-- The exponent, if there is one. -/
inductive Exponent : Option (Bool × List Nat) → List Char → Prop
  | absent : Exponent none []
  | digits {e : Char} {negative : Bool} {s cs : List Char} (he : e = 'e' ∨ e = 'E')
      (hs : Sign negative s) (hne : cs ≠ []) (h : AllDigits cs) :
      Exponent (some (negative, values cs)) (e :: (s ++ cs))

/-- `Spelled x ts`: the text `ts` spells the numeral `x`. -/
inductive Spelled : Numeral → List Char → Prop
  | mk {whole fs es : List Char} {fraction : List Nat} {exponent : Option (Bool × List Nat)}
      (negative : Bool) (hwhole : Whole whole) (hfraction : Fraction fraction fs)
      (hexponent : Exponent exponent es) :
      Spelled ⟨negative, values whole, fraction, exponent⟩
        ((if negative then ['-'] else []) ++ (whole ++ (fs ++ es)))

end Numeral

/-- The text spells a numeral that stands for the number. -/
def SpellsNumber (n : Number) (cs : List Char) : Prop :=
  ∃ x : Numeral, x.Spelled cs ∧ x.value? = some n

/-! ## Values -/

/-- A key, a colon and a value. -/
def SpellsEntry (key : String) (spelling : List Char → Prop) (cs : List Char) : Prop :=
  ∃ ks vs, Padded (SpellsText key) ks ∧ Padded spelling vs ∧ cs = ks ++ ':' :: vs

mutual

/-- `Spells v ts`: the text `ts` spells the value `v`. -/
def Spells : Json → List Char → Prop
  | .null, cs => cs = ['n', 'u', 'l', 'l']
  | .bool false, cs => cs = ['f', 'a', 'l', 's', 'e']
  | .bool true, cs => cs = ['t', 'r', 'u', 'e']
  | .number n, cs => SpellsNumber n cs
  | .text s, cs => SpellsText s cs
  | .seq items, cs => ∃ ts, SpellsItems items ts ∧ cs = '[' :: (ts ++ [']'])
  | .map entries, cs => ∃ ts, SpellsEntries entries ts ∧ cs = '\x7b' :: (ts ++ ['\x7d'])

/-- The text between brackets: elements with commas between them. -/
def SpellsItems : List Json → List Char → Prop
  | [], cs => Blank cs
  | [v], cs => Padded (Spells v) cs
  | v :: w :: rest, cs =>
    ∃ ts us, Padded (Spells v) ts ∧ SpellsItems (w :: rest) us ∧ cs = ts ++ ',' :: us

/-- The text between braces: entries with commas between them. -/
def SpellsEntries : List (String × Json) → List Char → Prop
  | [], cs => Blank cs
  | [(k, v)], cs => SpellsEntry k (Spells v) cs
  | (k, v) :: e :: rest, cs =>
    ∃ ts us, SpellsEntry k (Spells v) ts ∧ SpellsEntries (e :: rest) us ∧ cs = ts ++ ',' :: us

end

/-- `TextOf v s`: the text `s` is JSON and means `v`. -/
def TextOf (v : Json) (s : String) : Prop := Padded (Spells v) s.toList

/-! ## Controls -/

/-- No character is below U+0020.  The grammar has no such rule, for blanks may be controls. -/
def NoControls (cs : List Char) : Prop := ∀ c ∈ cs, 0x20 ≤ c.toNat

theorem NoControls.append {cs ds : List Char} (hcs : NoControls cs) (hds : NoControls ds) :
    NoControls (cs ++ ds) :=
  List.forall_mem_append.mpr ⟨hcs, hds⟩

theorem NoControls.cons {c : Char} {cs : List Char} (hc : 0x20 ≤ c.toNat) (hcs : NoControls cs) :
    NoControls (c :: cs) :=
  List.forall_mem_cons.mpr ⟨hc, hcs⟩

theorem noControls_nil : NoControls [] := nofun

theorem noControls_of_all {cs : List Char} (h : cs.all (0x20 ≤ ·.toNat) = true) :
    NoControls cs :=
  fun c hc ↦ of_decide_eq_true (List.all_eq_true.mp h c hc)

end Shroud.Json
