import Shroud.Json.Draft
import Shroud.Proofs.Json.Numeral
import Shroud.Proofs.Json.Quote

/-!
# Values that are spelled are read

Every spelling of a value is read as the draft of this value, and what stands behind it is left
(`Draft.readValue_spells`).  The proof follows the grammar through values, elements and entries; the
fuel of the reader is twice the length of what is left, and each step takes less than the characters
it reads pay for.  So a text means one value at most (`Json.TextOf.unique`).
-/

set_option autoImplicit false

namespace Shroud

namespace Json

/-! ## Ends and starts -/

theorem ends_nil : Ends [] := nofun

theorem ends_cons {c : Char} (h : c = ',' ∨ c = ']' ∨ c = '\x7d') (gs : Glyphs) :
    Ends (some c :: gs) := by
  intro g hg
  obtain rfl := Option.some.inj hg
  rcases h with rfl | rfl | rfl <;> simp

theorem isSpace_of_blank {w : List Char} (h : Blank w) : ∀ g ∈ w.map some, isSpace g = true := by
  intro g hg
  obtain ⟨c, hc, rfl⟩ := List.mem_map.mp hg
  rcases h c hc with rfl | rfl | rfl | rfl
  all_goals rfl

theorem ends_blank {w : List Char} (h : Blank w) {gs : Glyphs} (hgs : Ends gs) :
    Ends (w.map some ++ gs) := by
  cases w with
  | nil => exact hgs
  | cons c w =>
    intro g hg
    obtain rfl := Option.some.inj hg
    exact .inl (isSpace_of_blank h _ List.mem_cons_self)

/-- Blanks at the start make no difference. -/
theorem skipSpace_blank {w : List Char} (h : Blank w) (gs : Glyphs) :
    skipSpace (w.map some ++ gs) = skipSpace gs :=
  List.dropWhile_append_of_pos (isSpace_of_blank h)

/-- No blank, and no bracket or brace that closes: a text that starts with such a character is no
end of what it stands in. -/
def Opens (c : Char) : Prop := isSpace (some c) = false ∧ c ≠ ']' ∧ c ≠ '\x7d'

theorem opens_of_isDigit {c : Char} (h : c = '-' ∨ c.isDigit = true) : Opens c := by
  rcases h with rfl | h
  · exact ⟨by decide, by decide, by decide⟩
  · refine ⟨?_, ?_, ?_⟩
    · rw [Bool.eq_false_iff]
      intro hspace
      simp only [isSpace, Bool.or_eq_true, beq_iff_eq, Option.some.injEq] at hspace
      rcases hspace with ((rfl | rfl) | rfl) | rfl <;> exact absurd h (by decide)
    · rintro rfl
      exact absurd h (by decide)
    · rintro rfl
      exact absurd h (by decide)

theorem skipSpace_cons {c : Char} (h : isSpace (some c) = false) (gs : Glyphs) :
    skipSpace (some c :: gs) = some c :: gs := by
  rw [skipSpace, List.dropWhile_cons, h]
  rfl


/-! ## Starts of spellings -/

theorem spells_opens {v : Json} {cs : List Char} (h : Spells v cs) :
    ∃ c cs', cs = c :: cs' ∧ Opens c := by
  cases v with
  | null => exact ⟨_, _, h, by decide, by decide, by decide⟩
  | bool b =>
    cases b with
    | false => exact ⟨_, _, h, by decide, by decide, by decide⟩
    | true => exact ⟨_, _, h, by decide, by decide, by decide⟩
  | number n =>
    obtain ⟨x, hx, -⟩ := h
    obtain ⟨c, cs', rfl, hc⟩ := hx.exists_head
    exact ⟨c, cs', rfl, opens_of_isDigit hc⟩
  | text s =>
    obtain ⟨ts, -, rfl⟩ := h
    exact ⟨_, _, rfl, by decide, by decide, by decide⟩
  | seq items =>
    obtain ⟨ts, -, rfl⟩ := h
    exact ⟨_, _, rfl, by decide, by decide, by decide⟩
  | map entries =>
    obtain ⟨ts, -, rfl⟩ := h
    exact ⟨_, _, rfl, by decide, by decide, by decide⟩

theorem skipSpace_padded {v : Json} {cs : List Char} (h : Padded (Spells v) cs) (gs : Glyphs) :
    ∃ c rest, skipSpace (cs.map some ++ gs) = some c :: rest ∧ Opens c := by
  obtain ⟨w, ts, w', hw, hts, -, rfl⟩ := h
  obtain ⟨c, ts, rfl, hc⟩ := spells_opens hts
  refine ⟨c, (ts ++ w').map some ++ gs, ?_, hc⟩
  rw [List.map_append, List.append_assoc, skipSpace_blank hw]
  exact skipSpace_cons hc.1 _

theorem skipSpace_items {v : Json} {rest : List Json} {cs : List Char}
    (h : SpellsItems (v :: rest) cs) (gs : Glyphs) :
    ∃ c rest', skipSpace (cs.map some ++ gs) = some c :: rest' ∧ Opens c := by
  cases rest with
  | nil => exact skipSpace_padded h gs
  | cons w rest =>
    obtain ⟨ts, us, hts, -, rfl⟩ := h
    rw [List.map_append, List.append_assoc]
    exact skipSpace_padded hts _

theorem skipSpace_entry {k : String} {spelling : List Char → Prop} {cs : List Char}
    (h : SpellsEntry k spelling cs) (gs : Glyphs) :
    ∃ rest, skipSpace (cs.map some ++ gs) = some '"' :: rest := by
  obtain ⟨ks, vs, ⟨w, ts, w', hw, ⟨us, -, rfl⟩, -, rfl⟩, -, rfl⟩ := h
  simp only [List.map_append, List.append_assoc, skipSpace_blank hw]
  exact ⟨_, skipSpace_cons (by decide) _⟩

theorem skipSpace_entries {e : String × Json} {rest : List (String × Json)} {cs : List Char}
    (h : SpellsEntries (e :: rest) cs) (gs : Glyphs) :
    ∃ rest', skipSpace (cs.map some ++ gs) = some '"' :: rest' := by
  cases rest with
  | nil => exact skipSpace_entry h gs
  | cons f rest =>
    obtain ⟨ts, us, hts, -, rfl⟩ := h
    rw [List.map_append, List.append_assoc]
    exact skipSpace_entry hts _

end Json

/-! ## Reading -/

namespace Draft

open Json

section Blanks

variable {gs gs' : Glyphs} (h : skipSpace gs = skipSpace gs')

include h

theorem readValue_skip (fuel : Nat) : readValue fuel gs = readValue fuel gs' := by
  cases fuel with
  | zero => rfl
  | succ fuel => rw [readValue, readValue, h]

theorem readItems_skip (fuel : Nat) : readItems fuel gs = readItems fuel gs' := by
  cases fuel with
  | zero => rfl
  | succ fuel => rw [readItems, readItems, readValue_skip h]

theorem readEntries_skip (fuel : Nat) : readEntries fuel gs = readEntries fuel gs' := by
  cases fuel with
  | zero => rfl
  | succ fuel => rw [readEntries, readEntries, h]

end Blanks

theorem readNumber_of_spells {n : Number} {cs : List Char} (h : SpellsNumber n cs) {gs : Glyphs}
    (hgs : Ends gs) : readNumber (cs.map some ++ gs) = (number (some n), some gs) := by
  obtain ⟨x, hx, hvalue⟩ := h
  rw [readNumber, Numeral.read?_of_spelled hx hgs]
  simp only [hvalue]

theorem readValue_number {c : Char} (hc : c = '-' ∨ c.isDigit = true) (fuel : Nat) (gs : Glyphs) :
    readValue (fuel + 1) (some c :: gs) = readNumber (some c :: gs) := by
  rw [readValue, skipSpace_cons (opens_of_isDigit hc).1]
  split
  case h_7 => rfl
  all_goals
    rename_i heq
    cases heq
    exact absurd hc (by decide)


theorem readValue_text {s : String} {cs : List Char} (h : SpellsText s cs) (fuel : Nat)
    (gs : Glyphs) : readValue (fuel + 1) (cs.map some ++ gs) = (.text (some s), some gs) := by
  obtain ⟨ts, hts, rfl⟩ := h
  have hcs : ('"' :: (ts ++ ['"'])).map some ++ gs =
      some '"' :: (ts.map some ++ some '"' :: gs) := by
    simp
  rw [hcs, readValue, skipSpace_cons (by decide)]
  simp only [readString?_letters hts]

/-- Blanks between brackets are no elements. -/
theorem readValue_seq_nil {w : List Char} (h : Blank w) (fuel : Nat) (gs : Glyphs) :
    readValue (fuel + 1) (some '[' :: (w.map some ++ some ']' :: gs)) = (.seq [], some gs) := by
  rw [readValue, skipSpace_cons (by decide)]
  simp only [skipSpace_blank h, skipSpace_cons (c := ']') (by decide)]

/-- A sequence that has elements is read as its elements. -/
theorem readValue_seq {c : Char} (hc : Opens c) {gs rest : Glyphs}
    (h : skipSpace gs = some c :: rest) (fuel : Nat) :
    readValue (fuel + 1) (some '[' :: gs) =
      (.seq (readItems fuel gs).1, (readItems fuel gs).2) := by
  have hskip : skipSpace gs = skipSpace (some c :: rest) := by rw [h, skipSpace_cons hc.1]
  rw [readValue, skipSpace_cons (by decide), readItems_skip hskip]
  simp only [h]
  split
  case h_1 heq =>
    cases heq
    exact absurd rfl hc.2.1
  case h_2 => rfl

/-- Blanks between braces are no entries. -/
theorem readValue_map_nil {w : List Char} (h : Blank w) (fuel : Nat) (gs : Glyphs) :
    readValue (fuel + 1) (some '\x7b' :: (w.map some ++ some '\x7d' :: gs)) =
      (.map [], some gs) := by
  rw [readValue, skipSpace_cons (by decide)]
  simp only [skipSpace_blank h, skipSpace_cons (c := '\x7d') (by decide)]

/-- A map that has entries is read as its entries. -/
theorem readValue_map {gs rest : Glyphs} (h : skipSpace gs = some '"' :: rest) (fuel : Nat) :
    readValue (fuel + 1) (some '\x7b' :: gs) =
      (.map (readEntries fuel gs).1, (readEntries fuel gs).2) := by
  have hskip : skipSpace gs = skipSpace (some '"' :: rest) := by
    rw [h, skipSpace_cons (by decide)]
  rw [readValue, skipSpace_cons (by decide), readEntries_skip hskip]
  simp only [h]
  rfl

section Entries

variable {fuel : Nat} {k : String} {ks : List Char} {gs rest rest' : Glyphs} {d : Draft}
  (hk : Padded (SpellsText k) ks) (h : readValue fuel gs = (d, some rest))

include hk h

/-- An entry before a comma is followed by others. -/
theorem readEntries_comma (hrest : skipSpace rest = some ',' :: rest') :
    readEntries (fuel + 1) (ks.map some ++ some ':' :: gs) =
      ((some k, d) :: (readEntries fuel rest').1, (readEntries fuel rest').2) := by
  obtain ⟨w, _, w', hw, ⟨ts, hts, rfl⟩, hw', rfl⟩ := hk
  simp only [List.map_append, List.map_cons, List.append_assoc, List.cons_append, List.nil_append]
  rw [readEntries, skipSpace_blank hw, skipSpace_cons (by decide)]
  simp only [readString?_letters hts, skipSpace_blank hw', skipSpace_cons (c := ':') (by decide), h,
    hrest]

/-- An entry before a brace is the last one. -/
theorem readEntries_brace (hrest : skipSpace rest = some '\x7d' :: rest') :
    readEntries (fuel + 1) (ks.map some ++ some ':' :: gs) = ([(some k, d)], some rest') := by
  obtain ⟨w, _, w', hw, ⟨ts, hts, rfl⟩, hw', rfl⟩ := hk
  simp only [List.map_append, List.map_cons, List.append_assoc, List.cons_append, List.nil_append]
  rw [readEntries, skipSpace_blank hw, skipSpace_cons (by decide)]
  simp only [readString?_letters hts, skipSpace_blank hw', skipSpace_cons (c := ':') (by decide), h,
    hrest]

end Entries

/-- The value is read from each of its spellings, and what ends the spelling is left. -/
def ReadsAll (v : Json) : Prop :=
  ∀ (cs : List Char) (fuel : Nat) (gs : Glyphs), Spells v cs → 2 * cs.length ≤ fuel → Ends gs →
    readValue (fuel + 1) (cs.map some ++ gs) = (ofJson v, some gs)

/-- With blanks around a spelling those behind it are left too. -/
theorem ReadsAll.padded {v : Json} (hv : ReadsAll v) {cs : List Char}
    (h : Padded (Spells v) cs) (fuel : Nat) (hfuel : 2 * cs.length ≤ fuel) (gs : Glyphs)
    (hgs : Ends gs) :
    ∃ rest, readValue (fuel + 1) (cs.map some ++ gs) = (ofJson v, some rest) ∧
      skipSpace rest = skipSpace gs := by
  obtain ⟨w, ts, w', hw, hts, hw', rfl⟩ := h
  rw [List.length_append, List.length_append] at hfuel
  refine ⟨w'.map some ++ gs, ?_, skipSpace_blank hw' gs⟩
  rw [List.map_append, List.append_assoc, readValue_skip (skipSpace_blank hw _), List.map_append,
    List.append_assoc]
  exact hv ts fuel _ hts (by omega) (ends_blank hw' hgs)

mutual

/-- **Every spelling of a value is read as its draft.** -/
theorem readValue_spells : ∀ v : Json, ReadsAll v
  | .null => fun _ _ _ h _ _ ↦ by
    rw [h]
    rfl
  | .bool false => fun _ _ _ h _ _ ↦ by
    rw [h]
    rfl
  | .bool true => fun _ _ _ h _ _ ↦ by
    rw [h]
    rfl
  | .number n => by
    intro cs fuel gs h _ hgs
    have hn := readNumber_of_spells h hgs
    obtain ⟨x, hx, -⟩ := h
    obtain ⟨c, cs, rfl, hc⟩ := hx.exists_head
    rw [List.map_cons, List.cons_append] at hn ⊢
    rw [readValue_number hc, hn, ofJson]
  | .text s => fun _ fuel gs h _ _ ↦ by rw [readValue_text h, ofJson]
  | .seq [] => by
    rintro _ fuel gs ⟨ts, hts, rfl⟩ - -
    have hnil := readValue_seq_nil hts fuel gs
    simpa [ofJson, ofItems, ofEntries] using hnil
  | .seq (v :: rest) => by
    rintro _ fuel gs ⟨ts, hts, rfl⟩ hfuel -
    rw [List.length_cons, List.length_append, List.length_singleton] at hfuel
    obtain ⟨fuel, rfl⟩ : ∃ k, fuel = k + 2 := ⟨fuel - 2, by omega⟩
    have hread := readItems_spells (v :: rest) ts fuel gs (List.cons_ne_nil v rest) hts (by omega)
    obtain ⟨c, rest', hskip, hc⟩ := skipSpace_items hts (some ']' :: gs)
    have hseq := readValue_seq hc hskip (fuel + 2)
    rw [hread] at hseq
    simpa [ofJson] using hseq
  | .map [] => by
    rintro _ fuel gs ⟨ts, hts, rfl⟩ - -
    have hnil := readValue_map_nil hts fuel gs
    simpa [ofJson, ofItems, ofEntries] using hnil
  | .map (e :: rest) => by
    rintro _ fuel gs ⟨ts, hts, rfl⟩ hfuel -
    rw [List.length_cons, List.length_append, List.length_singleton] at hfuel
    obtain ⟨fuel, rfl⟩ : ∃ k, fuel = k + 2 := ⟨fuel - 2, by omega⟩
    have hread := readEntries_spells (e :: rest) ts fuel gs (List.cons_ne_nil e rest) hts (by omega)
    obtain ⟨rest', hskip⟩ := skipSpace_entries hts (some '\x7d' :: gs)
    have hmap := readValue_map hskip (fuel + 2)
    rw [hread] at hmap
    simpa [ofJson] using hmap

/-- Spelled elements are read as their drafts, up to the bracket. -/
theorem readItems_spells : ∀ (items : List Json) (cs : List Char) (fuel : Nat) (gs : Glyphs),
    items ≠ [] → SpellsItems items cs → 2 * cs.length ≤ fuel →
    readItems (fuel + 2) (cs.map some ++ some ']' :: gs) = (ofItems items, some gs)
  | [], _, _, _, hne, _, _ => absurd rfl hne
  | [v], cs, fuel, gs, _, h, hfuel => by
    obtain ⟨rest, hread, hrest⟩ :=
      (readValue_spells v).padded h fuel hfuel (some ']' :: gs) (ends_cons (by simp) gs)
    rw [readItems, hread]
    simp only [hrest, skipSpace_cons (c := ']') (by decide)]
    rfl
  | v :: w :: items, _, fuel, gs, _, ⟨ts, us, hts, hus, hcs⟩, hfuel => by
    subst hcs
    rw [List.length_append, List.length_cons] at hfuel
    obtain ⟨fuel, rfl⟩ : ∃ k, fuel = k + 1 := ⟨fuel - 1, by omega⟩
    obtain ⟨rest, hread, hrest⟩ := (readValue_spells v).padded hts (fuel + 1) (by omega)
      (some ',' :: (us.map some ++ some ']' :: gs)) (ends_cons (by simp) _)
    have hitems := readItems_spells (w :: items) us fuel gs (List.cons_ne_nil w items) hus
      (by omega)
    rw [List.map_append, List.append_assoc, List.map_cons, List.cons_append, readItems, hread]
    simp only [hrest, skipSpace_cons (c := ',') (by decide), hitems]
    rfl

/-- Spelled entries are read as their drafts, up to the brace. -/
theorem readEntries_spells : ∀ (entries : List (String × Json)) (cs : List Char) (fuel : Nat)
    (gs : Glyphs), entries ≠ [] → SpellsEntries entries cs → 2 * cs.length ≤ fuel →
    readEntries (fuel + 2) (cs.map some ++ some '\x7d' :: gs) = (ofEntries entries, some gs)
  | [], _, _, _, hne, _, _ => absurd rfl hne
  | [(k, v)], _, fuel, gs, _, ⟨ks, vs, hks, hvs, hcs⟩, hfuel => by
    subst hcs
    rw [List.length_append, List.length_cons] at hfuel
    obtain ⟨rest, hread, hrest⟩ := (readValue_spells v).padded hvs fuel (by omega)
      (some '\x7d' :: gs) (ends_cons (by simp) gs)
    rw [skipSpace_cons (by decide)] at hrest
    rw [List.map_append, List.append_assoc, List.map_cons, List.cons_append,
      readEntries_brace hks hread hrest]
    rfl
  | (k, v) :: e :: entries, _, fuel, gs, _, ⟨_, us, ⟨ks, vs, hks, hvs, hts⟩, hus, hcs⟩, hfuel => by
    subst hts hcs
    simp only [List.length_append, List.length_cons] at hfuel
    obtain ⟨fuel, rfl⟩ : ∃ k, fuel = k + 1 := ⟨fuel - 1, by omega⟩
    obtain ⟨rest, hread, hrest⟩ := (readValue_spells v).padded hvs (fuel + 1) (by omega)
      (some ',' :: (us.map some ++ some '\x7d' :: gs)) (ends_cons (by simp) _)
    rw [skipSpace_cons (by decide)] at hrest
    have hentries := readEntries_spells (e :: entries) us fuel gs (List.cons_ne_nil e entries) hus
      (by omega)
    simp only [List.map_append, List.append_assoc, List.map_cons, List.cons_append]
    rw [readEntries_comma hks hread hrest, hentries]
    rfl

end

mutual

/-- The draft of a value stands for this value. -/
theorem json?_ofJson : ∀ v : Json, (ofJson v).json? = some v
  | .null => rfl
  | .bool _ => rfl
  | .number _ => rfl
  | .text _ => rfl
  | .seq items => by rw [ofJson, json?, jsonItems?_ofItems items, Option.map_some]
  | .map entries => by rw [ofJson, json?, jsonEntries?_ofEntries entries, Option.map_some]

theorem jsonItems?_ofItems : ∀ items : List Json, jsonItems? (ofItems items) = some items
  | [] => rfl
  | v :: rest => by
    rw [ofItems, jsonItems?, json?_ofJson v, jsonItems?_ofItems rest]
    rfl

theorem jsonEntries?_ofEntries :
    ∀ entries : List (String × Json), jsonEntries? (ofEntries entries) = some entries
  | [] => rfl
  | (k, v) :: rest => by
    rw [ofEntries, jsonEntries?, json?_ofJson v, jsonEntries?_ofEntries rest]
    rfl

end

/-- A text is read to its end. -/
theorem exists_read {v : Json} {s : String} (h : TextOf v s) :
    ∃ rest, read (s.toList.map some) = (ofJson v, some rest) ∧ skipSpace rest = [] := by
  have hread := (readValue_spells v).padded h (2 * (s.toList.map some).length + 1)
    (by rw [List.length_map]; omega) [] ends_nil
  rwa [List.append_nil] at hread

end Draft

/-! ## Texts of JSON -/

namespace Json

/-- **A text of JSON is parsed to what it means.** -/
theorem parse?_of_textOf {v : Json} {s : String} (h : TextOf v s) : parse? s = some v := by
  obtain ⟨rest, hread, hrest⟩ := Draft.exists_read h
  rw [parse?, hread]
  simp only [hrest]
  exact Draft.json?_ofJson v

/-- **The grammar is unambiguous**: a text means one value at most. -/
theorem TextOf.unique {v w : Json} {s : String} (h : TextOf v s) (h' : TextOf w s) : v = w :=
  Option.some.inj ((parse?_of_textOf h).symm.trans (parse?_of_textOf h'))

end Json

end Shroud
