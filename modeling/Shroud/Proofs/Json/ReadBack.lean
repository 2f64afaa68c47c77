import Shroud.Json.Printer
import Shroud.Proofs.Json.Reading

/-!
# Values that are printed are read back

What the printer writes is a spelling of the value that it is given (`Json.spells_print`), so it is
read as the draft of this value, and parsed to the value.  There is one condition, and it is on
numbers: each number of the value must be read back from its own text.  Integers of eight bytes are
(`Number.readsBack_int`).
-/

set_option autoImplicit false

namespace Shroud

namespace Json

/-! ## Numbers -/

/-- What follows a value inside a text: nothing, or a character that ends a value. -/
def AtEnd (gs : Glyphs) : Prop := ∀ g ∈ gs.head?, g = some ',' ∨ g = some ']' ∨ g = some '\x7d'

mutual

/-- The numbers of a value. -/
def numbers : Json → List Number
  | .number n => [n]
  | .seq items => itemNumbers items
  | .map entries => entryNumbers entries
  | _ => []

/-- The numbers of elements. -/
def itemNumbers : List Json → List Number
  | [] => []
  | v :: rest => numbers v ++ itemNumbers rest

/-- The numbers of the values of entries. -/
def entryNumbers : List (String × Json) → List Number
  | [] => []
  | (_, v) :: rest => numbers v ++ entryNumbers rest

end

end Json

/-- A number is read back from its text. -/
structure Number.ReadsBack (n : Number) : Prop where
  /-- The text starts as numbers do. -/
  head : ∃ c cs, n.text.toList = c :: cs ∧ (c = '-' ∨ c.isDigit = true)
  /-- What is read is the number, whatever follows it. -/
  read : ∀ gs, Json.AtEnd gs →
    Draft.readNumber (n.text.toList.map some ++ gs) = (.number (some n), some gs)

/-- A number that is read back from its text is spelled by it. -/
theorem Number.ReadsBack.spells {n : Number} (h : n.ReadsBack) :
    Json.SpellsNumber n n.text.toList := by
  have hread := h.read [] nofun
  rw [List.append_nil, Draft.readNumber] at hread
  split at hread
  · rename_i x rest hx
    obtain ⟨hvalue, hrest⟩ := Prod.mk.inj hread
    obtain ⟨cs, hcs, htext⟩ := Json.Numeral.exists_spelled_of_read? hx
    obtain rfl := Option.some.inj hrest
    rw [List.append_nil] at htext
    have htext : n.text.toList = cs := (List.map_inj_right fun _ _ ↦ Option.some.inj).mp htext
    exact ⟨x, htext ▸ hcs, by simpa using hvalue⟩
  · cases hread

/-- A number that is spelled by its text is read back from it. -/
theorem Number.readsBack_of_spells {n : Number} (h : Json.SpellsNumber n n.text.toList) :
    n.ReadsBack := by
  refine ⟨?_, fun gs hgs ↦ Draft.readNumber_of_spells h fun g hg ↦ .inr (hgs g hg)⟩
  obtain ⟨x, hx, -⟩ := h
  exact hx.exists_head

/-- **An integer of eight bytes is read back.** -/
theorem Number.readsBack_int {n : Int} (hleast : Document.leastInt ≤ n)
    (hgreatest : n ≤ Document.greatestInt) : (Number.int n).ReadsBack :=
  readsBack_of_spells (Json.spellsNumber_int hleast hgreatest)

/-- The status of an answer that brings data is read back. -/
theorem Number.readsBack_200 : (Number.int 200).ReadsBack :=
  readsBack_int (by decide) (by decide)

namespace Json

/-! ## Texts -/

/-- The characters of the elements of a sequence. -/
def itemChars (items : List Json) : List Char :=
  [','].intercalate ((printItems items).map String.toList)

/-- The characters of the entries of a map. -/
def entryChars (entries : List (String × Json)) : List Char :=
  [','].intercalate ((printEntries entries).map String.toList)

theorem toList_print_seq (items : List Json) :
    (print (.seq items)).toList = '[' :: (itemChars items ++ [']']) := by
  simp [print, itemChars, String.toList_intercalate]

theorem toList_print_map (entries : List (String × Json)) :
    (print (.map entries)).toList = '\x7b' :: (entryChars entries ++ ['\x7d']) := by
  simp [print, entryChars, String.toList_intercalate]

theorem itemChars_singleton (v : Json) : itemChars [v] = (print v).toList := by
  simp [itemChars, printItems]

theorem itemChars_cons_cons (v w : Json) (rest : List Json) :
    itemChars (v :: w :: rest) = (print v).toList ++ ',' :: itemChars (w :: rest) := by
  simp [itemChars, printItems, List.intercalate_cons_cons]

theorem entryChars_singleton (k : String) (v : Json) :
    entryChars [(k, v)] = (quote k).toList ++ ':' :: (print v).toList := by
  simp [entryChars, printEntries]

theorem entryChars_cons_cons (k : String) (v : Json) (e : String × Json)
    (rest : List (String × Json)) :
    entryChars ((k, v) :: e :: rest) =
      (quote k).toList ++ ':' :: ((print v).toList ++ ',' :: entryChars (e :: rest)) := by
  obtain ⟨k', v'⟩ := e
  simp [entryChars, printEntries, List.intercalate_cons_cons]

/-! ## Spellings -/

theorem padded_of_spelling {spelling : List Char → Prop} {cs : List Char} (h : spelling cs) :
    Padded spelling cs :=
  ⟨[], cs, [], nofun, h, nofun, (List.append_nil cs).symm⟩

mutual

/-- **What is printed is a spelling.** -/
theorem spells_print : ∀ v : Json, (∀ n ∈ numbers v, n.ReadsBack) → Spells v (print v).toList
  | .null, _ => rfl
  | .bool false, _ => rfl
  | .bool true, _ => rfl
  | .number n, h => (h n List.mem_cons_self).spells
  | .text s, _ => spellsText_quote s
  | .seq items, h => ⟨_, spellsItems_print items h, toList_print_seq items⟩
  | .map entries, h => ⟨_, spellsEntries_print entries h, toList_print_map entries⟩

theorem spellsItems_print : ∀ items : List Json, (∀ n ∈ itemNumbers items, n.ReadsBack) →
    SpellsItems items (itemChars items)
  | [], _ => nofun
  | [v], h => by
    rw [itemChars_singleton]
    exact padded_of_spelling (spells_print v fun n hn ↦ h n (List.mem_append_left _ hn))
  | v :: w :: rest, h =>
    ⟨_, _, padded_of_spelling (spells_print v fun n hn ↦ h n (List.mem_append_left _ hn)),
      spellsItems_print (w :: rest) fun n hn ↦ h n (List.mem_append_right _ hn),
      itemChars_cons_cons v w rest⟩

theorem spellsEntries_print : ∀ entries : List (String × Json),
    (∀ n ∈ entryNumbers entries, n.ReadsBack) → SpellsEntries entries (entryChars entries)
  | [], _ => nofun
  | [(k, v)], h => by
    rw [entryChars_singleton]
    exact ⟨_, _, padded_of_spelling (spellsText_quote k),
      padded_of_spelling (spells_print v fun n hn ↦ h n (List.mem_append_left _ hn)), rfl⟩
  | (k, v) :: e :: rest, h =>
    ⟨(quote k).toList ++ ':' :: (print v).toList, _, ⟨_, _, padded_of_spelling (spellsText_quote k),
      padded_of_spelling (spells_print v fun n hn ↦ h n (List.mem_append_left _ hn)), rfl⟩,
      spellsEntries_print (e :: rest) fun n hn ↦ h n (List.mem_append_right _ hn), by
        rw [entryChars_cons_cons, List.append_assoc, List.cons_append]⟩

end

/-! ## Controls -/

mutual

/-- **No control is printed**, whatever the texts and keys of the value are. -/
theorem noControls_print : ∀ v : Json, (∀ n ∈ numbers v, n.ReadsBack) →
    NoControls (print v).toList
  | .null, _ => noControls_of_all rfl
  | .bool false, _ => noControls_of_all rfl
  | .bool true, _ => noControls_of_all rfl
  | .number n, h => by
    obtain ⟨x, hx, -⟩ := (h n List.mem_cons_self).spells
    exact hx.noControls
  | .text s, _ => noControls_quote s
  | .seq items, h => by
    rw [toList_print_seq]
    exact .cons (by decide)
      (.append (noControls_itemChars items h) (.cons (by decide) noControls_nil))
  | .map entries, h => by
    rw [toList_print_map]
    exact .cons (by decide)
      (.append (noControls_entryChars entries h) (.cons (by decide) noControls_nil))

theorem noControls_itemChars : ∀ items : List Json, (∀ n ∈ itemNumbers items, n.ReadsBack) →
    NoControls (itemChars items)
  | [], _ => noControls_nil
  | [v], h => by
    rw [itemChars_singleton]
    exact noControls_print v fun n hn ↦ h n (List.mem_append_left _ hn)
  | v :: w :: rest, h => by
    have hv := noControls_print v fun n hn ↦ h n (List.mem_append_left _ hn)
    have hrest := noControls_itemChars (w :: rest) fun n hn ↦ h n (List.mem_append_right _ hn)
    rw [itemChars_cons_cons]
    exact .append hv (.cons (by decide) hrest)

theorem noControls_entryChars : ∀ entries : List (String × Json),
    (∀ n ∈ entryNumbers entries, n.ReadsBack) → NoControls (entryChars entries)
  | [], _ => noControls_nil
  | [(k, v)], h => by
    have hv := noControls_print v fun n hn ↦ h n (List.mem_append_left _ hn)
    rw [entryChars_singleton]
    exact .append (noControls_quote k) (.cons (by decide) hv)
  | (k, v) :: e :: rest, h => by
    have hv := noControls_print v fun n hn ↦ h n (List.mem_append_left _ hn)
    have hrest := noControls_entryChars (e :: rest) fun n hn ↦ h n (List.mem_append_right _ hn)
    rw [entryChars_cons_cons]
    exact .append (noControls_quote k) (.cons (by decide) (.append hv (.cons (by decide) hrest)))

end

/-! ## Parsing -/

theorem textOf_print (v : Json) (h : ∀ n ∈ numbers v, n.ReadsBack) : TextOf v (print v) :=
  padded_of_spelling (spells_print v h)

/-- **Printed values are parsed to themselves.** -/
theorem parse?_print (v : Json) (h : ∀ n ∈ numbers v, n.ReadsBack) : parse? (print v) = some v :=
  parse?_of_textOf (textOf_print v h)

end Json

/-- A printed value that stands alone is read to its end. -/
theorem Draft.read_print (v : Json) (h : ∀ n ∈ Json.numbers v, n.ReadsBack) :
    read ((Json.print v).toList.map some) = (ofJson v, some []) := by
  have hread := readValue_spells v _ (2 * ((Json.print v).toList.map some).length + 1) []
    (Json.spells_print v h) (by rw [List.length_map]; omega) Json.ends_nil
  rwa [List.append_nil] at hread

end Shroud
