import Mathlib.Data.List.Forall2
import Shroud.Declared.Document
import Shroud.Proofs.Value.Json

/-!
# The text of a value in a log

The text of a value in a log is made of its compact JSON text: `Json.Shows line out` says what a log
shows of the JSON text `line`.  A string is shown without quotes and escapes, null is shown as
nothing, and everything else is shown as it is.

The canonical tree decides which of the three it is, and it is stricter than the text: an integer of
more than eight bytes can be written, but has no place in the tree.  So a value is shown in a log
exactly if it can be written and is `narrow` (`logText_exact`).  A value that is not narrow has a
JSON text and is not shown (`wide_integer_not_shown`).
-/

set_option autoImplicit false

namespace Shroud

open HasDocument (document)

/-! ## What a log shows of a JSON text -/

namespace Json

/-- `Shows line out`: where the JSON text is `line`, a log has `out`. -/
inductive Shows : String → String → Prop
  /-- A string is shown as its characters, however it is spelled. -/
  | text {line s : String} (h : SpellsText s line.toList) : Shows line s
  | null : Shows "null" ""
  | other {line : String} (htext : ∀ s, ¬ SpellsText s line.toList) (hnull : line ≠ "null") :
      Shows line line

theorem not_spellsText_null (s : String) : ¬ SpellsText s "null".toList := by
  rintro ⟨ts, -, h⟩
  cases h

/-- One thing is shown of a text at most, since the grammar is unambiguous. -/
theorem Shows.unique {line out out' : String} (h : Shows line out) (h' : Shows line out') :
    out = out' := by
  cases h with
  | text hs =>
    cases h' with
    | text hs' =>
      have htext : TextOf (.text out) line := padded_of_spelling hs
      have htext' : TextOf (.text out') line := padded_of_spelling hs'
      exact Tree.text.inj (htext.unique htext')
    | null => exact absurd hs (not_spellsText_null _)
    | other htext _ => exact absurd hs (htext _)
  | null =>
    cases h' with
    | text hs' => exact absurd hs' (not_spellsText_null _)
    | null => rfl
    | other _ hnull => exact absurd rfl hnull
  | other htext hnull =>
    cases h' with
    | text hs' => exact absurd hs' (htext _)
    | null => exact absurd rfl hnull
    | other _ _ => rfl

/-! ## Texts that are shown as they are -/

/-- The text starts neither as a string nor as null. -/
def StartsOther (cs : List Char) : Prop := ∃ c cs', cs = c :: cs' ∧ c ≠ '"' ∧ c ≠ 'n'

theorem StartsOther.shows {line : String} (h : StartsOther line.toList) : Shows line line := by
  obtain ⟨c, cs, hline, hquote, hn⟩ := h
  refine .other ?_ ?_
  · rintro s ⟨ts, -, hts⟩
    rw [hline] at hts
    exact hquote (List.cons.inj hts).1
  · rintro rfl
    exact hn (List.cons.inj hline).1.symm

theorem StartsOther.of_head {c : Char} {cs : List Char} (hquote : c ≠ '"') (hn : c ≠ 'n') :
    StartsOther (c :: cs) :=
  ⟨c, cs, rfl, hquote, hn⟩

theorem StartsOther.of_isDigit {c : Char} {cs : List Char} (h : c.isDigit = true) :
    StartsOther (c :: cs) := by
  refine .of_head ?_ ?_
  · rintro rfl
    exact absurd h (by decide)
  · rintro rfl
    exact absurd h (by decide)

end Json

/-! ## Numbers -/

namespace Decimal

open Json (StartsOther)

theorem isDigit_of_mem_leading {d : Decimal} {c : Char} (h : c ∈ d.leading.1) :
    c.isDigit = true := by
  have hmem : c ∈ Nat.toDigits 10 d.digits := by
    have hdrop := (List.dropWhile_sublist _).mem (List.mem_reverse.mp h)
    exact List.mem_reverse.mp hdrop
  exact Nat.isDigit_of_mem_toDigits (by decide) (Nat.le_refl 10) hmem

section

variable {ds : List Char} (hds : ∀ c ∈ ds, c.isDigit = true) (first : Int)

include hds

theorem startsOther_positional : StartsOther (positional ds first) := by
  rw [positional]
  split
  · exact .of_head (by decide) (by decide)
  · cases ds with
    | nil => exact .of_head (c := '0') (by decide) (by decide)
    | cons d rest => exact .of_isDigit (hds d List.mem_cons_self)

theorem startsOther_scientific : StartsOther (scientific ds first) := by
  match ds with
  | [] => exact .of_head (c := 'e') (by decide) (by decide)
  | [d] => exact .of_isDigit (hds d List.mem_cons_self)
  | d :: x :: rest => exact .of_isDigit (hds d List.mem_cons_self)

end

theorem startsOther_written (l : Layout) (d : Decimal) : StartsOther (d.written l) := by
  rw [written]
  split
  · exact startsOther_positional (fun _ ↦ isDigit_of_mem_leading) _
  · exact startsOther_scientific (fun _ ↦ isDigit_of_mem_leading) _

end Decimal

theorem Datum.startsOther_text? {f : Format} {l : Decimal.Layout} {x : Datum} {s : String}
    (h : x.text? f l = some s) : Json.StartsOther s.toList := by
  cases x with
  | finite negative m scale =>
    obtain rfl := Option.some.inj h
    rw [String.toList_ofList]
    cases negative with
    | true => exact .of_head (by decide) (by decide)
    | false =>
      show Json.StartsOther (if m = 0 then _ else _)
      split
      · exact .of_head (by decide) (by decide)
      · exact Decimal.startsOther_written l _
  | infinite => cases h
  | nan => cases h

namespace Document

open Json (Shows StartsOther)

/-! ## Integers of eight bytes -/

mutual

/-- Every integer among the values of the document has eight bytes.  The keys are written as texts,
so that integers among them may be of any size. -/
def narrow : Document → Bool
  | .number (.int n) => leastInt ≤ n && n ≤ greatestInt
  | .seq items => narrowItems items
  | .map entries => narrowEntries entries
  | _ => true

/-- All the elements are narrow. -/
def narrowItems : List Document → Bool
  | [] => true
  | d :: rest => narrow d && narrowItems rest

/-- All the values of the entries are narrow. -/
def narrowEntries : List (Key × Document) → Bool
  | [] => true
  | (_, d) :: rest => narrow d && narrowEntries rest

end

theorem narrow_int {n : Int} :
    narrow (.number (.int n)) = true ↔ leastInt ≤ n ∧ n ≤ greatestInt := by
  simp [narrow]

/-! ## The tree beside the text -/

mutual

/-- What has a canonical tree is narrow and can be written. -/
theorem of_tree?_eq_ok : ∀ (d : Document) (t : Json), d.tree? = .ok t →
    d.narrow = true ∧ ∃ j, d.ordered? = .ok j
  | .null, _, _ => ⟨rfl, _, rfl⟩
  | .bool _, _, _ => ⟨rfl, _, rfl⟩
  | .number (.int n), t, h => by
    rw [tree?, canonicalNumber?] at h
    split at h
    · rename_i hn
      exact ⟨narrow_int.mpr hn, _, rfl⟩
    · cases h
  | .number (.double _), _, _ => ⟨rfl, _, rfl⟩
  | .number (.single _), _, _ => ⟨rfl, _, rfl⟩
  | .text _, _, _ => ⟨rfl, _, rfl⟩
  | .seq items, t, h => by
    rw [tree?] at h
    obtain ⟨ts, hts, -⟩ := exists_of_except_bind h
    obtain ⟨hnarrow, js, hjs⟩ := of_treeItems?_eq_ok items ts hts
    exact ⟨hnarrow, .seq js, by rw [ordered?, hjs]; rfl⟩
  | .map entries, t, h => by
    rw [tree?] at h
    obtain ⟨ts, hts, -⟩ := exists_of_except_bind h
    obtain ⟨hnarrow, js, hjs⟩ := of_treeEntries?_eq_ok entries ts hts
    exact ⟨hnarrow, .map js, by rw [ordered?, hjs]; rfl⟩

theorem of_treeItems?_eq_ok : ∀ (items : List Document) (ts : List Json),
    treeItems? items = .ok ts → narrowItems items = true ∧ ∃ js, orderedItems? items = .ok js
  | [], _, _ => ⟨rfl, _, rfl⟩
  | d :: rest, ts, h => by
    rw [treeItems?] at h
    obtain ⟨t, ht, h⟩ := exists_of_except_bind h
    obtain ⟨ts, hts, -⟩ := exists_of_except_bind h
    obtain ⟨hd, j, hj⟩ := of_tree?_eq_ok d t ht
    obtain ⟨hrest, js, hjs⟩ := of_treeItems?_eq_ok rest ts hts
    exact ⟨by rw [narrowItems, hd, hrest]; rfl, j :: js, by rw [orderedItems?, hj, hjs]; rfl⟩

theorem of_treeEntries?_eq_ok : ∀ (entries : List (Key × Document)) (ts : List (String × Json)),
    treeEntries? entries = .ok ts →
    narrowEntries entries = true ∧ ∃ js, orderedEntries? entries = .ok js
  | [], _, _ => ⟨rfl, _, rfl⟩
  | (k, d) :: rest, ts, h => by
    rw [treeEntries?] at h
    obtain ⟨name, hname, h⟩ := exists_of_except_bind h
    obtain ⟨t, ht, h⟩ := exists_of_except_bind h
    obtain ⟨ts, hts, -⟩ := exists_of_except_bind h
    obtain ⟨hd, j, hj⟩ := of_tree?_eq_ok d t ht
    obtain ⟨hrest, js, hjs⟩ := of_treeEntries?_eq_ok rest ts hts
    exact ⟨by rw [narrowEntries, hd, hrest]; rfl, (name, j) :: js,
      by rw [orderedEntries?, hname, hj, hjs]; rfl⟩

end

/-- What comes of a canonical tree when the document can be written: there is one if the document is
narrow, and otherwise an integer is in the way. -/
def Judged {α : Type} (isNarrow : Bool) (x : Except Unwritable α) : Prop :=
  if isNarrow then ∃ t, x = .ok t else x = .error .outOfRange

theorem Judged.bind {α β : Type} {x : Except Unwritable α} {f : α → Except Unwritable β}
    {a b : Bool} (hx : Judged a x) (hf : ∀ t, Judged b (f t)) : Judged (a && b) (x >>= f) := by
  cases a with
  | true =>
    obtain ⟨t, rfl⟩ := hx
    exact hf t
  | false =>
    obtain rfl : x = .error .outOfRange := hx
    rfl

theorem Judged.map {α β : Type} {x : Except Unwritable α} {a : Bool} (h : Judged a x)
    (f : α → β) : Judged a (x >>= fun t ↦ .ok (f t)) := by
  have hbind := h.bind (b := true) fun t ↦ ⟨f t, rfl⟩
  rwa [Bool.and_true] at hbind

mutual

/-- **Of what can be written, the narrow has a canonical tree**, and nothing else has. -/
theorem judged_tree? : ∀ (d : Document) (j : Json), d.ordered? = .ok j → Judged d.narrow d.tree?
  | .null, _, _ => ⟨_, rfl⟩
  | .bool _, _, _ => ⟨_, rfl⟩
  | .number (.int n), _, _ => by
    rw [tree?, canonicalNumber?]
    cases hn : narrow (.number (.int n)) with
    | true =>
      rw [if_pos (narrow_int.mp hn)]
      exact ⟨_, rfl⟩
    | false =>
      rw [if_neg (mt narrow_int.mpr (by simp [hn]))]
      rfl
  | .number (.double _), _, _ => ⟨_, rfl⟩
  | .number (.single _), _, _ => ⟨_, rfl⟩
  | .text _, _, _ => ⟨_, rfl⟩
  | .seq items, j, h => by
    rw [ordered?] at h
    obtain ⟨js, hjs, -⟩ := exists_of_except_bind h
    rw [tree?]
    exact (judged_treeItems? items js hjs).map _
  | .map entries, j, h => by
    rw [ordered?] at h
    obtain ⟨js, hjs, -⟩ := exists_of_except_bind h
    rw [tree?]
    exact (judged_treeEntries? entries js hjs).map _

theorem judged_treeItems? : ∀ (items : List Document) (js : List Json),
    orderedItems? items = .ok js → Judged (narrowItems items) (treeItems? items)
  | [], _, _ => ⟨_, rfl⟩
  | d :: rest, js, h => by
    rw [orderedItems?] at h
    obtain ⟨j, hj, h⟩ := exists_of_except_bind h
    obtain ⟨js, hjs, -⟩ := exists_of_except_bind h
    rw [narrowItems, treeItems?]
    exact (judged_tree? d j hj).bind fun t ↦ (judged_treeItems? rest js hjs).map _

theorem judged_treeEntries? : ∀ (entries : List (Key × Document)) (js : List (String × Json)),
    orderedEntries? entries = .ok js → Judged (narrowEntries entries) (treeEntries? entries)
  | [], _, _ => ⟨_, rfl⟩
  | (k, d) :: rest, js, h => by
    rw [orderedEntries?] at h
    obtain ⟨name, hname, h⟩ := exists_of_except_bind h
    obtain ⟨j, hj, h⟩ := exists_of_except_bind h
    obtain ⟨js, hjs, -⟩ := exists_of_except_bind h
    rw [narrowEntries, treeEntries?, hname]
    exact (judged_tree? d j hj).bind fun t ↦ (judged_treeEntries? rest js hjs).map _

end

/-- The document has a canonical tree. -/
def Canonical (d : Document) : Prop := ∃ t, d.tree? = .ok t

/-- The entry has a place in a canonical tree. -/
def CanonicalEntry (e : Key × Document) : Prop := (∃ name, keyText e.1 = .ok name) ∧ Canonical e.2

theorem exists_treeItems?_iff (items : List Document) :
    (∃ ts, treeItems? items = .ok ts) ↔ ∀ d ∈ items, Canonical d := by
  induction items with
  | nil => exact ⟨fun _ d hd ↦ absurd hd List.not_mem_nil, fun _ ↦ ⟨[], rfl⟩⟩
  | cons d rest ih =>
    rw [List.forall_mem_cons, ← ih]
    constructor
    · rintro ⟨ts, h⟩
      rw [treeItems?] at h
      obtain ⟨t, ht, h⟩ := exists_of_except_bind h
      obtain ⟨ts, hts, -⟩ := exists_of_except_bind h
      exact ⟨⟨t, ht⟩, ts, hts⟩
    · rintro ⟨⟨t, ht⟩, ts, hts⟩
      exact ⟨t :: ts, by rw [treeItems?, ht, hts]; rfl⟩

theorem exists_treeEntries?_iff (entries : List (Key × Document)) :
    (∃ ts, treeEntries? entries = .ok ts) ↔ ∀ e ∈ entries, CanonicalEntry e := by
  induction entries with
  | nil => exact ⟨fun _ e he ↦ absurd he List.not_mem_nil, fun _ ↦ ⟨[], rfl⟩⟩
  | cons e rest ih =>
    obtain ⟨k, d⟩ := e
    rw [List.forall_mem_cons, ← ih]
    constructor
    · rintro ⟨ts, h⟩
      rw [treeEntries?] at h
      obtain ⟨name, hname, h⟩ := exists_of_except_bind h
      obtain ⟨t, ht, h⟩ := exists_of_except_bind h
      obtain ⟨ts, hts, -⟩ := exists_of_except_bind h
      exact ⟨⟨⟨name, hname⟩, t, ht⟩, ts, hts⟩
    · rintro ⟨⟨⟨name, hname⟩, t, ht⟩, ts, hts⟩
      exact ⟨(name, t) :: ts, by rw [treeEntries?, hname, ht, hts]; rfl⟩

theorem canonical_seq {items : List Document} :
    Canonical (.seq items) ↔ ∀ d ∈ items, Canonical d := by
  rw [← exists_treeItems?_iff]
  constructor
  · rintro ⟨t, h⟩
    rw [tree?] at h
    obtain ⟨ts, hts, -⟩ := exists_of_except_bind h
    exact ⟨ts, hts⟩
  · rintro ⟨ts, hts⟩
    exact ⟨.seq ts, by rw [tree?, hts]; rfl⟩

/-- Whether a map has a canonical tree does not depend on the order of its entries. -/
theorem canonical_map {entries : List (Key × Document)} :
    Canonical (.map entries) ↔ ∀ e ∈ entries, CanonicalEntry e := by
  rw [← exists_treeEntries?_iff]
  constructor
  · rintro ⟨t, h⟩
    rw [tree?] at h
    obtain ⟨ts, hts, -⟩ := exists_of_except_bind h
    exact ⟨ts, hts⟩
  · rintro ⟨ts, hts⟩
    exact ⟨.map (sortEntries ts), by rw [tree?, hts]; rfl⟩

/-- The entries of a map are written in their order, each with the text of its key. -/
theorem entries_of_ordered? {entries : List (Key × Document)} {js : List (String × Json)}
    (h : orderedEntries? entries = .ok js) :
    List.Forall₂ (fun e j ↦ keyText e.1 = .ok j.1 ∧ e.2.ordered? = .ok j.2) entries js := by
  induction entries generalizing js with
  | nil =>
    obtain rfl := Except.ok.inj h
    exact .nil
  | cons e rest ih =>
    obtain ⟨k, d⟩ := e
    rw [orderedEntries?] at h
    obtain ⟨name, hname, h⟩ := exists_of_except_bind h
    obtain ⟨j, hj, h⟩ := exists_of_except_bind h
    obtain ⟨js, hjs, h⟩ := exists_of_except_bind h
    obtain rfl := Except.ok.inj h
    exact .cons ⟨hname, hj⟩ (ih hjs)

/-- A record is written with its fields in the order of their declaration. -/
theorem fields_of_text? {τ α : Type} [HasDocument α] {fs : List (Field τ α)} {line : String}
    (h : text? (.map (fs.map fun f ↦ (.text f.name, document f.value))) = .ok line) :
    ∃ js, line = Json.print (.map js) ∧
      List.Forall₂ (fun f j ↦ j.1 = f.name ∧ (document f.value).ordered? = .ok j.2) fs js := by
  rw [text?, ordered?] at h
  obtain ⟨j, hj, h⟩ := exists_of_except_bind h
  obtain ⟨js, hjs, hj⟩ := exists_of_except_bind hj
  obtain rfl := Except.ok.inj hj
  refine ⟨js, (Except.ok.inj h).symm, ?_⟩
  refine (List.forall₂_map_left_iff.mp (entries_of_ordered? hjs)).imp ?_
  rintro f ⟨name, j⟩ ⟨hname, hvalue⟩
  exact ⟨(Except.ok.inj hname).symm, hvalue⟩

/-! ## The text in a log -/

/-- The value is neither a text nor null. -/
def isOther : Json → Bool
  | .text _ => false
  | .null => false
  | _ => true

/-- A document whose canonical tree is neither a text nor null is in a log as it is written. -/
theorem logText_of_tree? {d : Document} {t : Json} (ht : d.tree? = .ok t)
    (hother : isOther t = true) : logText d = d.text? := by
  show (d.tree? >>= _) = _
  rw [ht]
  cases t with
  | text s => cases hother
  | null => cases hother
  | bool _ => rfl
  | number _ => rfl
  | seq _ => rfl
  | map _ => rfl

/-- Where a document is in a log as it is written, its text must not start as a string or as
null. -/
theorem shows_of_startsOther {d : Document} {line : String} (hlog : logText d = d.text?)
    (htext : d.text? = .ok line) (h : StartsOther line.toList) :
    ∃ out, logText d = .ok out ∧ Shows line out :=
  ⟨line, hlog.trans htext, h.shows⟩

/-- A floating-point number is in a log as it is written, and what has no digits is not there. -/
theorem shows_float {x : Number} {f : Format} {l : Decimal.Layout} {y : Datum}
    (hline : x.text = (y.text? f l).getD "null") {t : Json} (hother : isOther t = true)
    (htree : tree? (.number x) = .ok (if (y.text? f l).isSome then t else .null)) :
    ∃ out, logText (.number x : Document) = .ok out ∧ Shows x.text out := by
  cases hy : y.text? f l with
  | some s =>
    rw [hy] at hline htree
    refine shows_of_startsOther (logText_of_tree? htree hother) rfl ?_
    rw [hline]
    exact Datum.startsOther_text? hy
  | none =>
    rw [hy] at hline htree
    refine ⟨"", ?_, hline ▸ .null⟩
    show (tree? (.number x) >>= _) = _
    rw [htree]
    rfl

/-- **What can be written and is narrow is in a log as its JSON text is shown.** -/
theorem shows_logText {d : Document} {t j : Json} (ht : d.tree? = .ok t)
    (hj : d.ordered? = .ok j) : ∃ out, logText d = .ok out ∧ Shows j.print out := by
  have htext : d.text? = .ok j.print := by rw [text?, hj]; rfl
  cases d with
  | null =>
    obtain rfl := Except.ok.inj hj
    exact ⟨"", rfl, .null⟩
  | text s =>
    obtain rfl := Except.ok.inj hj
    exact ⟨s, rfl, .text (Json.spellsText_quote s)⟩
  | bool b =>
    obtain rfl := Except.ok.inj hj
    refine shows_of_startsOther rfl htext ?_
    cases b with
    | true => exact .of_head (by decide) (by decide)
    | false => exact .of_head (by decide) (by decide)
  | number x =>
    obtain rfl := Except.ok.inj hj
    cases x with
    | double y =>
      exact shows_float (l := Double.layout) (t := .number (.double y)) rfl rfl rfl
    | single y =>
      exact shows_float (l := Single.layout) (t := .number (.double y.toDouble)) rfl rfl rfl
    | int n =>
      have hspelled := Json.Numeral.spelled_ofInt n
      obtain ⟨c, cs, hcs, hc⟩ := hspelled.exists_head
      have hstarts : StartsOther (toString n).toList := by
        rw [hcs]
        rcases hc with rfl | hc
        · exact .of_head (by decide) (by decide)
        · exact .of_isDigit hc
      refine shows_of_startsOther (logText_of_tree? ht ?_) htext hstarts
      rw [tree?, canonicalNumber?] at ht
      split at ht
      · obtain rfl := Except.ok.inj ht
        rfl
      · cases ht
  | seq items =>
    rw [tree?] at ht
    obtain ⟨ts, hts, ht⟩ := exists_of_except_bind ht
    obtain rfl := Except.ok.inj ht
    rw [ordered?] at hj
    obtain ⟨js, -, hj⟩ := exists_of_except_bind hj
    obtain rfl := Except.ok.inj hj
    refine shows_of_startsOther (logText_of_tree? (t := .seq ts) ?_ rfl) htext ?_
    · rw [tree?, hts]
      rfl
    · rw [Json.toList_print_seq]
      exact .of_head (by decide) (by decide)
  | map entries =>
    rw [tree?] at ht
    obtain ⟨ts, hts, ht⟩ := exists_of_except_bind ht
    obtain rfl := Except.ok.inj ht
    rw [ordered?] at hj
    obtain ⟨js, -, hj⟩ := exists_of_except_bind hj
    obtain rfl := Except.ok.inj hj
    refine shows_of_startsOther (logText_of_tree? (t := .map (sortEntries ts)) ?_ rfl)
      htext ?_
    · rw [tree?, hts]
      rfl
    · rw [Json.toList_print_map]
      exact .of_head (by decide) (by decide)

end Document

section

open Document (Judged)

variable {α : Type} [HasDocument α] (x : α)

theorem logText_eq_ok_iff (out : String) :
    logText x = .ok out ↔ (document x).narrow = true ∧
      ∃ line, (document x).text? = .ok line ∧ Json.Shows line out := by
  have hlog : logText x = logText (document x) := rfl
  constructor
  · intro h
    obtain ⟨t, ht, -⟩ := exists_of_except_bind h
    obtain ⟨hnarrow, j, hj⟩ := Document.of_tree?_eq_ok _ t ht
    obtain ⟨out', hout', hshows⟩ := Document.shows_logText ht hj
    obtain rfl := Except.ok.inj (hout'.symm.trans h)
    exact ⟨hnarrow, j.print, by rw [Document.text?, hj]; rfl, hshows⟩
  · rintro ⟨hnarrow, line, hline, hshows⟩
    obtain ⟨j, hj, hprint⟩ := exists_of_except_bind hline
    obtain rfl := Except.ok.inj hprint
    have hjudged := Document.judged_tree? _ j hj
    rw [hnarrow] at hjudged
    obtain ⟨t, ht⟩ := hjudged
    obtain ⟨out', hout', hshows'⟩ := Document.shows_logText ht hj
    rw [hlog, hout', hshows'.unique hshows]

theorem judged_logText {line : String} (h : (document x).text? = .ok line) :
    Judged (document x).narrow (logText x) := by
  obtain ⟨j, hj, -⟩ := exists_of_except_bind h
  have hjudged := Document.judged_tree? _ j hj
  cases hnarrow : (document x).narrow with
  | true =>
    rw [hnarrow] at hjudged
    obtain ⟨t, ht⟩ := hjudged
    obtain ⟨out, hout, -⟩ := Document.shows_logText ht hj
    exact ⟨out, hout⟩
  | false =>
    rw [hnarrow] at hjudged
    have htree : (document x).tree? = .error .outOfRange := hjudged
    show ((document x).tree? >>= _) = _
    rw [htree]
    rfl

/-- A record is in a log with its fields in the order of their declaration. -/
theorem logText_fields {τ β : Type} [HasDocument β] {fs : List (Field τ β)} {out : String}
    (hx : document x = .map (fs.map fun f ↦ (.text f.name, document f.value)))
    (h : logText x = .ok out) :
    ∃ js, out = Json.print (.map js) ∧
      List.Forall₂ (fun f j ↦ j.1 = f.name ∧ (document f.value).ordered? = .ok j.2) fs js := by
  obtain ⟨-, line, hline, hshows⟩ := (logText_eq_ok_iff x out).mp h
  rw [hx] at hline
  obtain ⟨js, rfl, hjs⟩ := Document.fields_of_text? hline
  have hother : Json.StartsOther (Json.print (.map js)).toList := by
    rw [Json.toList_print_map]
    exact .of_head (by decide) (by decide)
  exact ⟨js, hshows.unique hother.shows, hjs⟩

end

theorem Declared.documentFields_eq_map (fs : List (Field (List Tag) Plain)) :
    Declared.documentFields fs = fs.map fun f ↦ (.text f.name, document f.value) := by
  induction fs with
  | nil => rfl
  | cons f rest ih => exact congrArg _ ih

theorem Value.documentFields_eq_map (fs : List (Field TagMap Value)) :
    Value.documentFields fs = fs.map fun f ↦ (.text f.name, document f.value) := by
  induction fs with
  | nil => rfl
  | cons f rest ih => exact congrArg _ ih

/-- **A value is in a log exactly if it can be written and none of its integers is too wide for the
canonical tree**, and then it is there as its JSON text is shown.  What cannot be written is never
there; what can be written and has such an integer is refused for this reason alone.  The fields of
a record, be it declared or dynamic, are in the order of their declaration. -/
theorem logText_exact {α : Type} [HasDocument α] (x : α) :
    (∀ out, logText x = .ok out ↔ (document x).narrow = true ∧
      ∃ line, (document x).text? = .ok line ∧ Json.Shows line out) ∧
    (∀ line, (document x).text? = .ok line → Document.Judged (document x).narrow (logText x)) ∧
    (∀ (r : Record (List Tag) Plain) (out : String), logText (Declared.record r) = .ok out →
      ∃ js, out = Json.print (.map js) ∧ List.Forall₂
        (fun f j ↦ j.1 = f.name ∧ (document f.value).ordered? = .ok j.2) r.fields js) ∧
    ∀ (r : Record TagMap Value) (out : String), logText (Value.record r) = .ok out →
      ∃ js, out = Json.print (.map js) ∧ List.Forall₂
        (fun f j ↦ j.1 = f.name ∧ (document f.value).ordered? = .ok j.2) r.fields js := by
  refine ⟨logText_eq_ok_iff x, fun line ↦ judged_logText x, fun r out h ↦ ?_, fun r out h ↦ ?_⟩
  · refine logText_fields _ ?_ h
    exact congrArg _ (Declared.documentFields_eq_map r.fields)
  · refine logText_fields _ ?_ h
    exact congrArg _ (Value.documentFields_eq_map r.fields)

/-- An account with a name in quotes, a balance of any width and a rate that is not a number. -/
def account (balance : Int) : Record (List Tag) Plain :=
  ⟨"Account", [⟨"owner", [("log", "encrypt")], .text "\"Ada\""⟩,
    ⟨"balance", [], .present (.scalar (.int balance))⟩,
    ⟨"rate", [], .scalar (.double ⟨0x7ff8000000000000⟩)⟩]⟩

/-- The JSON text of this account when the balance has eight bytes. -/
def accountLine : String :=
  "\x7b\"owner\":\"\\\"Ada\\\"\",\"balance\":18446744073709551615,\"rate\":null\x7d"

theorem logText_exact_account :
    logText (Declared.record (account 18446744073709551615)) = .ok accountLine ∧
    logText (Declared.record (account 18446744073709551616)) = .error .outOfRange := by
  have hline : (document (Declared.record (account 18446744073709551615))).text? =
      .ok accountLine := by decide +kernel
  have hother : Json.StartsOther accountLine.toList := ⟨'\x7b', _, rfl, by decide, by decide⟩
  constructor
  · exact ((logText_exact _).1 accountLine).mpr ⟨by decide, accountLine, hline, hother.shows⟩
  · exact (logText_exact (Declared.record (account 18446744073709551616))).2.1 _ rfl

/-- **An integer of more than eight bytes has a JSON text, but is not shown in a log.** -/
theorem wide_integer_not_shown :
    ¬ ((∃ out, logText (Declared.scalar (.int 18446744073709551616) : Plain) = .ok out) ↔
      ∃ line,
        (document (Declared.scalar (.int 18446744073709551616) : Plain)).text? = .ok line) := by
  have htext : (document (Declared.scalar (.int 18446744073709551616) : Plain)).text? =
      .ok "18446744073709551616" := rfl
  have hlog : logText (Declared.scalar (.int 18446744073709551616) : Plain) =
      .error .outOfRange := rfl
  rintro ⟨-, h⟩
  obtain ⟨out, hout⟩ := h ⟨_, htext⟩
  rw [hlog] at hout
  cases hout

end Shroud
