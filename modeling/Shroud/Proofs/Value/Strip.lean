import Shroud.Proofs.Log.Obscured
import Shroud.Proofs.Value.Place

/-!
# References leave no trace

`strip` takes the references out of a value; only a reference to nothing stays, for there is nothing
else in its place.  Whatever looks at a value looks through its references, each function on its own
way: the start of a walk, the outline of a field, the observers and the writer.  So all of them find
in `strip v` what they find in `v`, and a walk does to `strip v` what it does to `v`
(`references_unseen`).

It follows that a reference may be put around any part of a value (`wrapAt`), and nobody who
selects, counts records or writes a line for the log will notice.
-/

set_option autoImplicit false

namespace Shroud.Value

/-! ## Values without references -/

mutual

/-- The value without its references; a reference to nothing stays. -/
def strip : Value → Value
  | ref v => strip v
  | seq items => seq (stripItems items)
  | record ⟨name, fs⟩ => record ⟨name, stripFields fs⟩
  | v => v

/-- The elements without their references. -/
def stripItems : List Value → List Value
  | [] => []
  | v :: rest => strip v :: stripItems rest

/-- The fields without their references. -/
def stripFields : List (Field TagMap Value) → List (Field TagMap Value)
  | [] => []
  | ⟨name, tags, v⟩ :: rest => ⟨name, tags, strip v⟩ :: stripFields rest

end

/-- The record without the references in its fields. -/
def stripRecord (r : Record TagMap Value) : Record TagMap Value := ⟨r.name, stripFields r.fields⟩

theorem stripItems_eq_map (items : List Value) : stripItems items = items.map strip := by
  induction items with
  | nil => rfl
  | cons v rest ih => simp [stripItems, ih]

theorem stripFields_eq_map (fs : List (Field TagMap Value)) :
    stripFields fs = fs.map fun f ↦ { f with value := strip f.value } := by
  induction fs with
  | nil => rfl
  | cons f rest ih => simp [stripFields, ih]

/-! ## What a walk sees -/

mutual

theorem outline_strip : ∀ v : Value, (strip v).outline = v.outline
  | ref v => by rw [strip, outline, outline_strip v]
  | record ⟨name, fs⟩ => by rw [strip, outline, outline, outlineFields_stripFields fs]
  | text _ => rfl
  | timestamp _ => rfl
  | bool _ => rfl
  | int _ => rfl
  | float _ => rfl
  | null => rfl
  | seq _ => rfl

theorem outlineFields_stripFields :
    ∀ fs : List (Field TagMap Value), outlineFields (stripFields fs) = outlineFields fs
  | [] => rfl
  | ⟨name, tags, v⟩ :: rest => by
    rw [stripFields, outlineFields, outlineFields, outline_strip v, outlineFields_stripFields rest]

end

theorem root_strip : ∀ v : Value, (strip v).root = v.root
  | ref v => by rw [strip, root, root_strip v]
  | record ⟨name, fs⟩ => by rw [strip, root, root, outlineFields_stripFields fs]
  | seq items => by
    have hitems : ∀ v ∈ items, (strip v).outline = v.outline := fun v _ ↦ outline_strip v
    simpa [strip, root, stripItems_eq_map] using hitems
  | text _ => rfl
  | timestamp _ => rfl
  | bool _ => rfl
  | int _ => rfl
  | float _ => rfl
  | null => rfl

/-! ## What a walk puts back -/

mutual

theorem strip_fill : ∀ (v : Value) (o : Outline), strip (v.fill o) = (strip v).fill o
  | ref v, o => by rw [fill, strip, strip, strip_fill v o]
  | text _, o => by cases o <;> rfl
  | record ⟨name, fs⟩, o => by
    cases o with
    | record r => rw [fill, strip, strip, fill, stripFields_fillFields fs r.fields]
    | _ => rfl
  | timestamp _, _ => rfl
  | bool _, _ => rfl
  | int _, _ => rfl
  | float _, _ => rfl
  | null, _ => rfl
  | seq _, _ => rfl

theorem stripFields_fillFields :
    ∀ (fs : List (Field TagMap Value)) (os : List (Field Lookup Outline)),
      stripFields (fillFields fs os) = fillFields (stripFields fs) os
  | [], _ => rfl
  | _ :: _, [] => rfl
  | ⟨name, tags, v⟩ :: rest, o :: os => by
    rw [fillFields, stripFields, stripFields, fillFields, strip_fill v o.value,
      stripFields_fillFields rest os]

end

theorem stripItems_fillEach (items : List Value) (os : List Outline) :
    stripItems (fillEach items os) = fillEach (stripItems items) os := by
  induction items generalizing os with
  | nil => rfl
  | cons v rest ih =>
    cases os with
    | nil => rfl
    | cons o os =>
      show strip (fill v o) :: stripItems (fillEach rest os) =
        fill (strip v) o :: fillEach (stripItems rest) os
      rw [strip_fill, ih]

theorem strip_refill (r : Root) : ∀ v : Value, strip (v.refill r) = (strip v).refill r
  | ref v => by rw [refill, strip, strip, strip_refill r v]
  | record ⟨name, fs⟩ => by
    cases r with
    | record r => rw [refill, strip, strip, refill, stripFields_fillFields fs r.fields]
    | _ => rfl
  | seq items => by
    cases r with
    | sequence os => rw [refill, strip, strip, refill, stripItems_fillEach items os]
    | _ => rfl
  | text _ => rfl
  | timestamp _ => rfl
  | bool _ => rfl
  | int _ => rfl
  | float _ => rfl
  | null => rfl

theorem commutes_strip {σ ε : Type} (p : Pass σ ε) (v : Value) : p.Commutes strip v :=
  Pass.commutes_of_root (root_strip v) fun r ↦ (strip_refill r v).symm

/-! ## What others see -/

theorem asText?_strip : ∀ v : Value, (strip v).asText? = v.asText?
  | ref v => by rw [strip, asText?, asText?_strip v]
  | text _ => rfl
  | record _ => rfl
  | timestamp _ => rfl
  | bool _ => rfl
  | int _ => rfl
  | float _ => rfl
  | null => rfl
  | seq _ => rfl

theorem asRecord?_strip : ∀ v : Value, (strip v).asRecord? = v.asRecord?.map stripRecord
  | ref v => by rw [strip, asRecord?, asRecord?_strip v]
  | record _ => rfl
  | text _ => rfl
  | timestamp _ => rfl
  | bool _ => rfl
  | int _ => rfl
  | float _ => rfl
  | null => rfl
  | seq _ => rfl

mutual

/-- **A writer gets the same data.** -/
theorem document_strip : ∀ v : Value, (strip v).document = v.document
  | ref v => by rw [strip, document, document_strip v]
  | seq items => by rw [strip, document, document, documentItems_stripItems items]
  | record ⟨name, fs⟩ => by rw [strip, document, document, documentFields_stripFields fs]
  | text _ => rfl
  | timestamp _ => rfl
  | bool _ => rfl
  | int _ => rfl
  | float _ => rfl
  | null => rfl

theorem documentItems_stripItems :
    ∀ items : List Value, documentItems (stripItems items) = documentItems items
  | [] => rfl
  | v :: rest => by
    rw [stripItems, documentItems, documentItems, document_strip v, documentItems_stripItems rest]

theorem documentFields_stripFields :
    ∀ fs : List (Field TagMap Value), documentFields (stripFields fs) = documentFields fs
  | [] => rfl
  | ⟨name, tags, v⟩ :: rest => by
    rw [stripFields, documentFields, documentFields, document_strip v,
      documentFields_stripFields rest]

end

theorem logText_strip (v : Value) : logText (strip v) = logText v := by
  have hdocument : HasDocument.document (strip v) = HasDocument.document v := document_strip v
  rw [logText, logText, hdocument]

/-- The line for the log is the same, and so is what the log is told about it. -/
theorem obscured_strip {σ : Type} (c : Concealer σ) (v : Value) (key : String) :
    c.obscured (strip v) key = c.obscured v key :=
  c.obscured_of_commutes (commutes_strip _ v) logText_strip

/-! ## References around a part -/

/-- The value with `n` references put around the part at a place; a value without such a part
stays. -/
def wrapAt (n : Nat) : Place → Value → Value
  | [], v => refs n v
  | .target :: q, ref v => ref (wrapAt n q v)
  | .field i :: q, record ⟨name, fs⟩ =>
    record ⟨name, fs.modify i fun f ↦ { f with value := wrapAt n q f.value }⟩
  | .element i :: q, seq items => seq (items.modify i (wrapAt n q))
  | _, v => v

theorem strip_refs (n : Nat) (v : Value) : strip (refs n v) = strip v := by
  induction n with
  | zero => rfl
  | succ n ih => rw [refs, strip, ih]

/-- What a function does not tell apart, it does not tell apart in a list. -/
theorem map_modify_of_eq {α β : Type} {f : α → β} {change : α → α}
    (h : ∀ x, f (change x) = f x) (l : List α) (i : Nat) : (l.modify i change).map f = l.map f := by
  refine List.ext_getElem? fun j ↦ ?_
  rw [List.getElem?_map, List.getElem?_map, List.getElem?_modify]
  by_cases hij : i = j
  · cases l[j]? <;> simp [hij, h]
  · simp [hij]

/-- **The references around a part are taken out with the others.** -/
theorem strip_wrapAt (n : Nat) (q : Place) (v : Value) : strip (wrapAt n q v) = strip v := by
  induction q generalizing v with
  | nil => exact strip_refs n v
  | cons h q ih =>
    cases h with
    | target =>
      cases v with
      | ref v => rw [wrapAt, strip, strip, ih]
      | _ => rfl
    | field i =>
      cases v with
      | record r =>
        rw [wrapAt, strip, strip, stripFields_eq_map, stripFields_eq_map,
          map_modify_of_eq fun f ↦ by rw [ih]]
      | _ => rfl
    | element i =>
      cases v with
      | seq items =>
        rw [wrapAt, strip, strip, stripItems_eq_map, stripItems_eq_map, map_modify_of_eq ih]
      | _ => rfl

/-! ## Transparency -/

/-- **References are transparent.**  A walk of a value without its references calls the leaf with
the texts with which the walk of the value calls it, in the same order, and ends with the very same
failure, or with the result without its references.  The observers, the writer and the log find in
both what they find in one.

So references may be put around any part of a value: a walk meets the same texts, under the same
paths, and the same records too deep, in the same order; it ends alike; and the line for the log is
the same, as is what the log is told. -/
theorem references_unseen {σ ε : Type} (p : Pass σ ε) (v : Value) :
    p.Commutes strip v ∧
    ((strip v).asText? = v.asText? ∧
      (strip v).asRecord? = v.asRecord?.map stripRecord ∧
      (strip v).outline.kind = v.outline.kind ∧
      (strip v).document.text? = v.document.text? ∧
      (strip v).document.tree? = v.document.tree? ∧
      logText (strip v) = logText v) ∧
    ∀ (n : Nat) (q : Place),
      (wrapAt n q v).root.events p.marker = v.root.events p.marker ∧
      strip <$> transform p (wrapAt n q v) = strip <$> transform p v ∧
      strip <$> transform p.recorded (wrapAt n q v) = strip <$> transform p.recorded v ∧
      logText (wrapAt n q v) = logText v ∧
      ∀ {τ : Type} (c : Concealer τ) (key : String),
        c.obscured (wrapAt n q v) key = c.obscured v key := by
  refine ⟨commutes_strip p v, ⟨asText?_strip v, asRecord?_strip v, ?_, ?_, ?_, logText_strip v⟩,
    fun n q ↦ ⟨?_, ?_, ?_, ?_, fun c key ↦ ?_⟩⟩
  · rw [outline_strip]
  · rw [document_strip]
  · rw [document_strip]
  · rw [← root_strip, strip_wrapAt, root_strip]
  · rw [← (commutes_strip p _).result, strip_wrapAt, (commutes_strip p v).result]
  · rw [← (commutes_strip p _).calls, strip_wrapAt, (commutes_strip p v).calls]
  · rw [← logText_strip, strip_wrapAt, logText_strip]
  · rw [← obscured_strip, strip_wrapAt, obscured_strip]

end Shroud.Value
