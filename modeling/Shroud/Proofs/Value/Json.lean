import Shroud.Json.Writing
import Shroud.Proofs.Json.ReadBack
import Shroud.Proofs.Value.Place
import Shroud.Value.Document

/-!
# The JSON value of a dynamic value

`json v` is the tree that a value is written as.  A record is an object with the fields in the order
of their declaration, a sequence is an array, and references are looked through.

A value from which a walk can start is an object or an array, so its text in a log is always the
text of its tree, and never a bare string or nothing (`logText_eq_of_walkable`).  If it holds no
floating-point number, whatever is written of it is read back (`readsBack_of_tree?`).
-/

set_option autoImplicit false

namespace Shroud

/-- What follows a computation that may fail is reached with its result. -/
theorem exists_of_except_bind {ε α β : Type} {x : Except ε α} {f : α → Except ε β} {b : β}
    (h : (x >>= f) = .ok b) : ∃ a, x = .ok a ∧ f a = .ok b := by
  cases x with
  | ok a => exact ⟨a, rfl, h⟩
  | error e => cases h

namespace Value

mutual

/-- The JSON value that a value is written as. -/
def json : Value → Json
  | bool b => .bool b
  | int n => .number (.int n)
  | float x => .number (.double x)
  | text s => .text s
  | timestamp t => .text t.text
  | null => .null
  | ref v => json v
  | seq items => .seq (jsonItems items)
  | record ⟨_, fs⟩ => .map (jsonFields fs)

/-- The JSON values of elements. -/
def jsonItems : List Value → List Json
  | [] => []
  | v :: rest => json v :: jsonItems rest

/-- The fields as entries, in their order. -/
def jsonFields : List (Field TagMap Value) → List (String × Json)
  | [] => []
  | ⟨name, _, v⟩ :: rest => (name, json v) :: jsonFields rest

end

mutual

/-- Nothing in the value is a floating-point number. -/
def Floatless : Value → Prop
  | float _ => False
  | ref v => Floatless v
  | seq items => FloatlessItems items
  | record ⟨_, fs⟩ => FloatlessFields fs
  | _ => True

/-- Nothing in the elements is a floating-point number. -/
def FloatlessItems : List Value → Prop
  | [] => True
  | v :: rest => Floatless v ∧ FloatlessItems rest

/-- Nothing in the fields is a floating-point number. -/
def FloatlessFields : List (Field TagMap Value) → Prop
  | [] => True
  | ⟨_, _, v⟩ :: rest => Floatless v ∧ FloatlessFields rest

end

/-! ## Writing -/

mutual

/-- What is written of a value is its JSON value. -/
theorem ordered?_document : ∀ v : Value, v.document.ordered? = .ok v.json
  | ref v => ordered?_document v
  | seq items => by
    rw [document, Document.ordered?, orderedItems?_document items]
    rfl
  | record ⟨name, fs⟩ => by
    rw [document, Document.ordered?, orderedEntries?_document fs]
    rfl
  | text _ => rfl
  | timestamp _ => rfl
  | bool _ => rfl
  | int _ => rfl
  | float _ => rfl
  | null => rfl

theorem orderedItems?_document : ∀ items : List Value,
    Document.orderedItems? (documentItems items) = .ok (jsonItems items)
  | [] => rfl
  | v :: rest => by
    rw [documentItems, Document.orderedItems?, ordered?_document v, orderedItems?_document rest]
    rfl

theorem orderedEntries?_document : ∀ fs : List (Field TagMap Value),
    Document.orderedEntries? (documentFields fs) = .ok (jsonFields fs)
  | [] => rfl
  | ⟨name, tags, v⟩ :: rest => by
    rw [documentFields, Document.orderedEntries?, ordered?_document v,
      orderedEntries?_document rest]
    rfl

end

mutual

/-- The numbers of a value without floating-point numbers are read back, if it has a canonical
tree: they have eight bytes then. -/
theorem readsBack_of_tree? : ∀ (v : Value) (j : Json), Floatless v → v.document.tree? = .ok j →
    ∀ n ∈ Json.numbers v.json, n.ReadsBack
  | int n, j, _, h => by
    rw [document, Document.tree?, Document.canonicalNumber?] at h
    split at h
    · rename_i hrange
      exact List.forall_mem_singleton.mpr (Number.readsBack_int hrange.1 hrange.2)
    · cases h
  | ref v, j, hv, h => readsBack_of_tree? v j hv h
  | seq items, j, hv, h => by
    rw [document, Document.tree?] at h
    obtain ⟨js, hjs, -⟩ := exists_of_except_bind h
    exact readsBack_of_treeItems? items js hv hjs
  | record ⟨name, fs⟩, j, hv, h => by
    rw [document, Document.tree?] at h
    obtain ⟨js, hjs, -⟩ := exists_of_except_bind h
    exact readsBack_of_treeEntries? fs js hv hjs
  | text _, _, _, _ => nofun
  | timestamp _, _, _, _ => nofun
  | bool _, _, _, _ => nofun
  | null, _, _, _ => nofun

theorem readsBack_of_treeItems? : ∀ (items : List Value) (js : List Json), FloatlessItems items →
    Document.treeItems? (documentItems items) = .ok js →
    ∀ n ∈ Json.itemNumbers (jsonItems items), n.ReadsBack
  | [], _, _, _ => nofun
  | v :: rest, js, hv, h => by
    rw [documentItems, Document.treeItems?] at h
    obtain ⟨j, hj, h⟩ := exists_of_except_bind h
    obtain ⟨js, hjs, -⟩ := exists_of_except_bind h
    exact List.forall_mem_append.mpr
      ⟨readsBack_of_tree? v j hv.1 hj, readsBack_of_treeItems? rest js hv.2 hjs⟩

theorem readsBack_of_treeEntries? : ∀ (fs : List (Field TagMap Value)) (js : List (String × Json)),
    FloatlessFields fs → Document.treeEntries? (documentFields fs) = .ok js →
    ∀ n ∈ Json.entryNumbers (jsonFields fs), n.ReadsBack
  | [], _, _, _ => nofun
  | ⟨name, tags, v⟩ :: rest, js, hv, h => by
    rw [documentFields, Document.treeEntries?] at h
    obtain ⟨_, -, h⟩ := exists_of_except_bind h
    obtain ⟨j, hj, h⟩ := exists_of_except_bind h
    obtain ⟨js, hjs, -⟩ := exists_of_except_bind h
    exact List.forall_mem_append.mpr
      ⟨readsBack_of_tree? v j hv.1 hj, readsBack_of_treeEntries? rest js hv.2 hjs⟩

end

/-! ## The text in a log -/

/-- A value from which a walk can start is written as an object or as an array. -/
theorem Walkable.json_cases {v : Value} (h : Walkable v) :
    (∃ fs, v.document = .map (documentFields fs) ∧ v.json = .map (jsonFields fs)) ∨
    ∃ items, v.document = .seq (documentItems items) ∧ v.json = .seq (jsonItems items) := by
  induction h with
  | record r => exact .inl ⟨r.fields, rfl, rfl⟩
  | seq items => exact .inr ⟨items, rfl, rfl⟩
  | ref _ ih => exact ih

/-- **The text of such a value in a log is the text of its tree**, and the value has a canonical
tree. -/
theorem logText_eq_of_walkable {v : Value} (hv : Walkable v) {line : String}
    (h : logText v = .ok line) :
    (∃ j, v.document.tree? = .ok j) ∧ line = v.json.print := by
  have htext : v.document.text? = .ok v.json.print := by
    rw [Document.text?, ordered?_document]
    rfl
  have hdocument : (HasDocument.document v : Document) = v.document := rfl
  rw [logText, hdocument] at h
  obtain ⟨j, hj, h⟩ := exists_of_except_bind h
  refine ⟨⟨j, hj⟩, ?_⟩
  rcases hv.json_cases with ⟨fs, hfs, -⟩ | ⟨items, hitems, -⟩
  · rw [hfs, Document.tree?] at hj
    obtain ⟨es, -, hj⟩ := exists_of_except_bind hj
    cases hj
    exact (Except.ok.inj (htext.symm.trans h)).symm
  · rw [hitems, Document.tree?] at hj
    obtain ⟨js, -, hj⟩ := exists_of_except_bind hj
    cases hj
    exact (Except.ok.inj (htext.symm.trans h)).symm

/-! ## Replaced texts -/

mutual

theorem Floatless.fill : ∀ (v : Value) (o : Outline), Floatless v → Floatless (v.fill o)
  | ref v, o, h => Floatless.fill v o h
  | record ⟨_, fs⟩, .record ⟨_, os⟩, h => FloatlessFields.fill fs os h
  | record ⟨_, _⟩, .text _, h => h
  | record ⟨_, _⟩, .timestamp, h => h
  | record ⟨_, _⟩, .other, h => h
  | text _, o, _ => by cases o <;> trivial
  | timestamp _, _, h => h
  | bool _, _, h => h
  | int _, _, h => h
  | null, _, h => h
  | seq _, _, h => h

theorem FloatlessFields.fill : ∀ (fs : List (Field TagMap Value))
    (os : List (Field Lookup Outline)), FloatlessFields fs → FloatlessFields (fillFields fs os)
  | [], _, _ => trivial
  | _ :: _, [], h => h
  | ⟨_, _, v⟩ :: rest, o :: os, h =>
    ⟨Floatless.fill v o.value h.1, FloatlessFields.fill rest os h.2⟩

end

theorem FloatlessItems.fill (items : List Value) (os : List Outline) (h : FloatlessItems items) :
    FloatlessItems (fillEach items os) := by
  induction items generalizing os with
  | nil => trivial
  | cons v rest ih =>
    cases os with
    | nil => trivial
    | cons o os => exact ⟨Floatless.fill v o h.1, ih os h.2⟩

/-- Replaced texts leave a value without floating-point numbers without them. -/
theorem Floatless.refill : ∀ (v : Value) (r : Root), Floatless v → Floatless (v.refill r)
  | ref v, r, h => Floatless.refill v r h
  | record ⟨_, fs⟩, .record ⟨_, os⟩, h => FloatlessFields.fill fs os h
  | record ⟨_, _⟩, .sequence _, h => h
  | record ⟨_, _⟩, .unsupported _, h => h
  | seq items, .sequence os, h => FloatlessItems.fill items os h
  | seq _, .record _, h => h
  | seq _, .unsupported _, h => h
  | text _, _, h => h
  | timestamp _, _, h => h
  | bool _, _, h => h
  | int _, _, h => h
  | null, _, h => h

theorem Walkable.refill {v : Value} (h : Walkable v) (r : Root) : Walkable (v.refill r) := by
  induction h with
  | record s => cases r <;> exact .record _
  | seq items => cases r <;> exact .seq _
  | ref _ ih => exact .ref ih

end Value

end Shroud
