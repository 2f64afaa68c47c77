import Shroud.Proofs.Outline.Events
import Shroud.Value.Outline

/-!
# Places in a value

A place is the way from a value to a part of it: through references, into fields and to elements.
What a walk selects is said here by places and without the walk.

* `Walked v q r`: the record `r` at `q` is the root, an element of the sequence that is the root, or
  reached from one of these through fields and references.
* `Selected m v q s`: the text `s` at `q` is what a field of a walked record holds, and the marker
  means that field.
* `Occurs m v q e`: a selected text, or a walked record with too many records around it.

Places are ordered as a walk comes to them, and `mapTexts` changes the texts of a value by their
places.
-/

set_option autoImplicit false

namespace Shroud.Value

/-! ## Places -/

/-- A step from a value to a part of it. -/
inductive Hop where
  /-- To the target of a reference. -/
  | target
  /-- To the value of the field with an index. -/
  | field (index : Nat)
  /-- To the element with an index. -/
  | element (index : Nat)
  deriving DecidableEq

/-- The way from a value to a part of it. -/
abbrev Place := List Hop

namespace Hop

/-- How many parts the value has before the one that the step leads to. -/
def index : Hop → Nat
  | target => 0
  | field i => i
  | element i => i

/-- The step enters a record. -/
def isField : Hop → Bool
  | field _ => true
  | _ => false

end Hop

namespace Place

/-- The number of records around a place. -/
def depth (q : Place) : Nat := q.countP Hop.isField

/-- The order of a walk: a value before its parts, and these in the order of their declaration. -/
def Before (a b : Place) : Prop := a.map Hop.index < b.map Hop.index

end Place

/-- The path that tells of a field, put behind the one of what is around. -/
def pathFrom (path : String) : Place → Value → String
  | .target :: q, ref v => pathFrom path q v
  | .field i :: q, record r =>
    match r.fields[i]? with
    | some f => pathFrom (joinPath path f.name) q f.value
    | none => path
  | .element i :: q, seq items =>
    match items[i]? with
    | some v => pathFrom (elementPath i) q v
    | none => path
  | _, _ => path

mutual

/-- The value with every text replaced by another one, which may depend on the place of the text.
All else is as it was. -/
def mapTexts (change : Place → String → String) : Value → Value
  | text s => text (change [] s)
  | ref v => ref (mapTexts (fun q ↦ change (.target :: q)) v)
  | seq items => seq (mapItems change 0 items)
  | record ⟨name, fs⟩ => record ⟨name, mapFields change 0 fs⟩
  | v => v

/-- The elements from `index` on with every text replaced. -/
def mapItems (change : Place → String → String) (index : Nat) : List Value → List Value
  | [] => []
  | v :: rest =>
    mapTexts (fun q ↦ change (.element index :: q)) v :: mapItems change (index + 1) rest

/-- The fields from `index` on with every text replaced. -/
def mapFields (change : Place → String → String) (index : Nat) :
    List (Field TagMap Value) → List (Field TagMap Value)
  | [] => []
  | ⟨name, tags, v⟩ :: rest =>
    ⟨name, tags, mapTexts (fun q ↦ change (.field index :: q)) v⟩ ::
      mapFields change (index + 1) rest

end

/-! ## What is walked -/

/-- A walk can start from the value: behind its references there is a record or a sequence. -/
inductive Walkable : Value → Prop
  | record (r : Record TagMap Value) : Walkable (.record r)
  | seq (items : List Value) : Walkable (.seq items)
  | ref {v : Value} (h : Walkable v) : Walkable (.ref v)

/-- `Leads v q u`: from `v`, references alone lead to `u`, which is at the place `q`. -/
inductive Leads : Value → Place → Value → Prop
  | here (v : Value) : Leads v [] v
  | ref {v u : Value} {q : Place} (h : Leads v q u) : Leads (.ref v) (.target :: q) u

/-- `Reaches v q r`: from `v`, references and fields alone lead to the record `r` at `q`. -/
inductive Reaches : Value → Place → Record TagMap Value → Prop
  | here (r : Record TagMap Value) : Reaches (.record r) [] r
  | ref {v : Value} {q : Place} {r : Record TagMap Value} (h : Reaches v q r) :
      Reaches (.ref v) (.target :: q) r
  | field {r s : Record TagMap Value} {i : Nat} {f : Field TagMap Value} {q : Place}
      (hf : r.fields[i]? = some f) (h : Reaches f.value q s) :
      Reaches (.record r) (.field i :: q) s

/-- `Walked v q r`: a walk from `v` comes to the record `r` at `q`.  That is the root, an element of
the sequence that is the root, or a record reached from one of these. -/
inductive Walked : Value → Place → Record TagMap Value → Prop
  | record {r s : Record TagMap Value} {q : Place} (h : Reaches (.record r) q s) :
      Walked (.record r) q s
  | element {items : List Value} {i : Nat} {v : Value} {q : Place} {r : Record TagMap Value}
      (hv : items[i]? = some v) (h : Reaches v q r) : Walked (.seq items) (.element i :: q) r
  | ref {v : Value} {q : Place} {r : Record TagMap Value} (h : Walked v q r) :
      Walked (.ref v) (.target :: q) r

/-- `Selected m v q s`: the text `s` at `q` is what a field of a walked record holds, through any
number of references, and the annotation of the field under the tag of the marker, which counts as
empty when it is missing, is the value of the marker. -/
inductive Selected (m : Marker) (v : Value) : Place → String → Prop
  | mk {q q' : Place} {r : Record TagMap Value} {i : Nat} {f : Field TagMap Value} {s : String}
      (hr : Walked v q r) (hf : r.fields[i]? = some f)
      (hm : (f.tags.get? m.tag).getD "" = m.value) (hs : Leads f.value q' (.text s)) :
      Selected m v (q ++ .field i :: q') s

/-- `Occurs m v q e`: the event `e` belongs to the place `q` of a walk from `v`.  It is a selected
text, under its path, or a walked record with at least 128 others around it. -/
inductive Occurs (m : Marker) (v : Value) : Place → Event → Prop
  | text {q : Place} {s : String} (h : Selected m v q s) : Occurs m v q (.text (pathFrom "" q v) s)
  | tooDeep {q : Place} {r : Record TagMap Value} (h : Walked v q r) (hdepth : 128 ≤ q.depth) :
      Occurs m v q .tooDeep

theorem Place.depth_cons (h : Hop) (q : Place) :
    Place.depth (h :: q) = Place.depth q + if h.isField then 1 else 0 := List.countP_cons

end Shroud.Value
