import Shroud.Declared.Outline
import Shroud.Outline.Walk

/-!
# Shared targets

Linked data holds pointers into a heap.  Several pointers may lead to one target, and a target may
also be held from outside; each cell of the heap counts its holders.

A walk may enter a target only through its single holder, because whoever else holds it would see
the change.  So a walk of linked data first makes a duplicate, in which every pointer has a fresh
target of its own, and then works on the duplicate.  The cells that were there before stay as they
are.
-/

set_option autoImplicit false

namespace Shroud

/-- The name of a cell: the number of cells that are older. -/
abbrev Handle := Nat

/-- Data with pointers into a heap. -/
abbrev Linked := Declared Handle

/-- A target and the number of its holders. -/
structure Cell where
  holders : Nat
  content : Linked

/-- The cells, the newest first.  A cell points only to older ones. -/
abbrev Heap := List Cell

namespace Heap

/-- What stands at a handle, in a list with one entry for each cell. -/
def find? {α : Type} : List α → Handle → Option α
  | [], _ => none
  | x :: older, h => if h = older.length then some x else find? older h

/-- Something for each cell, made from the cell and from what was made for the older ones. -/
def build {α : Type} (make : (Handle → Option α) → Cell → α) : Heap → List α
  | [] => []
  | c :: older =>
    let made := build make older
    make (find? made) c :: made

/-- A new cell with one holder. -/
def alloc (x : Linked) : StateM Heap Handle := fun heap ↦ (heap.length, ⟨1, x⟩ :: heap)

/-- The heap with one more holder of a cell. -/
def retain (h : Handle) : Heap → Heap
  | [] => []
  | c :: older => if h = older.length then { c with holders := c.holders + 1 } :: older
    else c :: retain h older

/-! ## Contents -/

/-- The content of a cell with every target written out in its place. -/
def contentOf (known : Handle → Option Plain) (c : Cell) : Plain :=
  c.content.subst fun h ↦ .owned ((known h).getD .absent)

/-- Linked data with every target written out in its place. -/
def contents (heap : Heap) (x : Linked) : Plain :=
  x.subst fun h ↦ .owned ((find? (build contentOf heap) h).getD .absent)

/-! ## Duplicates -/

/-- The making of a duplicate of a cell. -/
def copyOf (known : Handle → Option (StateM Heap Handle)) (c : Cell) : StateM Heap Handle := do
  let x ← c.content.substM fun h ↦ Declared.pointer <$> (known h).getD (alloc .absent)
  alloc x

/-- A duplicate: each pointer in it leads to a fresh target.  Its tables list their entries as those
of the original do, although they may hand them out in another order (`Arrangement`): no walk enters
a table. -/
def duplicate (x : Linked) : StateM Heap Linked := do
  let heap ← get
  x.substM fun h ↦ Declared.pointer <$> (find? (build copyOf heap) h).getD (alloc .absent)

/-! ## Sight -/

/-- What is seen through a pointer to a target that others may change. -/
def hidden : Sight := ⟨.other, .unsupported .nullReference⟩

/-- What is seen through a pointer to a cell: everything, if there is no other holder. -/
def sightOf (known : Handle → Option Sight) (c : Cell) : Sight :=
  if c.holders = 1 then c.content.sight fun h ↦ (known h).getD hidden else hidden

/-- What is seen through a pointer. -/
def look (heap : Heap) (h : Handle) : Sight := (find? (build sightOf heap) h).getD hidden

/-! ## Changes -/

/-- New texts for data: as the content of a field or as the start of a walk. -/
inductive Patch where
  | inner (o : Outline)
  | whole (r : Root)

/-- The data with new texts; targets elsewhere stay. -/
def applyTo (x : Linked) : Patch → Linked
  | .inner o => x.fill o
  | .whole r => x.refill r

mutual

/-- The pointers that a walk passed in data, with the new texts behind them. -/
def passed : Linked → Outline → List (Handle × Patch)
  | .pointer h, o => [(h, .inner o)]
  | .present x, o => passed x o
  | .owned x, o => passed x o
  | .record ⟨_, fs⟩, .record ⟨_, os⟩ => passedFields fs os
  | _, _ => []

/-- The pointers that a walk passed in fields. -/
def passedFields : List (Field (List Tag) Linked) → List (Field Lookup Outline) →
    List (Handle × Patch)
  | ⟨_, _, x⟩ :: rest, o :: os => passed x o.value ++ passedFields rest os
  | _, _ => []

end

/-- The pointers that a walk passed from its start. -/
def passedRoot : Linked → Root → List (Handle × Patch)
  | .record ⟨_, fs⟩, .record ⟨_, os⟩ => passedFields fs os
  | .list items, .sequence os => (List.zipWith passed items os).flatten
  | .present x, r => passedRoot x r
  | .owned x, r => passedRoot x r
  | .pointer h, r => [(h, .whole r)]
  | _, _ => []

/-- The pointers passed for a patch. -/
def passedBy (x : Linked) : Patch → List (Handle × Patch)
  | .inner o => passed x o
  | .whole r => passedRoot x r

/-- The heap with new texts written behind pointers, and behind the pointers in their targets. -/
def write (patches : List (Handle × Patch)) : Heap → Heap
  | [] => []
  | c :: older =>
    match patches.find? fun p ↦ p.1 == older.length with
    | some (_, p) =>
      { c with content := applyTo c.content p } :: write (patches ++ passedBy c.content p) older
    | none => c :: write patches older

/-- A copy of linked data with the selected texts replaced.

New texts are written once the walk has come to its end.  A walk that fails has written some of them
before, but only into the cells of its duplicate, whose pointers lead nowhere else; the duplicate is
dropped, and no pointer to these cells is left.  So what is in them then makes no difference, and
here they keep their old texts. -/
def transform {σ ε : Type} (p : Pass σ ε) (x : Linked) : EStateM (Failure ε) (σ × Heap) Linked :=
  fun (s, heap) ↦
    let (copy, heap) := (duplicate x).run heap
    if p.key.isEmpty then .ok copy (s, heap)
    else match p.root (copy.root (look heap)) s with
      | .ok r s => .ok (copy.refill r) (s, write (passedRoot copy r) heap)
      | .error e s => .error e (s, heap)

end Heap

end Shroud
