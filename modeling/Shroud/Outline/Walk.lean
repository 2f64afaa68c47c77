import Shroud.Outline.Basic

/-!
# The walk

A walk visits the fields of a record in order.  A text goes through the leaf, if the marker selects
its field; a record inside is always entered, whether its field is annotated or not; all else is
passed over.  A walk that starts from a sequence visits those of its elements that are records.

The leaf is called with the text and the key.  It may carry a state and may refuse; the first
refusal ends the walk, and so does a record that lies under `depthLimit` others.  Nothing of a walk
that failed is kept but the state of the leaf.
-/

set_option autoImplicit false

namespace Shroud

/-- What is done to a text under a key: its replacement or a refusal, and the next state. -/
abbrev Leaf (σ ε : Type) := (text key : String) → EStateM ε σ String

/-- Why a walk failed. -/
inductive Failure (ε : Type) where
  /-- There was neither a record nor a sequence to start from. -/
  | unsupportedShape (found : Kind)
  /-- The leaf refused the text of a field. -/
  | leaf (path : String) (cause : ε)
  /-- Records lie too deep inside one another. -/
  | tooDeep (limit : Nat)
  deriving DecidableEq

namespace Failure

variable {ε : Type}

/-- The failure in words. -/
def message : Failure ε → String
  | unsupportedShape found =>
    "unsupported shape: input is not a struct or slice (found " ++ found.text ++ ")"
  | leaf path _ => "leaf transform failed at field `" ++ path ++ "`"
  | tooDeep limit => "value nests records deeper than " ++ toString limit ++ " levels"

/-- The leaf refused. -/
def isLeaf : Failure ε → Bool
  | leaf _ _ => true
  | _ => false

end Failure

/-- How many records may enclose a record that is entered, itself included. -/
def depthLimit : Nat := 128

/-- The path of a field inside the record at `parent`. -/
def joinPath (parent name : String) : String :=
  if parent.isEmpty then name else parent ++ "." ++ name

/-- The path of an element of the sequence that a walk starts from. -/
def elementPath (index : Nat) : String := "[" ++ toString index ++ "]"

/-- What stays the same during a walk. -/
structure Pass (σ ε : Type) where
  key : String
  marker : Marker
  leaf : Leaf σ ε

namespace Pass

variable {σ ε : Type} (p : Pass σ ε)

/-- The leaf applied to the text of the field at `path`. -/
def replace (path text : String) : EStateM (Failure ε) σ String :=
  EStateM.adaptExcept (Failure.leaf path) (p.leaf text p.key)

mutual

/-- The walk of a field: `path` is its path, `depth` the number of records around it. -/
def field (path : String) (depth : Nat) (tags : Lookup) : Outline → EStateM (Failure ε) σ Outline
  | .text s => do
    if p.marker.selects tags then return .text (← p.replace path s) else return .text s
  | .record r => do return .record (← record path depth r)
  | .timestamp => return .timestamp
  | .other => return .other

/-- The walk of a record at `path` with `depth` records around it. -/
def record (path : String) (depth : Nat) :
    Record Lookup Outline → EStateM (Failure ε) σ (Record Lookup Outline)
  | ⟨name, fs⟩ => do
    if depthLimit ≤ depth then throw (.tooDeep depthLimit)
    else return ⟨name, ← fields path (depth + 1) fs⟩

/-- The walk of the fields that are left of the record at `path`. -/
def fields (path : String) (depth : Nat) :
    List (Field Lookup Outline) → EStateM (Failure ε) σ (List (Field Lookup Outline))
  | [] => return []
  | ⟨name, tags, value⟩ :: rest => do
    let value ← field (joinPath path name) depth tags value
    return ⟨name, tags, value⟩ :: (← fields path depth rest)

end

/-- The walk of an element of the sequence that the walk starts from: only a record is entered. -/
def element (index : Nat) : Outline → EStateM (Failure ε) σ Outline
  | .record r => do return .record (← p.record (elementPath index) 0 r)
  | o => return o

/-- The walk of the elements from `index` on. -/
def elements (index : Nat) : List Outline → EStateM (Failure ε) σ (List Outline)
  | [] => return []
  | o :: rest => do
    let o ← p.element index o
    return o :: (← elements (index + 1) rest)

/-- The whole walk. -/
def root : Root → EStateM (Failure ε) σ Root
  | .record r => do return .record (← p.record "" 0 r)
  | .sequence items => do return .sequence (← p.elements 0 items)
  | .unsupported found => throw (.unsupportedShape found)

end Pass

/-- A copy of a value with the selected texts replaced.  With an empty key it is the value itself,
whatever its shape. -/
def transform {σ ε α : Type} [HasRoot α] (p : Pass σ ε) (x : α) : EStateM (Failure ε) σ α := do
  if p.key.isEmpty then return x else return HasRoot.refill x (← p.root (HasRoot.root x))

end Shroud
