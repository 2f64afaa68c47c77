import Shroud.Annotation.Tags

/-!
# Outlines

A walk over a value sees little of it: where records are, which fields they have and how these are
annotated, and the texts that a field holds.  An `Outline` is that much and no more.  Every kind of
value that can be walked gives its outline, and takes an outline of the same form back: the walk
itself is written once, on outlines.

Optional values and references are looked through, so they leave no trace in an outline.  Numbers,
sequences, maps and null references inside a record are all `other`, and a timestamp is told apart
from them only by name.
-/

set_option autoImplicit false

namespace Shroud

/-- A named field: its annotations in the form `τ` and what it holds. -/
structure Field (τ α : Type) where
  name : String
  tags : τ
  value : α
  deriving DecidableEq

/-- A record: the name of its type and its fields in order.  Names of fields may repeat. -/
structure Record (τ α : Type) where
  name : String
  fields : List (Field τ α)
  deriving DecidableEq

/-- What a walk may ask about the annotations of a field: the value under a key. -/
abbrev Lookup := String → Option String

/-- What a walk sees of a value in the place of a field. -/
inductive Outline where
  /-- A text. -/
  | text (s : String)
  /-- A record. -/
  | record (r : Record Lookup Outline)
  /-- A timestamp. -/
  | timestamp
  /-- Anything else. -/
  | other

namespace Outline

/-- The name of the kind of an outline. -/
def kind : Outline → String
  | text _ => "string"
  | record _ => "record"
  | timestamp => "timestamp"
  | other => "other"

end Outline

/-- What was found where a record or a sequence was needed. -/
inductive Kind where
  | nullReference
  | unit
  | bool
  | char
  | integer
  | float
  | string
  | date
  | time
  | timestamp
  | map
  deriving DecidableEq

/-- The name of a kind. -/
def Kind.text : Kind → String
  | nullReference => "null reference"
  | unit => "unit"
  | bool => "bool"
  | char => "char"
  | integer => "integer"
  | float => "float"
  | string => "string"
  | date => "date"
  | time => "time"
  | timestamp => "timestamp"
  | map => "map"

/-- What a walk starts from. -/
inductive Root where
  /-- One record. -/
  | record (r : Record Lookup Outline)
  /-- A sequence; those of its elements that are records are walked. -/
  | sequence (items : List Outline)
  /-- Nothing that can be walked. -/
  | unsupported (found : Kind)

/-- Values that can stand in a field or be an element of a sequence. -/
class HasOutline (α : Type) where
  /-- What a walk sees of the value. -/
  outline : α → Outline
  /-- The value with its texts replaced by those of an outline of the same form. -/
  fill : α → Outline → α

/-- Values from which a walk can start. -/
class HasRoot (α : Type) where
  /-- What a walk of the value starts from. -/
  root : α → Root
  /-- The value with its texts replaced by those of a root of the same form. -/
  refill : α → Root → α

/-! ## Texts, optional values and lists -/

instance : HasOutline String where
  outline := .text
  fill
    | _, .text s => s
    | s, _ => s

instance {α : Type} [HasOutline α] : HasOutline (Option α) where
  outline
    | some x => HasOutline.outline x
    | none => .other
  fill x o := x.map fun y ↦ HasOutline.fill y o

instance {α : Type} [HasRoot α] : HasRoot (Option α) where
  root
    | some x => HasRoot.root x
    | none => .unsupported .nullReference
  refill x r := x.map fun y ↦ HasRoot.refill y r

/-- The elements with their texts replaced, one by one. -/
def fillEach {α : Type} [HasOutline α] (xs : List α) (os : List Outline) : List α :=
  List.zipWith HasOutline.fill xs os

instance {α : Type} [HasOutline α] : HasRoot (List α) where
  root xs := .sequence (xs.map HasOutline.outline)
  refill
    | xs, .sequence os => fillEach xs os
    | xs, _ => xs

end Shroud
