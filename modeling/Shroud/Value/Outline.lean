import Shroud.Value.Basic

/-!
# The outline of a dynamic value

References are looked through, from the root of a value as well as inside it.  A sequence is walked
only where it is the root; anywhere else it is passed over.
-/

set_option autoImplicit false

namespace Shroud.Value

mutual

/-- What a walk sees of a value in the place of a field. -/
def outline : Value → Outline
  | text s => .text s
  | record ⟨name, fs⟩ => .record ⟨name, outlineFields fs⟩
  | timestamp _ => .timestamp
  | ref v => outline v
  | _ => .other

/-- The fields as a walk sees them. -/
def outlineFields : List (Field TagMap Value) → List (Field Lookup Outline)
  | [] => []
  | ⟨name, tags, v⟩ :: rest => ⟨name, tags.get?, outline v⟩ :: outlineFields rest

end

mutual

/-- The value with its texts replaced by those of an outline of the same form. -/
def fill : Value → Outline → Value
  | text _, .text s => text s
  | record ⟨name, fs⟩, .record ⟨_, os⟩ => record ⟨name, fillFields fs os⟩
  | ref v, o => ref (fill v o)
  | v, _ => v

/-- The fields with their texts replaced, one by one. -/
def fillFields : List (Field TagMap Value) → List (Field Lookup Outline) → List (Field TagMap Value)
  | ⟨name, tags, v⟩ :: rest, o :: os => ⟨name, tags, fill v o.value⟩ :: fillFields rest os
  | fs, _ => fs

end

instance : HasOutline Value := ⟨outline, fill⟩

/-- What a walk of the value starts from. -/
def root : Value → Root
  | record ⟨name, fs⟩ => .record ⟨name, outlineFields fs⟩
  | seq items => .sequence (items.map outline)
  | ref v => root v
  | bool _ => .unsupported .bool
  | int _ => .unsupported .integer
  | float _ => .unsupported .float
  | text _ => .unsupported .string
  | timestamp _ => .unsupported .timestamp
  | null => .unsupported .nullReference

/-- The value with its texts replaced by those of a root of the same form. -/
def refill : Value → Root → Value
  | record ⟨name, fs⟩, .record ⟨_, os⟩ => record ⟨name, fillFields fs os⟩
  | seq items, .sequence os => seq (fillEach items os)
  | ref v, r => ref (refill v r)
  | v, _ => v

instance : HasRoot Value := ⟨root, refill⟩

end Shroud.Value
