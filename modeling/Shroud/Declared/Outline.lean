import Shroud.Declared.Basic
import Shroud.Value.Outline

/-!
# The outline of declared data

A walk looks through optional values and owned targets.  What it sees behind a pointer depends on
who else holds the target, and so it is a parameter here; plain data has no pointers, and its
outline is complete.  Of the annotations that a declaration gives to a field, the first of a key
counts.
-/

set_option autoImplicit false

namespace Shroud

/-- What is seen of data: as the content of a field, and as the start of a walk. -/
structure Sight where
  inner : Outline
  whole : Root

namespace Declared

variable {π : Type} (look : π → Sight)

mutual

/-- What a walk sees of the data in the place of a field. -/
def outline : Declared π → Outline
  | text s => .text s
  | moment _ => .timestamp
  | present x => outline x
  | owned x => outline x
  | pointer p => (look p).inner
  | record ⟨name, fs⟩ => .record ⟨name, outlineFields fs⟩
  | dynamic v => v.outline
  | scalar _ => .other
  | absent => .other
  | list _ => .other
  | dict _ => .other
  | table _ => .other

/-- The fields as a walk sees them. -/
def outlineFields : List (Field (List Tag) (Declared π)) → List (Field Lookup Outline)
  | [] => []
  | ⟨name, tags, x⟩ :: rest => ⟨name, (Tags.declared tags).get?, outline x⟩ :: outlineFields rest

end

/-- What a walk of the data starts from. -/
def root : Declared π → Root
  | record ⟨name, fs⟩ => .record ⟨name, outlineFields look fs⟩
  | list items => .sequence (items.map (outline look))
  | present x => root x
  | owned x => root x
  | pointer p => (look p).whole
  | dynamic v => v.root
  | absent => .unsupported .nullReference
  | text _ => .unsupported .string
  | moment _ => .unsupported .timestamp
  | scalar x => .unsupported x.kind
  | dict _ => .unsupported .map
  | table _ => .unsupported .map

/-- What is seen of the data. -/
def sight (x : Declared π) : Sight := ⟨outline look x, root look x⟩

mutual

/-- The data with its texts replaced by those of an outline of the same form; targets elsewhere
stay. -/
def fill : Declared π → Outline → Declared π
  | text _, .text s => text s
  | present x, o => present (fill x o)
  | owned x, o => owned (fill x o)
  | record ⟨name, fs⟩, .record ⟨_, os⟩ => record ⟨name, fillFields fs os⟩
  | dynamic v, o => dynamic (v.fill o)
  | x, _ => x

/-- The fields with their texts replaced, one by one. -/
def fillFields : List (Field (List Tag) (Declared π)) → List (Field Lookup Outline) →
    List (Field (List Tag) (Declared π))
  | ⟨name, tags, x⟩ :: rest, o :: os => ⟨name, tags, fill x o.value⟩ :: fillFields rest os
  | fs, _ => fs

end

/-- The data with its texts replaced by those of a root of the same form; targets elsewhere stay. -/
def refill : Declared π → Root → Declared π
  | record ⟨name, fs⟩, .record ⟨_, os⟩ => record ⟨name, fillFields fs os⟩
  | list items, .sequence os => list (List.zipWith fill items os)
  | present x, r => present (refill x r)
  | owned x, r => owned (refill x r)
  | dynamic v, r => dynamic (v.refill r)
  | x, _ => x

end Declared

instance : HasOutline Plain := ⟨Declared.outline nofun, Declared.fill⟩

instance : HasRoot Plain := ⟨Declared.root nofun, Declared.refill⟩

end Shroud
