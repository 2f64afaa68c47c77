import Shroud.Value.Basic
import Shroud.Calendar.Timestamp
import Shroud.Json.Quote

/-!
# The canonical text of a dynamic value

Two values have the same canonical text exactly when they are the same in every detail: references
are marked with `&`, floating-point numbers are given by their bits, and every field shows its
annotations in the order of their keys.
-/

set_option autoImplicit false

namespace Shroud.Value

/-- A timestamp as seconds and nanoseconds. -/
def dumpInstant (t : Instant) : String :=
  "@" ++ toString t.seconds ++ "." ++ String.ofList (padded 9 t.nanos)

/-- The annotations of a field, in the order of their keys. -/
def dumpTags (tags : TagMap) : String :=
  String.join (tags.entries.map fun t ↦ "#" ++ Json.quote t.1 ++ "=" ++ Json.quote t.2)

mutual

/-- The canonical text of a value. -/
def dump : Value → String
  | bool b => if b then "true" else "false"
  | int n => toString n
  | float x => "f" ++ String.ofList (Text.hexOfNat 16 x.bits.toNat)
  | text s => Json.quote s
  | timestamp t => dumpInstant t
  | null => "null"
  | ref v => "&" ++ dump v
  | seq items => "[" ++ String.intercalate "," (dumpItems items) ++ "]"
  | record ⟨name, fs⟩ =>
    Json.quote name ++ "\x7b" ++ String.intercalate "," (dumpFields fs) ++ "\x7d"

/-- The canonical texts of elements. -/
def dumpItems : List Value → List String
  | [] => []
  | v :: rest => dump v :: dumpItems rest

/-- The canonical texts of fields. -/
def dumpFields : List (Field TagMap Value) → List String
  | [] => []
  | ⟨name, tags, v⟩ :: rest =>
    (Json.quote name ++ dumpTags tags ++ ":" ++ dump v) :: dumpFields rest

end

end Shroud.Value
