import Shroud.Value.Basic
import Shroud.Json.Basic
import Shroud.Calendar.Timestamp

/-!
# Dynamic values as documents

References leave no trace, a reference to nothing is null, and a record is a map from the names of
its fields, in their order and with repeated names kept.  Annotations are not written.
-/

set_option autoImplicit false

namespace Shroud.Value

mutual

/-- A value as it is handed to a writer. -/
def document : Value → Document
  | bool b => .bool b
  | int n => .number (.int n)
  | float x => .number (.double x)
  | text s => .text s
  | timestamp t => .text t.text
  | null => .null
  | ref v => document v
  | seq items => .seq (documentItems items)
  | record ⟨_, fs⟩ => .map (documentFields fs)

/-- The elements as documents. -/
def documentItems : List Value → List Document
  | [] => []
  | v :: rest => document v :: documentItems rest

/-- The fields as entries. -/
def documentFields : List (Field TagMap Value) → List (Key × Document)
  | [] => []
  | ⟨name, _, v⟩ :: rest => (.text name, document v) :: documentFields rest

end

instance : HasDocument Value := ⟨document⟩

end Shroud.Value
