import Shroud.Declared.Basic
import Shroud.Value.Document

/-!
# Declared data as documents

Optional values that are there and owned targets leave no trace; a record is a map from the names of
its fields.  Dates and times are texts.
-/

set_option autoImplicit false

namespace Shroud

/-- A scalar as it is handed to a writer. -/
def Scalar.document : Scalar → Document
  | unit => .null
  | bool b => .bool b
  | char c => .text (String.singleton c)
  | int n => .number (.int n)
  | double x => .number (.double x)
  | single x => .number (.single x)
  | date d => .text (String.ofList d.text)
  | time t => .text (String.ofList t.text)
  | civil d t => .text (String.ofList (civilText d t))

namespace Declared

mutual

/-- Plain data as it is handed to a writer. -/
def document : Plain → Document
  | scalar x => x.document
  | text s => .text s
  | moment t => .text t.text
  | absent => .null
  | present x => document x
  | owned x => document x
  | pointer p => nomatch p
  | list items => .seq (documentItems items)
  | dict entries => .map (documentEntries entries)
  | table entries => .map (documentEntries entries)
  | record ⟨_, fs⟩ => .map (documentFields fs)
  | dynamic v => v.document

/-- The elements as documents. -/
def documentItems : List Plain → List Document
  | [] => []
  | x :: rest => document x :: documentItems rest

/-- The entries as documents. -/
def documentEntries : List (Key × Plain) → List (Key × Document)
  | [] => []
  | (k, x) :: rest => (k, document x) :: documentEntries rest

/-- The fields as entries. -/
def documentFields : List (Field (List Tag) Plain) → List (Key × Document)
  | [] => []
  | ⟨name, _, x⟩ :: rest => (.text name, document x) :: documentFields rest

end

end Declared

instance : HasDocument Plain := ⟨Declared.document⟩

end Shroud
