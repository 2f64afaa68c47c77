import Shroud.Decimal.Binary

/-!
# JSON trees

A tree holds numbers, texts, sequences and maps.  The entries of a map are in order and keys may
repeat: an object of a text is kept as it was written, and a record as its fields were declared.

The type of keys is a parameter.  `Json` has texts as keys.  `Document` is the form in which all
data is handed to a writer: there a key is a scalar or something compound, of which JSON has no
name.
-/

set_option autoImplicit false

namespace Shroud

/-- A number: an integer of any size, or a floating-point number of eight or four bytes. -/
inductive Number where
  | int (n : Int)
  | double (x : Double)
  | single (x : Single)
  deriving DecidableEq

/-- A tree whose maps have keys of type `κ`. -/
inductive Tree (κ : Type) where
  | null
  | bool (b : Bool)
  | number (n : Number)
  | text (s : String)
  | seq (items : List (Tree κ))
  | map (entries : List (κ × Tree κ))

/-- A JSON value. -/
abbrev Json := Tree String

/-- The key of an entry before it is written. -/
inductive Key where
  | text (s : String)
  | int (n : Int)
  | bool (b : Bool)
  | char (c : Char)
  /-- A sequence, a record, an optional value: anything but a scalar. -/
  | compound
  deriving DecidableEq

/-- The text that stands for a key. -/
def Key.text? : Key → Option String
  | text s => some s
  | int n => some (toString n)
  | bool b => some (if b then "true" else "false")
  | char c => some (String.singleton c)
  | compound => none

/-- Data as it is handed to a writer. -/
abbrev Document := Tree Key

/-- Data that can be written. -/
class HasDocument (α : Type) where
  document : α → Document

instance : HasDocument String := ⟨.text⟩

instance {α : Type} [HasDocument α] : HasDocument (Option α) where
  document
    | some x => HasDocument.document x
    | none => .null

instance {α : Type} [HasDocument α] : HasDocument (List α) where
  document xs := .seq (xs.map HasDocument.document)

instance : HasDocument Document := ⟨id⟩

namespace Json

mutual

/-- A JSON value as it is handed to a writer. -/
def document : Json → Document
  | .null => .null
  | .bool b => .bool b
  | .number n => .number n
  | .text s => .text s
  | .seq items => .seq (documentItems items)
  | .map entries => .map (documentEntries entries)

/-- Elements as documents. -/
def documentItems : List Json → List Document
  | [] => []
  | v :: rest => document v :: documentItems rest

/-- Entries as entries of a document. -/
def documentEntries : List (String × Json) → List (Key × Document)
  | [] => []
  | (k, v) :: rest => (.text k, document v) :: documentEntries rest

end

instance : HasDocument Json := ⟨document⟩

end Json

end Shroud
