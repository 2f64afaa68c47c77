import Shroud.Json.Printer

/-!
# Documents as JSON

A document becomes JSON in two ways.  `Document.ordered?` keeps the entries of its maps as they are,
and its text is what is written.  `Document.tree?` is the canonical tree, in which the keys of a map
are sorted and distinct and integers have eight bytes; it is the stricter of the two.  Both refuse
a key that no text stands for.
-/

set_option autoImplicit false

namespace Shroud

/-- Why a document has no JSON form. -/
inductive Unwritable where
  /-- A key is compound. -/
  | compoundKey
  /-- An integer does not fit into eight bytes. -/
  | outOfRange
  deriving DecidableEq

/-- The reason in words. -/
def Unwritable.message : Unwritable → String
  | compoundKey => "key must be a string"
  | outOfRange => "number out of range"

namespace Document

/-- The text that stands for a key, or the refusal. -/
def keyText (k : Key) : Except Unwritable String :=
  match k.text? with
  | some s => .ok s
  | none => .error .compoundKey

mutual

/-- The document with texts for keys, its entries in their order. -/
def ordered? : Document → Except Unwritable Json
  | .null => return .null
  | .bool b => return .bool b
  | .number n => return .number n
  | .text s => return .text s
  | .seq items => return .seq (← orderedItems? items)
  | .map entries => return .map (← orderedEntries? entries)

/-- The elements, each with texts for keys. -/
def orderedItems? : List Document → Except Unwritable (List Json)
  | [] => return []
  | d :: rest => do
    let v ← ordered? d
    return v :: (← orderedItems? rest)

/-- The entries, each with texts for keys. -/
def orderedEntries? : List (Key × Document) → Except Unwritable (List (String × Json))
  | [] => return []
  | (k, d) :: rest => do
    let k ← keyText k
    let v ← ordered? d
    return (k, v) :: (← orderedEntries? rest)

end

/-- The compact text of a document. -/
def text? (d : Document) : Except Unwritable String := return Json.print (← ordered? d)

/-- The least integer of eight bytes. -/
def leastInt : Int := -9223372036854775808

/-- The greatest integer of eight bytes, without a sign. -/
def greatestInt : Int := 18446744073709551615

/-- A number of the canonical tree: an integer of eight bytes, signed or not, or a finite
floating-point number of eight bytes. -/
def canonicalNumber? : Number → Except Unwritable Json
  | .int n =>
    if leastInt ≤ n ∧ n ≤ greatestInt then .ok (.number (.int n)) else .error .outOfRange
  | .double x => .ok (if x.text?.isSome then .number (.double x) else .null)
  | .single x => .ok (if x.text?.isSome then .number (.double x.toDouble) else .null)

section Entries

variable {κ α : Type} [LT κ] [DecidableLT κ] [DecidableEq κ]

/-- The entries with one more, put at the place of its key; an earlier one of the key gives way. -/
def insertEntry (key : κ) (value : α) : List (κ × α) → List (κ × α)
  | [] => [(key, value)]
  | e :: rest =>
    if key < e.1 then (key, value) :: e :: rest
    else if key = e.1 then (key, value) :: rest
    else e :: insertEntry key value rest

/-- Entries in the order of their keys; of a key that repeats the last entry stays. -/
def sortEntries (entries : List (κ × α)) : List (κ × α) :=
  entries.foldl (fun es e ↦ insertEntry e.1 e.2 es) []

end Entries

mutual

/-- The canonical tree of a document. -/
def tree? : Document → Except Unwritable Json
  | .null => return .null
  | .bool b => return .bool b
  | .number n => canonicalNumber? n
  | .text s => return .text s
  | .seq items => return .seq (← treeItems? items)
  | .map entries => return .map (sortEntries (← treeEntries? entries))

/-- The canonical trees of elements. -/
def treeItems? : List Document → Except Unwritable (List Json)
  | [] => return []
  | d :: rest => do
    let v ← tree? d
    return v :: (← treeItems? rest)

/-- The canonical trees of entries, not yet sorted. -/
def treeEntries? : List (Key × Document) → Except Unwritable (List (String × Json))
  | [] => return []
  | (k, d) :: rest => do
    let k ← keyText k
    let v ← tree? d
    return (k, v) :: (← treeEntries? rest)

end

end Document

/-! ## The text of a value in a log -/

/-- A value as the text of one field of a log: a text stands for itself, without quotes; a value
whose canonical tree is null is empty; any other value is its compact JSON text. -/
def logText {α : Type} [HasDocument α] (x : α) : Except Unwritable String := do
  match ← Document.tree? (HasDocument.document x) with
  | .text s => return s
  | .null => return ""
  | _ => Document.text? (HasDocument.document x)

/-- Why a value has no text in a log, in words. -/
def Unwritable.logMessage (u : Unwritable) : String :=
  "failed to serialise value for logging: " ++ u.message

end Shroud
