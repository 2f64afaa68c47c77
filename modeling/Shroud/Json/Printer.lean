import Shroud.Json.Basic
import Shroud.Json.Quote
import Shroud.Decimal.Written

/-!
# JSON text

The compact form: no blanks, entries in the order of the tree.  An infinity and what is not a number
have no form of their own and are written `null`.
-/

set_option autoImplicit false

namespace Shroud

/-- A number as text. -/
def Number.text : Number → String
  | int n => toString n
  | double x => x.text?.getD "null"
  | single x => x.text?.getD "null"

namespace Json

mutual

/-- The text of a value. -/
def print : Json → String
  | .null => "null"
  | .bool b => if b then "true" else "false"
  | .number n => n.text
  | .text s => quote s
  | .seq items => "[" ++ String.intercalate "," (printItems items) ++ "]"
  | .map entries => "\x7b" ++ String.intercalate "," (printEntries entries) ++ "\x7d"

/-- The texts of elements. -/
def printItems : List Json → List String
  | [] => []
  | v :: rest => print v :: printItems rest

/-- The texts of entries. -/
def printEntries : List (String × Json) → List String
  | [] => []
  | (k, v) :: rest => (quote k ++ ":" ++ print v) :: printEntries rest

end

end Json

end Shroud
