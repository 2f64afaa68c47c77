import Shroud.Text.Lowercase
import Shroud.Text.Natural

/-!
# The environment

The variables of an environment hold texts under names, and what they hold is looked up without
regard to case.  A name may lead into something larger: `a.b` is a member of the map `a`, and `a[0]`
an element of the sequence `a`.  A name that is no such path stands for itself alone.

A name that is given again keeps its first place with its last text.  Of names that differ only in
case, and of names that lead to the same, the last one counts.
-/

set_option autoImplicit false

namespace Shroud

/-- The variables of an environment, in the order in which they are given. -/
abbrev Environment := List (String × String)

/-- What an environment holds under a name. -/
inductive Variable where
  | text (s : String)
  /-- Members, whatever they are. -/
  | map
  /-- Elements, whatever they are. -/
  | sequence
  deriving DecidableEq

/-! ## Paths -/

namespace Variable

/-- A character of a name within a path. -/
def isNameChar (c : Char) : Bool := c.isAlphanum || c == ' ' || c == '_' || c == '-'

/-- A text without the blanks and tabs around it. -/
def trimBlanks (cs : List Char) : List Char :=
  let isBlank (c : Char) : Bool := c == ' ' || c == '\t'
  ((cs.dropWhile isBlank).reverse.dropWhile isBlank).reverse

/-- The greatest number of eight bytes with a sign. -/
def greatestPlace : Nat := 9223372036854775807

/-- The place of an element, which may be counted from the end. -/
def isPlace (cs : List Char) : Bool :=
  match trimBlanks cs with
  | '-' :: ds => (Text.natOfDigits? ds).any fun n ↦ n ≤ greatestPlace + 1
  | ds => (Text.natOfDigits? ds).any fun n ↦ n ≤ greatestPlace

/-- The steps of a path after its first name: `.` and a name, or a place in brackets. -/
def areSteps : Nat → List Char → Bool
  | _, [] => true
  | fuel + 1, '.' :: rest =>
    !(rest.takeWhile isNameChar).isEmpty && areSteps fuel (rest.dropWhile isNameChar)
  | fuel + 1, '[' :: rest =>
    isPlace (rest.takeWhile (· != ']')) &&
      match rest.dropWhile (· != ']') with
      | _ :: rest => areSteps fuel rest
      | [] => false
  | _, _ => false

/-- What a text under a path is to the first name of the path. -/
def ofSteps (steps : List Char) (text : String) : Variable :=
  match steps with
  | [] => .text text
  | '.' :: _ => map
  | _ => sequence

/-- What a text under a name is to another name, if it is something to it. -/
def under? (name : String) (path text : String) : Option Variable :=
  let cs := path.toList
  let steps := cs.dropWhile isNameChar
  if String.ofList (cs.takeWhile isNameChar) = name ∧ areSteps steps.length steps then
    some (ofSteps steps text)
  else none

end Variable

/-! ## Lookup -/

namespace Environment

/-- The variables with one more; a name that is given again keeps its place. -/
def put {α : Type} (env : List (String × α)) (name : String) (value : α) : List (String × α) :=
  match env with
  | [] => [(name, value)]
  | e :: rest => if e.1 = name then (name, value) :: rest else e :: put rest name value

/-- The variables, each of them once, with their names in lower case. -/
def canonical (env : Environment) : Environment :=
  (env.foldl (fun vs v ↦ put vs v.1 v.2) []).map fun v ↦ (Text.lowercase v.1, v.2)

/-- What the environment holds under a name in lower case; the last variable counts. -/
def get? (env : Environment) (name : String) : Option Variable :=
  env.canonical.reverse.findSome? fun v ↦ Variable.under? name v.1 v.2

end Environment

end Shroud
