import Shroud.Outline.Walk
import Shroud.Json.Basic

/-!
# Notices

What the parts of the program tell the log.  A notice has a level, the part that it comes from, a
message and named members.  The contents of values never reach a notice: a walk that fails tells the
path of the field, not its text.
-/

set_option autoImplicit false

namespace Shroud

/-- How much a notice matters. -/
inductive Level where
  | trace
  | debug
  | info
  | warn
  | error
  deriving DecidableEq

namespace Level

/-- The rank of a level; a higher one matters more. -/
def rank : Level → Nat
  | trace => 0
  | debug => 1
  | info => 2
  | warn => 3
  | error => 4

/-- The name of a level. -/
def text : Level → String
  | trace => "TRACE"
  | debug => "DEBUG"
  | info => "INFO"
  | warn => "WARN"
  | error => "ERROR"

end Level

/-- A line for the log. -/
structure Notice where
  level : Level
  /-- The part of the program that the notice comes from. -/
  target : String
  message : String
  members : List (String × Json)

/-- The notice of a walk that a leaf ended. -/
def Notice.leafFailed (path : String) : Notice :=
  ⟨.debug, "fieldcloak::engine", "leaf transform failed; discarding copy", [("field", .text path)]⟩

/-- The notices of a walk that failed. -/
def Failure.notices {ε : Type} : Failure ε → List Notice
  | .leaf path _ => [.leafFailed path]
  | _ => []

end Shroud
