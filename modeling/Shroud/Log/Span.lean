import Shroud.Log.Notice

/-!
# Spans

A part of the program opens a span around its work.  What is said inside of it is told together with
the name and the members of the innermost span that is open.
-/

set_option autoImplicit false

namespace Shroud

/-- What a part of the program tells about the work that it is at. -/
structure Span where
  name : String
  level : Level
  /-- The part of the program that opens the span. -/
  target : String
  members : List (String × Json)

/-- The members of a log line, the time apart. -/
def Notice.entry (n : Notice) (span : Option Span) : List (String × Json) :=
  [("level", .text n.level.text),
    ("fields", .map (("message", .text n.message) :: n.members)),
    ("target", .text n.target)] ++
  match span with
  | some s => [("span", .map (s.members ++ [("name", .text s.name)]))]
  | none => []

/-- The names of what a notice tells. -/
def Notice.names (n : Notice) : List String := "message" :: n.members.map Prod.fst

/-- The names of what a span tells. -/
def Span.names (s : Span) : List String := s.members.map Prod.fst

/-- The text of a member of a span. -/
def Span.text? (s : Span) (name : String) : Option String :=
  (s.members.find? fun m ↦ m.1 == name).bind fun m ↦
    match m.2 with
    | .text t => some t
    | _ => none

end Shroud
