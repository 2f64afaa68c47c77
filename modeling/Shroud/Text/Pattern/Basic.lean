import Shroud.Text.CharSet

/-!
# Patterns

A pattern describes texts: a character of a set, a place such as the start of a line, one pattern
after another, a choice, a repetition.

A pattern is looked for from the start of a text on, and the ways through it are in order.  A way
from an earlier place comes before those from later places; the first of two choices comes before
the second, and a repetition goes on before it ends, or the other way round.  A way that is at its
end ends all ways that come after it, too.  So the pattern reaches the end of the text only by a way
that no way before it cuts short: in `ab` it does for `b` and `ab|a`, but not for `a` or `a|ab`.
-/

set_option autoImplicit false

namespace Shroud.Text

/-! ## Places -/

/-- A condition on a place in a text. -/
inductive Anchor where
  | textStart
  | textEnd
  /-- After the end of a line, which is a line feed. -/
  | lineStart
  /-- Before the end of a line, which is a line feed. -/
  | lineEnd
  /-- As `lineStart`, where a line ends with a line feed, a carriage return, or both. -/
  | anyLineStart
  /-- As `lineEnd`, where a line ends with a line feed, a carriage return, or both. -/
  | anyLineEnd
  | wordEdge
  | noWordEdge
  | wordStart
  | wordEnd
  deriving DecidableEq

namespace Anchor

/-- A letter of the Latin alphabet, a decimal digit or `_`. -/
def isWordChar (c : Char) : Bool := c.isAlphanum || c == '_'

/-- The condition holds between two characters, or at an end of the text. -/
def holds (before after : Option Char) : Anchor → Bool
  | textStart => before.isNone
  | textEnd => after.isNone
  | lineStart => before.all (· == '\n')
  | lineEnd => after.all (· == '\n')
  | anyLineStart => before.all fun c ↦ c == '\n' || (c == '\r' && after != some '\n')
  | anyLineEnd => after.all fun c ↦ c == '\r' || (c == '\n' && before != some '\r')
  | wordEdge => before.any isWordChar != after.any isWordChar
  | noWordEdge => before.any isWordChar == after.any isWordChar
  | wordStart => !before.any isWordChar && after.any isWordChar
  | wordEnd => before.any isWordChar && !after.any isWordChar

end Anchor

/-! ## Patterns -/

/-- A description of texts. -/
inductive Pattern where
  /-- The empty text. -/
  | nothing
  /-- The empty text, at a place. -/
  | anchor (a : Anchor)
  /-- A character of a set. -/
  | one (set : CharSet)
  | both (first second : Pattern)
  | either (first second : Pattern)
  /-- Any number of texts, as many as possible if it is eager and otherwise as few as possible. -/
  | many (eager : Bool) (item : Pattern)
  deriving DecidableEq

namespace Pattern

/-- One pattern after another; nothing before a pattern adds nothing. -/
def andThen : Pattern → Pattern → Pattern
  | nothing, q => q
  | p, q => both p q

/-- A pattern once or more. -/
def oneOrMore (eager : Bool) (p : Pattern) : Pattern := both p (many eager p)

/-- A pattern once or not at all. -/
def atMostOne (eager : Bool) (p : Pattern) : Pattern :=
  if eager then either p nothing else either nothing p

/-- A pattern after any text, which is as short as possible. -/
def sought (p : Pattern) : Pattern := both (many false (one .all)) p

/-! ## Matching -/

/-- What comes next on a way through a pattern. -/
inductive Step where
  /-- The way is at its end. -/
  | done
  /-- A character of the set comes next, and then the rest. -/
  | take (set : CharSet) (rest : Pattern)
  deriving DecidableEq

/-- What remains of a way after a character. -/
def Step.after? (c : Char) : Step → Option Pattern
  | take set rest => if set.contains c then some rest else none
  | done => none

/-- What comes next on each way through a pattern, in order, at a place between two characters. -/
def steps (before after : Option Char) : Pattern → List Step
  | nothing => [.done]
  | anchor a => if a.holds before after then [.done] else []
  | one set => [.take set nothing]
  | either p q => steps before after p ++ steps before after q
  | both p q => (steps before after p).flatMap fun
    | .done => steps before after q
    | .take set rest => [.take set (rest.andThen q)]
  | many eager p =>
    let again := (steps before after p).map fun
      | .take set rest => Step.take set (rest.andThen (many eager p))
      | .done => .done
    if eager then again ++ [.done] else .done :: again

/-- What remains of each way after a character; a way at its end cuts the later ones off. -/
def advance (before : Option Char) (c : Char) (ways : List Pattern) : List Pattern :=
  let alive := (ways.flatMap (steps before (some c))).takeWhile (· != .done)
  (alive.filterMap (Step.after? c)).eraseDups

/-- One of the ways reaches the end of a text, which follows a character or starts here. -/
def reachEnd (before : Option Char) (ways : List Pattern) : List Char → Bool
  | [] => (ways.flatMap (steps before none)).contains .done
  | c :: cs => reachEnd (some c) (advance before c ways) cs

/-- The pattern, looked for from the start of the text on, reaches its end. -/
def reachesEnd (p : Pattern) (text : List Char) : Bool := reachEnd none [p.sought] text

end Pattern

end Shroud.Text
