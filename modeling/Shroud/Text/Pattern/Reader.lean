import Shroud.Text.Alphanumeric
import Shroud.Text.Pattern.SetReader

/-!
# The notation of patterns

A character stands for itself, and `.` for any within a line.  `|` separates choices, `*`, `+` and
`?` repeat what is before them, and one more `?` makes them reluctant.  `^` and `$` stand for the
ends of the text, brackets hold a set of characters, and parentheses a group, which may have a name
or flags.  Flags in parentheses of their own hold up to the end of the group that they are in.
-/

set_option autoImplicit false

namespace Shroud.Text.Pattern

/-! ## Groups -/

/-- A character that the name of a group may start with. -/
def isNameStart (c : Char) : Bool :=
  c == '_' || c.isAlpha || (128 ≤ c.toNat && isAlphanumeric c)

/-- A text is the name of a group. -/
def isGroupName (name : List Char) : Bool :=
  name.head?.any isNameStart &&
    name.all fun c ↦ isAlphanumeric c || ['_', '.', '[', ']'].contains c

/-- The name of a group, up to `>`.  No other group has it. -/
def readName : Reading Unit := do
  let s ← get
  let name := s.rest.takeWhile (· != '>')
  match s.rest.dropWhile (· != '>') with
  | _ :: rest =>
    if isGroupName name && !s.names.contains name then
      set { s with names := name :: s.names, rest := rest }
    else failure
  | [] => failure

/-- What flags stand before. -/
structure Flagging where
  flags : Flags
  /-- The flags are those of a group, which follows. -/
  opensGroup : Bool
  rest : List Char

/-- Flags up to `:` or a closing parenthesis, each of them once, those after `-` turned off. -/
def flagging? (f : Flags) (on : Bool) (seen : List Char) (last : Char) :
    List Char → Option Flagging
  | [] => none
  | ':' :: rest => if last == '-' then none else some ⟨f, true, rest⟩
  | ')' :: rest => if last == '-' || seen.isEmpty then none else some ⟨f, false, rest⟩
  | '-' :: rest => if on then flagging? f false seen '-' rest else none
  | c :: rest =>
    if seen.contains c then none
    else (f.turn? c on).bind fun f ↦ flagging? f on (c :: seen) c rest

/-- What stands between an opening parenthesis and the pattern of a group, or flags alone: whether a
pattern follows. -/
def readOpening : Reading Bool := do
  skip
  match ← peek with
  | '?' :: 'P' :: '<' :: rest =>
    moveTo rest
    readName
    return true
  | '?' :: '<' :: rest =>
    moveTo rest
    readName
    return true
  | '?' :: rest =>
    let r ← flagging? (← flags) true [] '?' rest
    setFlags r.flags
    moveTo r.rest
    return r.opensGroup
  | _ => return true

/-- The closing parenthesis of a group. -/
def readClosing : Reading Unit := do
  match ← peek with
  | ')' :: rest => moveTo rest
  | _ => failure

/-! ## Repetitions -/

/-- A repetition by its mark. -/
def repetition? : Char → Option (Bool → Pattern → Pattern)
  | '*' => some many
  | '+' => some oneOrMore
  | '?' => some atMostOne
  | _ => none

/-- A question mark after a repetition turns its eagerness around. -/
def readEager : Reading Bool := do
  let reluctant := (← flags).reluctant
  match ← peek with
  | '?' :: rest =>
    moveTo rest
    return reluctant
  | _ => return !reluctant

/-! ## Patterns -/

/-- A character that stands for itself or for any. -/
def readSimple (c : Char) : Reading Pattern := do
  let f ← flags
  match c with
  | '^' => return anchor f.start
  | '$' => return anchor f.finish
  | '.' => return one (← f.point?)
  | '\\' =>
    match ← readMark with
    | .char c => return one (← f.literal? c)
    | .set s => return one (f.close s)
    | .anchor a => return anchor a
  | c => return one (← f.literal? c)

/-- What is before, with the last part added to it. -/
def joined (before : Pattern) (last : Option Pattern) : Pattern :=
  match last with
  | some p => before.andThen p
  | none => before

mutual

/-- Choices up to the end of a group. -/
def readChoices : Nat → Reading Pattern
  | 0 => failure
  | fuel + 1 => do
    let p ← readSequence fuel nothing none
    match ← peek with
    | '|' :: rest =>
      moveTo rest
      return either p (← readChoices fuel)
    | _ => return p

/-- What is before and a last part, to which repetitions apply, continued up to the end of a choice
or a group. -/
def readSequence : Nat → Pattern → Option Pattern → Reading Pattern
  | 0, _, _ => failure
  | fuel + 1, before, last => do
    skip
    match ← peek with
    | [] => return joined before last
    | c :: rest =>
      if c == '|' || c == ')' then return joined before last
      moveTo rest
      match repetition? c with
      | some repeated =>
        let p ← last
        readSequence fuel before (some (repeated (← readEager) p))
      | none => readSequence fuel (joined before last) (← readPart fuel c)

/-- A part that begins with a character, unless it is made of flags alone. -/
def readPart : Nat → Char → Reading (Option Pattern)
  | 0, _ => failure
  | fuel + 1, c => do
    if c == '\x7b' then failure
    else if c == '[' then return some (one (← readSet fuel))
    else if c == '(' then
      let f ← flags
      if ← readOpening then
        let p ← readChoices fuel
        readClosing
        setFlags f
        return some p
      else return none
    else return some (← readSimple c)

end

/-- A pattern as it is written. -/
def parse? (cs : List Char) : Option Pattern :=
  match (readChoices (4 * cs.length + 4)).run ⟨Flags.none, [], cs⟩ with
  | some (p, s) => if s.rest.isEmpty then some p else none
  | none => none

end Shroud.Text.Pattern
