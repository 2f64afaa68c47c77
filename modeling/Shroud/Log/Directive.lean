import Shroud.Log.Span
import Shroud.Text.Alphanumeric
import Shroud.Text.Blank
import Shroud.Text.Natural
import Shroud.Text.Numeral
import Shroud.Text.Pattern.Reader

/-!
# Directives of a log filter

A directive names what it applies to and the least level that passes.  It is written as a level
alone, or as a target, which may be followed by `=` and a level; between the target and the level
there may be the name of a span and a member in brackets, `[name{member=value}]`, each part of which
may be left out.  A directive without a level lets everything pass.

A directive applies to the targets that begin with its own.  One that asks for a span or a member of
a span is about what is said inside of such spans; one that asks for a member alone is also about
notices with such a member.
-/

set_option autoImplicit false

namespace Shroud

/-! ## Thresholds -/

/-- The least level that passes; nothing when nothing passes. -/
abbrev Threshold := Option Level

/-- A level passes a threshold. -/
def Level.passes (l : Level) : Threshold → Bool
  | some least => least.rank ≤ l.rank
  | none => false

/-- The thresholds by number: the greater the number, the more passes. -/
def thresholds : List Threshold :=
  [none, some .error, some .warn, some .info, some .debug, some .trace]

/-- The threshold that lets pass what one of several does. -/
def widest (ts : List Threshold) : Threshold :=
  (thresholds.filter fun t ↦ ts.contains t).getLastD none

/-- The threshold of a word, which may be a name in any case or a number. -/
def thresholdOf? (word : List Char) : Option Threshold :=
  match Text.wordOf? word with
  | some n => thresholds[n]?
  | none =>
    match String.ofList (word.map Char.toLower) with
    | "trace" => some (some .trace)
    | "debug" => some (some .debug)
    | "info" => some (some .info)
    | "warn" => some (some .warn)
    | "error" => some (some .error)
    | "off" => some none
    | _ => none

/-! ## Tests of members -/

/-- A test of the text of a member.  A test that stands for a truth value or a number asks for such
a value, which no text is; otherwise it is a pattern, which has to reach the end of the text. -/
structure ValueTest where
  text : List Char
  pattern : Option Text.Pattern
  deriving DecidableEq

namespace ValueTest

/-- The text stands for a truth value or a number. -/
def isScalar (cs : List Char) : Bool :=
  cs == "true".toList || cs == "false".toList || Text.isNumeral cs

/-- A test as it is written. -/
def parse? (cs : List Char) : Option ValueTest :=
  if isScalar cs then some ⟨cs, none⟩ else (Text.Pattern.parse? cs).map fun p ↦ ⟨cs, some p⟩

/-- A text passes the test. -/
def passes (t : ValueTest) (s : String) : Bool := t.pattern.any fun p ↦ p.reachesEnd s.toList

end ValueTest

/-- A test of a member: it is there, and its text passes. -/
structure MemberTest where
  name : String
  value : Option ValueTest
  deriving DecidableEq

/-- A test as it is written: a name, possibly `=` and a value.  What a second `=` begins does not
count. -/
def MemberTest.parse? (cs : List Char) : Option MemberTest :=
  match cs.splitOn '=' with
  | [[]] => none
  | name :: value :: _ => (ValueTest.parse? value).map fun v ↦ ⟨String.ofList name, some v⟩
  | [name] => some ⟨String.ofList name, none⟩
  | [] => none

/-! ## Directives -/

/-- What a directive asks for. -/
structure Scope where
  target : List Char
  span : Option String
  member : Option MemberTest
  deriving DecidableEq

/-- The least level that passes for what is asked for. -/
structure Directive where
  scope : Scope
  threshold : Threshold

namespace Directive

/-- The directive is about targets and the members of notices. -/
def isGeneral (d : Directive) : Bool :=
  d.scope.span.isNone && d.scope.member.all fun m ↦ m.value.isNone

/-- The directive is about spans. -/
def isAboutSpans (d : Directive) : Bool := d.scope.span.isSome || d.scope.member.isSome

/-- The directive asks for the value of a member. -/
def testsValue (d : Directive) : Bool := d.scope.member.any fun m ↦ m.value.isSome

/-- The directive applies to a part of the program. -/
def appliesTo (d : Directive) (target : String) : Bool := d.scope.target.isPrefixOf target.toList

/-- The member that is asked for, if any, is among the names. -/
def findsMember (d : Directive) (names : List String) : Bool :=
  d.scope.member.all fun m ↦ names.contains m.name

/-- The directive applies to a span, whatever the values of its members. -/
def concerns (d : Directive) (s : Span) : Bool :=
  d.appliesTo s.target && d.scope.span.all (· == s.name) && d.findsMember s.names

/-- The member of a span has the value that is asked for, if any. -/
def acceptsValue (d : Directive) (s : Span) : Bool :=
  d.scope.member.all fun m ↦ m.value.all fun v ↦ (s.text? m.name).any v.passes

/-- The first directive decides before the second: it has a longer target, or asks for a member and
the other does not, or for one whose name comes later. -/
def precedes (a b : Directive) : Bool :=
  let rank (d : Directive) := d.scope.member.map MemberTest.name
  if a.scope.target.length ≠ b.scope.target.length then
    b.scope.target.length < a.scope.target.length
  else match rank a, rank b with
    | some x, some y => y < x
    | some _, none => true
    | none, _ => false

/-! ## Notation -/

/-- A character that a directive may start with, if it is no bracket. -/
def isStart (c : Char) : Bool := Text.isAlphanumeric c || c == '-' || c == ':' || c == '_'

/-- A directive of a single word: a level, or else a target. -/
def ofWord (word : List Char) : Directive :=
  match thresholdOf? word with
  | some t => ⟨⟨[], none, none⟩, t⟩
  | none => ⟨⟨word, none, none⟩, some .trace⟩

/-- The place of the first of some marks, from a place on; the end, if there is none. -/
def placeOf (marks : List Char) (cs : List Char) (first : Nat) : Nat :=
  first + ((cs.drop first).takeWhile fun c ↦ !marks.contains c).length

/-- The characters between two places. -/
def between (cs : List Char) (first last : Nat) : List Char := (cs.take last).drop first

/-- A directive as it is being read.  The places of its marks are those in its text without the
white space around it, and what stands between them is taken from the text with it. -/
structure Source where
  text : List Char

namespace Source

/-- The text without the white space around it. -/
def bare (s : Source) : List Char := Text.trim s.text

/-- The level after a place, which is the end or that of `=`. -/
def threshold? (s : Source) (place : Nat) : Option Threshold :=
  match s.bare[place]? with
  | none => some (some .trace)
  | some '=' =>
    let word := s.text.drop (place + 1)
    if word.isEmpty then some (some .trace) else thresholdOf? word
  | some _ => none

/-- The rest of a directive after the member, at the place of a closing bracket. -/
def afterMember? (s : Source) (target : List Char) (span : Option String) (first last : Nat) :
    Option Directive := do
  let m ← MemberTest.parse? (between s.text first last)
  if s.bare[last + 1]? ≠ some ']' then none
  let t ← s.threshold? (last + 2)
  return ⟨⟨target, span, some m⟩, t⟩

/-- The rest of a directive from the opening bracket on, which is at a place. -/
def bracketed? (s : Source) (place : Nat) : Option Directive :=
  let target := s.text.take place
  let last := placeOf [']', '\x7b'] s.bare (place + 1)
  let name := between s.text (place + 1) last
  match s.bare[last]? with
  | none => none
  | some ']' =>
    (s.threshold? (last + 1)).map fun t ↦ ⟨⟨target, some (String.ofList name), none⟩, t⟩
  | some _ =>
    let span := if name.isEmpty then none else some (String.ofList name)
    s.afterMember? target span (last + 1) (placeOf ['\x7d'] s.bare (last + 1))

/-- The directive, if the text is one. -/
def directive? (s : Source) : Option Directive :=
  match s.bare.head? with
  | none => none
  | some '[' => s.bracketed? 0
  | some c =>
    if !isStart c then none
    else
      let place := placeOf ['=', '['] s.bare 0
      match s.bare[place]? with
      | none => some (ofWord s.text)
      | some '[' => s.bracketed? place
      | some _ => (s.threshold? place).map fun t ↦ ⟨⟨s.text.take place, none, none⟩, t⟩

end Source

/-- A directive as it is written. -/
def parse? (cs : List Char) : Option Directive := (Source.mk cs).directive?

end Directive

end Shroud
