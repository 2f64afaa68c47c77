import Shroud.Log.Directive

/-!
# Log filters

A filter is a list of directives, separated by commas.  Of the directives about targets the most
specific one that applies decides, and what none applies to is dropped.  Those about spans let more
pass: whatever is said inside of a span that one of them applies to, if it matters enough for that
directive.  A filter without directives lets errors pass.

A span that is not open leaves no trace.  It is opened if a directive about spans applies to it or
if it would pass itself, but never if it matters less than all that any directive lets pass.
-/

set_option autoImplicit false

namespace Shroud

/-- Directives about targets and about spans, none of them for the same scope as another. -/
structure Filter where
  general : List Directive
  aboutSpans : List Directive
  /-- What matters less than this is dropped in any case. -/
  bound : Threshold

namespace Filter

/-! ## Reading -/

/-- The texts between commas, without the empty ones. -/
def pieces (s : String) : List (List Char) :=
  (s.toList.splitOn ',').filter fun cs ↦ !cs.isEmpty

/-- The directives with one more, which takes the place of an earlier one for its scope. -/
def put (ds : List Directive) (d : Directive) : List Directive :=
  ds.filter (fun e ↦ e.scope != d.scope) ++ [d]

/-- The level below which no directive lets anything pass.  Where the value of a member is asked
for, any span may be one of those. -/
def boundOf (ds : List Directive) : Threshold :=
  if ds.any Directive.testsValue then some .trace else widest (ds.map Directive.threshold)

/-- A filter of directives; without any, errors pass. -/
def ofDirectives (ds : List Directive) : Filter :=
  let ds := if ds.isEmpty then [⟨⟨[], none, none⟩, some .error⟩] else ds
  ⟨(ds.filter Directive.isGeneral).foldl put [], (ds.filter Directive.isAboutSpans).foldl put [],
    boundOf ds⟩

/-- A filter as it is written; what is no directive is passed over. -/
def parse (s : String) : Filter := ofDirectives ((pieces s).filterMap Directive.parse?)

/-- A filter as it is written, if all of it are directives. -/
def parseStrict? (s : String) : Option Filter :=
  ((pieces s).mapM Directive.parse?).map ofDirectives

/-- The filter in force: that of the environment, if there is one and it can be read, otherwise the
configured one. -/
def inForce (environment : Option String) (configured : String) : Filter :=
  match environment.bind parseStrict? with
  | some f => f
  | none => parse configured

/-! ## Decisions -/

/-- The one of two directives that decides before the other. -/
def moreSpecific (best : Option Directive) (d : Directive) : Option Directive :=
  match best with
  | some b => if d.precedes b then some d else best
  | none => some d

/-- The threshold of the most specific directive about targets that applies. -/
def thresholdOf (f : Filter) (applies : Directive → Bool) : Threshold :=
  ((f.general.filter applies).foldl moreSpecific none).bind Directive.threshold

/-- What the directives about targets let pass of notices from a target, given the names of what is
told. -/
def noticeThreshold (f : Filter) (target : String) (names : List String) : Threshold :=
  f.thresholdOf fun d ↦ d.appliesTo target && d.findsMember names

/-- What the directives about targets let pass of spans from a target. -/
def spanThreshold (f : Filter) (target : String) : Threshold :=
  f.thresholdOf fun d ↦ d.appliesTo target

/-- What is open around a notice: the innermost span, and what may be said inside of the spans. -/
structure Surroundings where
  innermost : Option Span
  threshold : Threshold

/-- What is open after a span inside of what was open before. -/
def enter (f : Filter) (around : Surroundings) (s : Span) : Surroundings :=
  let ds := f.aboutSpans.filter fun d ↦ d.concerns s
  let wanted := !ds.isEmpty || s.level.passes (f.spanThreshold s.target) ||
    s.level.passes around.threshold
  if s.level.passes f.bound && wanted then
    let inside := (ds.filter fun d ↦ d.acceptsValue s).map Directive.threshold
    ⟨some s, widest (around.threshold :: inside)⟩
  else around

/-- What is open inside of spans, the outermost of which comes first. -/
def enterAll (f : Filter) (spans : List Span) : Surroundings :=
  spans.foldl f.enter ⟨none, none⟩

/-- A notice passes. -/
def admits (f : Filter) (around : Surroundings) (n : Notice) : Bool :=
  n.level.passes around.threshold || n.level.passes (f.noticeThreshold n.target n.names)

/-- The lines of notices that were given inside of spans. -/
def lines (f : Filter) (spans : List Span) (notices : List Notice) : List (List (String × Json)) :=
  let around := f.enterAll spans
  (notices.filter fun n ↦ f.admits around n).map fun n ↦ n.entry around.innermost

end Filter

end Shroud
