import Shroud.Text.Blank
import Shroud.Text.Hex
import Shroud.Text.Pattern.Basic

/-!
# Reading the notation of patterns

What the readers of patterns share: the flags in force, the text that is still to be read, and the
marks that begin with `\`.

Letters have no case and words no edges beyond the Latin alphabet.  Where all characters count, that
is, unless the flag `u` is turned off, a pattern that depends on such things is therefore refused.
Where it is turned off, a pattern must not hold for half a character, so all but single characters
and anchors are about the Latin alphabet.
-/

set_option autoImplicit false

namespace Shroud.Text.Pattern

/-- How the characters of a pattern are understood. -/
structure Flags where
  /-- The flag `i`: the case of letters does not count. -/
  anyCase : Bool
  /-- The flag `m`: `^` and `$` stand for the ends of lines. -/
  perLine : Bool
  /-- The flag `s`: a point stands for the end of a line, too. -/
  acrossLines : Bool
  /-- The flag `U`: repetitions are eager with a question mark only. -/
  reluctant : Bool
  /-- The flag `u`, turned off: classes of characters are about the Latin alphabet. -/
  latin : Bool
  /-- The flag `x`: white space and what follows `#` in a line do not count. -/
  spaced : Bool
  /-- The flag `R`: a line may end with a carriage return. -/
  anyLineEnd : Bool
  deriving DecidableEq

namespace Flags

/-- No flag is set. -/
def none : Flags := ⟨false, false, false, false, false, false, false⟩

/-- A flag turned on or off. -/
def turn? (f : Flags) (flag : Char) (on : Bool) : Option Flags :=
  match flag with
  | 'i' => some { f with anyCase := on }
  | 'm' => some { f with perLine := on }
  | 's' => some { f with acrossLines := on }
  | 'U' => some { f with reluctant := on }
  | 'u' => some { f with latin := !on }
  | 'x' => some { f with spaced := on }
  | 'R' => some { f with anyLineEnd := on }
  | _ => Option.none

/-- What `^` stands for. -/
def start (f : Flags) : Anchor :=
  if !f.perLine then .textStart else if f.anyLineEnd then .anyLineStart else .lineStart

/-- What `$` stands for. -/
def finish (f : Flags) : Anchor :=
  if !f.perLine then .textEnd else if f.anyLineEnd then .anyLineEnd else .lineEnd

/-- What a point stands for. -/
def point? (f : Flags) : Option CharSet :=
  if f.latin then Option.none
  else if f.acrossLines then some .all
  else if f.anyLineEnd then some ((CharSet.single '\n').union (.single '\r')).compl
  else some (CharSet.single '\n').compl

/-- What a character that stands for itself matches. -/
def literal? (f : Flags) (c : Char) : Option CharSet :=
  if !f.anyCase then some (.single c)
  else if f.latin then some (.anyCase (.single c))
  else Option.none

/-- A set, with both cases of its letters if the case does not count. -/
def close (f : Flags) (s : CharSet) : CharSet := if f.anyCase then .anyCase s else s

end Flags

/-- The flags in force, the names of the groups so far, and what is still to be read. -/
structure Source where
  flags : Flags
  names : List (List Char)
  rest : List Char

/-- A reader, which fails on what is no pattern. -/
abbrev Reading := StateT Source Option

/-- What is still to be read. -/
def peek : Reading (List Char) := return (← get).rest

/-- The flags in force. -/
def flags : Reading Flags := return (← get).flags

/-- Goes on with what is still to be read. -/
def moveTo (rest : List Char) : Reading Unit := modify fun s ↦ { s with rest := rest }

/-- Puts other flags in force. -/
def setFlags (f : Flags) : Reading Unit := modify fun s ↦ { s with flags := f }

/-- A text without the white space and the comments that it begins with. -/
def withoutSpace (inComment : Bool) : List Char → List Char
  | [] => []
  | c :: rest =>
    if inComment then withoutSpace (c != '\n') rest
    else if isBlankChar c then withoutSpace false rest
    else if c == '#' then withoutSpace true rest
    else c :: rest

/-- Passes over what does not count. -/
def skip : Reading Unit := do
  if (← flags).spaced then moveTo (withoutSpace false (← peek))

/-! ## Marks with a backslash -/

/-- What a mark with `\` stands for. -/
inductive Mark where
  | char (c : Char)
  | set (s : CharSet)
  | anchor (a : Anchor)

/-- The decimal digits. -/
def digits : CharSet := .range '0'.toNat '9'.toNat

/-- The letters of the Latin alphabet, the decimal digits and `_`. -/
def wordChars : CharSet :=
  .ofRanges [('a'.toNat, 'z'.toNat), ('A'.toNat, 'Z'.toNat), ('0'.toNat, '9'.toNat),
    ('_'.toNat, '_'.toNat)]

/-- The blank, and the controls that move on in a text. -/
def spaces : CharSet := .ofRanges [(' '.toNat, ' '.toNat), ('\t'.toNat, '\r'.toNat)]

/-- A number of hexadecimal digits, which continue those of `n`. -/
def readHex : Nat → Nat → Reading Nat
  | 0, n => return n
  | count + 1, n => do
    skip
    match ← peek with
    | [] => failure
    | c :: rest =>
      moveTo rest
      readHex count (16 * n + (← hexValue? c))

/-- The character of a code point with a number of hexadecimal digits. -/
def readCodePoint (count : Nat) : Reading Char := do
  let n ← readHex count 0
  if n.isValidChar then return Char.ofNat n else failure

/-- What only the Latin alphabet has. -/
def ifLatin (m : Mark) : Reading Mark := do
  if (← flags).latin then return m else failure

/-- A character that stands for itself after `\`: of the characters of one byte any but letters,
digits, `<` and `>`. -/
def isPlainMark (c : Char) : Bool := c.toNat < 128 && !c.isAlphanum && c != '<' && c != '>'

/-- A mark after `\`. -/
def readMark : Reading Mark := do
  match ← peek with
  | [] => failure
  | c :: rest =>
    moveTo rest
    match c with
    | 'a' => return .char '\x07'
    | 'f' => return .char '\x0c'
    | 'n' => return .char '\n'
    | 'r' => return .char '\r'
    | 't' => return .char '\t'
    | 'v' => return .char '\x0b'
    | 'x' =>
      let d ← readCodePoint 2
      if (← flags).latin && 128 ≤ d.toNat then failure else return .char d
    | 'u' => return .char (← readCodePoint 4)
    | 'U' => return .char (← readCodePoint 8)
    | 'A' => return .anchor .textStart
    | 'z' => return .anchor .textEnd
    | 'b' => ifLatin (.anchor .wordEdge)
    | 'B' => ifLatin (.anchor .noWordEdge)
    | '<' => ifLatin (.anchor .wordStart)
    | '>' => ifLatin (.anchor .wordEnd)
    | 'd' => ifLatin (.set digits)
    | 's' => ifLatin (.set spaces)
    | 'w' => ifLatin (.set wordChars)
    | c => if isPlainMark c then return .char c else failure

end Shroud.Text.Pattern
