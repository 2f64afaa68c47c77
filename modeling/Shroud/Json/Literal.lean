import Shroud.Json.Basic
import Shroud.Text.Hex

/-!
# Numbers and strings of JSON, from text

A text is read as a list of glyphs, since a body that arrives need not be text throughout: a glyph
is a character, or `none` for a byte that belongs to no character.

Reading a number or a string has two steps.  First its extent and its form are settled, which is all
that a value nobody asks for needs.  Only then it gets its meaning, which may fail: a number may be
out of range, and a string may hold half of a surrogate pair or a stray byte.
-/

set_option autoImplicit false

namespace Shroud.Json

/-- A text as it arrives: characters, and `none` for each stray byte. -/
abbrev Glyphs := List (Option Char)

/-- A glyph that may stand between tokens. -/
def isSpace (g : Option Char) : Bool :=
  g == some ' ' || g == some '\n' || g == some '\t' || g == some '\r'

/-- The text without the blanks at its start. -/
def skipSpace (gs : Glyphs) : Glyphs := gs.dropWhile isSpace

/-! ## Numbers -/

/-- A glyph that is a decimal digit. -/
def isDigit (g : Option Char) : Bool :=
  match g with
  | some c => c.isDigit
  | none => false

/-- The values of the digits at the start of a text. -/
def digits (gs : Glyphs) : List Nat :=
  (gs.takeWhile isDigit).filterMap fun g ↦ g.map fun c ↦ c.toNat - '0'.toNat

/-- What follows the digits at the start of a text. -/
def afterDigits (gs : Glyphs) : Glyphs := gs.dropWhile isDigit

/-- A number as it is written. -/
structure Numeral where
  negative : Bool
  /-- The digits before the point. -/
  whole : List Nat
  /-- The digits after the point. -/
  fraction : List Nat
  /-- The digits of the exponent, if there is one, and whether it is negative. -/
  exponent : Option (Bool × List Nat)

namespace Numeral

/-- At least one digit, and no zero in front of other digits. -/
def wholeOk (ds : List Nat) : Bool :=
  match ds with
  | [] => false
  | 0 :: _ :: _ => false
  | _ => true

/-- The fraction at the start of a text; absent, it has no digits. -/
def readFraction? : Glyphs → Option (List Nat × Glyphs)
  | some '.' :: gs =>
    if (digits gs).isEmpty then none else some (digits gs, afterDigits gs)
  | gs => some ([], gs)

/-- The sign at the start of an exponent: whether it is a minus. -/
def readSign : Glyphs → Bool × Glyphs
  | some '-' :: gs => (true, gs)
  | some '+' :: gs => (false, gs)
  | gs => (false, gs)

/-- The exponent at the start of a text. -/
def readExponent? : Glyphs → Option (Option (Bool × List Nat) × Glyphs)
  | some c :: gs =>
    if c = 'e' ∨ c = 'E' then
      let (negative, gs) := readSign gs
      if (digits gs).isEmpty then none else some (some (negative, digits gs), afterDigits gs)
    else some (none, some c :: gs)
  | gs => some (none, gs)

/-- A number at the start of a text. -/
def read? (gs : Glyphs) : Option (Numeral × Glyphs) := do
  let (negative, gs) := match gs with
    | some '-' :: rest => (true, rest)
    | _ => (false, gs)
  if wholeOk (digits gs) then
    let (fraction, rest) ← readFraction? (afterDigits gs)
    let (exponent, rest) ← readExponent? rest
    return (⟨negative, digits gs, fraction, exponent⟩, rest)
  else none

/-- A natural number must be below this to have eight bytes. -/
def wordLimit : Nat := pow2 64

/-- Digits put behind a significand, as many as leave it below `wordLimit`, and how many of them. -/
def absorb (significand : Nat) : List Nat → Nat × Nat
  | [] => (significand, 0)
  | d :: ds =>
    if 10 * significand + d < wordLimit then
      let r := absorb (10 * significand + d) ds
      (r.1, r.2 + 1)
    else (significand, 0)

/-- A power of ten as the nearest number of eight bytes. -/
def powerOfTen (e : Nat) : Double := Double.ofRatio (pow10 e) 1

/-- A number divided by `10 ^ e`, in steps that are powers of ten of eight bytes; `fuel` bounds the
number of steps, after which nothing is left but zero. -/
def divideByPower : Nat → Double → Nat → Double
  | 0, x, _ => x
  | fuel + 1, x, e =>
    if e ≤ 308 then x.divMagnitude (powerOfTen e)
    else if x.isZero then x
    else divideByPower fuel (x.divMagnitude (powerOfTen 308)) (e - 308)

/-- The significand times a power of ten, rounded at each step; nothing when it is out of range. -/
def magnitude? (significand : Nat) (exponent : Int) : Option Double :=
  let x := Double.ofRatio significand 1
  if exponent < 0 then some (divideByPower 4 x exponent.natAbs)
  else if exponent ≤ 308 then
    let y := x.mulMagnitude (powerOfTen exponent.toNat)
    if y.isInfinite then none else some y
  else if x.isZero then some x
  else none

/-- The integer that a numeral stands for, if it is written as one and fits into eight bytes.  A
zero with a sign is no integer. -/
def integer? (x : Numeral) : Option Int :=
  let (n, used) := absorb 0 x.whole
  if !x.fraction.isEmpty || x.exponent.isSome || used < x.whole.length then none
  else if !x.negative then some n
  else if 0 < n ∧ n ≤ pow2 63 then some (-n)
  else none

/-- The power of ten that the exponent of a numeral gives.  Digits beyond eight bytes make no
difference, since the number is out of range, or zero, without them. -/
def power (x : Numeral) : Int :=
  match x.exponent with
  | some (true, ds) => -((absorb 0 ds).1 : Int)
  | some (false, ds) => (absorb 0 ds).1
  | none => 0

/-- The floating-point number that a numeral stands for, unless it is out of range. -/
def double? (x : Numeral) : Option Double :=
  let (front, used) := absorb 0 x.whole
  let (significand, places) := absorb front x.fraction
  let shift : Int := (x.whole.length - used : Nat) - places
  (magnitude? significand (shift + x.power)).map fun y ↦ if x.negative then y.neg else y

/-- The number that a numeral stands for: an integer where it is one, otherwise a floating-point
number. -/
def value? (x : Numeral) : Option Number :=
  match x.integer? with
  | some n => some (.int n)
  | none => x.double?.map .double

end Numeral

/-! ## Strings -/

/-- A part of a string as it is written. -/
inductive Part where
  /-- A character, by itself or by a short escape. -/
  | char (c : Char)
  /-- A code unit of 16 bits. -/
  | unit (n : Nat)
  /-- A stray byte. -/
  | stray

/-- The character of a short escape. -/
def shortEscape? (c : Char) : Option Char :=
  if c = '"' ∨ c = '\\' ∨ c = '/' then some c
  else if c = 'b' then some '\x08'
  else if c = 'f' then some '\x0c'
  else if c = 'n' then some '\n'
  else if c = 'r' then some '\r'
  else if c = 't' then some '\t'
  else none

/-- The parts of a string whose opening quote has been passed, put behind those in `acc`, which are
in reverse, and what follows the closing quote. -/
def readParts? (acc : List Part) : Glyphs → Option (List Part × Glyphs)
  | [] => none
  | none :: gs => readParts? (.stray :: acc) gs
  | some '"' :: gs => some (acc.reverse, gs)
  | some '\\' :: some 'u' :: some a :: some b :: some c :: some d :: gs =>
    match Text.natOfHex? [a, b, c, d] with
    | some n => readParts? (.unit n :: acc) gs
    | none => none
  | some '\\' :: some c :: gs =>
    match shortEscape? c with
    | some c => readParts? (.char c :: acc) gs
    | none => none
  | some '\\' :: _ => none
  | some c :: gs => if c.toNat < 0x20 then none else readParts? (.char c :: acc) gs

/-- A first half of a surrogate pair. -/
def isHigh (n : Nat) : Bool := 0xd800 ≤ n && n < 0xdc00

/-- A second half of a surrogate pair. -/
def isLow (n : Nat) : Bool := 0xdc00 ≤ n && n < 0xe000

/-- The characters of the parts, put behind those in `acc`, which are in reverse. -/
def joinParts? (acc : List Char) : List Part → Option (List Char)
  | [] => some acc.reverse
  | .char c :: ps => joinParts? (c :: acc) ps
  | .unit n :: .unit m :: ps =>
    if isHigh n && isLow m then
      joinParts? (Char.ofNat (0x10000 + 0x400 * (n - 0xd800) + (m - 0xdc00)) :: acc) ps
    else if isHigh n || isLow n then none
    else joinParts? (Char.ofNat n :: acc) (.unit m :: ps)
  | .unit n :: ps =>
    if isHigh n || isLow n then none else joinParts? (Char.ofNat n :: acc) ps
  | .stray :: _ => none

/-- A string whose opening quote has been passed: its text, if it has one, and what follows. -/
def readString? (gs : Glyphs) : Option (Option String × Glyphs) :=
  (readParts? [] gs).map fun r ↦ ((joinParts? [] r.1).map String.ofList, r.2)

end Shroud.Json
