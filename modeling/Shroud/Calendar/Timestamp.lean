import Shroud.Calendar.Date
import Shroud.Text.Natural

/-!
# Dates and times as text

The forms of RFC 3339.  A year from 0 to 9999 has four digits, any other a sign and at least four.
Of the fraction of a second the first three, six or nine digits are written, the fewest that lose
nothing, and none at all when it is zero; a leap second is written as second 60.
-/

set_option autoImplicit false

namespace Shroud

/-- A number with at least `n` digits. -/
def padded (n v : Nat) : List Char :=
  let ds := Nat.toDigits 10 v
  List.replicate (n - ds.length) '0' ++ ds

namespace Date

/-- A year as text. -/
def yearText (y : Int) : List Char :=
  if 0 ≤ y ∧ y ≤ 9999 then padded 4 y.toNat
  else (if y < 0 then '-' else '+') :: padded 4 y.natAbs

/-- A date as text: year, month and day. -/
def text (d : Date) : List Char :=
  yearText d.year ++ '-' :: padded 2 d.month ++ '-' :: padded 2 d.day

end Date

namespace TimeOfDay

/-- The fraction of a second, below `10 ^ 9` nanoseconds. -/
def fractionText (nanos : Nat) : List Char :=
  if nanos = 0 then []
  else if nanos % 1000000 = 0 then '.' :: padded 3 (nanos / 1000000)
  else if nanos % 1000 = 0 then '.' :: padded 6 (nanos / 1000)
  else '.' :: padded 9 nanos

/-- A time of day as text: hour, minute and second, with the fraction of the second. -/
def text (t : TimeOfDay) : List Char :=
  let leap := 1000000000 ≤ t.nanos
  let second := t.seconds % 60 + (if leap then 1 else 0)
  let nanos := if leap then t.nanos - 1000000000 else t.nanos
  padded 2 (t.seconds / 3600) ++ ':' :: padded 2 (t.seconds / 60 % 60) ++ ':' :: padded 2 second ++
    fractionText nanos

end TimeOfDay

/-- A date and a time of day without a zone. -/
def civilText (d : Date) (t : TimeOfDay) : List Char := d.text ++ 'T' :: t.text

namespace Instant

/-- The moment in universal time. -/
def text (t : Instant) : String :=
  let c := t.civil
  String.ofList (civilText c.1 c.2 ++ ['Z'])

end Instant

/-! ## Reading -/

/-- The digits at the start of a text, as a number, and what follows. -/
def readNat? (cs : List Char) : Option (Nat × List Char) :=
  (Text.natOfDigits? (cs.takeWhile Char.isDigit)).map fun n ↦ (n, cs.dropWhile Char.isDigit)

/-- What follows a certain character. -/
def skipChar? (c : Char) : List Char → Option (List Char)
  | d :: rest => if c = d then some rest else none
  | [] => none

/-- A date at the start of a text. -/
def Date.read? (cs : List Char) : Option (Date × List Char) := do
  let (sign, cs) := match cs with
    | '-' :: rest => ((-1 : Int), rest)
    | '+' :: rest => (1, rest)
    | _ => (1, cs)
  let (y, cs) ← readNat? cs
  let (m, cs) ← readNat? (← skipChar? '-' cs)
  let (d, cs) ← readNat? (← skipChar? '-' cs)
  if 1 ≤ m ∧ m ≤ 12 ∧ 1 ≤ d ∧ d ≤ 31 then return (⟨sign * y, m, d⟩, cs) else none

/-- A time of day at the start of a text; of the fraction nine digits count. -/
def TimeOfDay.read? (cs : List Char) : Option (TimeOfDay × List Char) := do
  let (h, cs) ← readNat? cs
  let (m, cs) ← readNat? (← skipChar? ':' cs)
  let (s, cs) ← readNat? (← skipChar? ':' cs)
  let fraction := match cs with
    | '.' :: rest => rest.takeWhile Char.isDigit
    | _ => []
  let cs := match cs with
    | '.' :: rest => rest.dropWhile Char.isDigit
    | _ => cs
  let nanos := (Text.natOfDigits? ((fraction ++ List.replicate 9 '0').take 9)).getD 0
  if 23 < h ∨ 59 < m ∨ 60 < s then none
  else if s = 60 then return (⟨3600 * h + 60 * m + 59, 1000000000 + nanos⟩, cs)
  else return (⟨3600 * h + 60 * m + s, nanos⟩, cs)

/-- An offset from universal time in minutes: `Z`, or hours and minutes with a sign. -/
def readOffset? : List Char → Option Int
  | ['Z'] => some 0
  | ['z'] => some 0
  | sign :: rest => do
    let (h, rest) ← readNat? rest
    let m ← Text.natOfDigits? (← skipChar? ':' rest)
    if sign = '+' then return (60 * h + m : Nat)
    else if sign = '-' then return -(60 * h + m : Nat)
    else none
  | [] => none

/-- A date and a time of day, and what follows them. -/
def readCivil? (cs : List Char) : Option (Date × TimeOfDay × List Char) := do
  let (d, cs) ← Date.read? cs
  match cs with
  | c :: cs =>
    if c = 'T' ∨ c = 't' ∨ c = ' ' then
      let (t, cs) ← TimeOfDay.read? cs
      return (d, t, cs)
    else none
  | [] => none

/-- A moment with its offset from universal time in minutes. -/
def Instant.read? (cs : List Char) : Option (Instant × Int) := do
  let (d, t, cs) ← readCivil? cs
  let offset ← readOffset? cs
  let here := Instant.ofCivil d t
  return (⟨here.seconds - 60 * offset, here.nanos⟩, offset)

end Shroud
