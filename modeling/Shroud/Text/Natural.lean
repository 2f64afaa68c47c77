/-!
# Natural numbers in text

Decimal digits as a number.  Leading zeros do not matter, and a text without digits is no number.
-/

set_option autoImplicit false

namespace Shroud.Text

/-- The number whose decimal digits continue those of `n`. -/
def appendDigits (n : Nat) (ds : List Char) : Nat :=
  ds.foldl (fun acc c ↦ 10 * acc + (c.toNat - '0'.toNat)) n

/-- The value of a non-empty list of decimal digits. -/
def natOfDigits? (cs : List Char) : Option Nat :=
  if cs.isEmpty || !cs.all Char.isDigit then none else some (appendDigits 0 cs)

/-- The greatest number of eight bytes. -/
def greatestWord : Nat := 18446744073709551615

/-- A number of eight bytes, possibly after a plus sign. -/
def wordOf? (cs : List Char) : Option Nat :=
  let digits := match cs with
    | '+' :: rest => rest
    | cs => cs
  (natOfDigits? digits).filter fun n ↦ n ≤ greatestWord

end Shroud.Text
