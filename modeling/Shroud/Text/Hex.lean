import Shroud.Crypt.Bytes

/-!
# Hexadecimal digits

Lower-case digits; reading accepts both cases.
-/

set_option autoImplicit false

namespace Shroud.Text

/-- The digit of a value below 16. -/
def hexDigit (n : Nat) : Char :=
  if n < 10 then Char.ofNat ('0'.toNat + n) else Char.ofNat ('a'.toNat + (n - 10))

/-- The value of a digit. -/
def hexValue? (c : Char) : Option Nat :=
  if '0' ≤ c ∧ c ≤ '9' then some (c.toNat - '0'.toNat)
  else if 'a' ≤ c ∧ c ≤ 'f' then some (c.toNat - 'a'.toNat + 10)
  else if 'A' ≤ c ∧ c ≤ 'F' then some (c.toNat - 'A'.toNat + 10)
  else none

/-- The lowest `digits` digits of a number, most significant first. -/
def hexOfNat : Nat → Nat → List Char
  | 0, _ => []
  | digits + 1, n => hexOfNat digits (n / 16) ++ [hexDigit (n % 16)]

/-- The digits of a number without leading zeros; zero has one digit. -/
def hexMinimal (n : Nat) : List Char :=
  match (hexOfNat 8 n).dropWhile (· = '0') with
  | [] => ['0']
  | ds => ds

/-- The number that the digits spell. -/
def natOfHex? (cs : List Char) : Option Nat :=
  cs.foldlM (fun acc c ↦ (hexValue? c).map (16 * acc + ·)) 0

/-- Two digits for each byte. -/
def hexOfBytes (b : Bytes) : String := String.ofList (b.flatMap fun x ↦ hexOfNat 2 x.toNat)

/-- The bytes that pairs of digits spell. -/
def bytesOfHex? : List Char → Option Bytes
  | [] => some []
  | x :: y :: rest => do
    let hi ← hexValue? x
    let lo ← hexValue? y
    return UInt8.ofNat (16 * hi + lo) :: (← bytesOfHex? rest)
  | [_] => none

end Shroud.Text
