import Shroud.Crypt.Bytes

/-!
# Base64 for URLs, without padding

The alphabet of RFC 4648, section 5.  Three bytes are four characters; one or two bytes at the end
are two or three characters, whose unused bits are zero.  Reading is strict: it refuses padding, any
other character, a single character left over, and unused bits that are not zero.  So each byte
string has exactly one spelling.
-/

set_option autoImplicit false

namespace Shroud.Text.Base64Url

/-- The character of a value below 64. -/
def digit (n : Nat) : Char :=
  if n < 26 then Char.ofNat ('A'.toNat + n)
  else if n < 52 then Char.ofNat ('a'.toNat + (n - 26))
  else if n < 62 then Char.ofNat ('0'.toNat + (n - 52))
  else if n = 62 then '-'
  else '_'

/-- The value of a character of the alphabet. -/
def value? (c : Char) : Option Nat :=
  if 'A' ≤ c ∧ c ≤ 'Z' then some (c.toNat - 'A'.toNat)
  else if 'a' ≤ c ∧ c ≤ 'z' then some (c.toNat - 'a'.toNat + 26)
  else if '0' ≤ c ∧ c ≤ '9' then some (c.toNat - '0'.toNat + 52)
  else if c = '-' then some 62
  else if c = '_' then some 63
  else none

/-- The characters of a byte string. -/
def encode : Bytes → List Char
  | [] => []
  | [x] => [digit (x.toNat / 4), digit (x.toNat % 4 * 16)]
  | [x, y] =>
    [digit (x.toNat / 4), digit (x.toNat % 4 * 16 + y.toNat / 16), digit (y.toNat % 16 * 4)]
  | x :: y :: z :: rest =>
    digit (x.toNat / 4) :: digit (x.toNat % 4 * 16 + y.toNat / 16) ::
      digit (y.toNat % 16 * 4 + z.toNat / 64) :: digit (z.toNat % 64) :: encode rest

/-- The byte string of a text, if the text is the spelling of one. -/
def decode? : List Char → Option Bytes
  | [] => some []
  | [_] => none
  | [c, d] => do
    let x ← value? c
    let y ← value? d
    if y % 16 = 0 then return [UInt8.ofNat (x * 4 + y / 16)] else none
  | [c, d, e] => do
    let x ← value? c
    let y ← value? d
    let z ← value? e
    if z % 4 = 0 then
      return [UInt8.ofNat (x * 4 + y / 16), UInt8.ofNat (y % 16 * 16 + z / 4)]
    else none
  | c :: d :: e :: f :: rest => do
    let x ← value? c
    let y ← value? d
    let z ← value? e
    let w ← value? f
    return UInt8.ofNat (x * 4 + y / 16) :: UInt8.ofNat (y % 16 * 16 + z / 4) ::
      UInt8.ofNat (z % 4 * 64 + w) :: (← decode? rest)

end Shroud.Text.Base64Url
