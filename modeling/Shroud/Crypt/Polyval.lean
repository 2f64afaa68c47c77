import Shroud.Crypt.Bytes

/-!
# POLYVAL

The universal hash of RFC 8452: blocks of 16 bytes are elements of the field with `2 ^ 128`
elements, least significant bit first, and a message is the value of a polynomial at the hash key.
-/

set_option autoImplicit false

namespace Shroud.Polyval

/-- An element of the field; bit `i` is the coefficient of `x ^ i`. -/
abbrev Element := BitVec 128

/-- `x ^ 127 + x ^ 126 + x ^ 121 + 1` shifted down by one with the leading term `x ^ 128`: what a
division by `x` adds when the constant coefficient is one. -/
def reduction : Element := 0xe1000000000000000000000000000000#128

/-- The element divided by `x`. -/
def divX (a : Element) : Element :=
  if a.getLsbD 0 then (a >>> 1) ^^^ reduction else a >>> 1

/-- `a · b · x ^ (-n)` for the lowest `n` coefficients of `a`, added to `acc · x ^ (-n)`. -/
def dotBits : Nat → Element → Element → Element → Element
  | 0, _, _, acc => acc
  | n + 1, a, b, acc =>
    dotBits n (a >>> 1) b (divX (if a.getLsbD 0 then acc ^^^ b else acc))

/-- The product of the hash, `a · b · x ^ (-128)`. -/
def dot (a b : Element) : Element := dotBits 128 a b 0

/-- The element that a block spells. -/
def ofBlock (b : Bytes) : Element := BitVec.ofNat 128 (Bytes.toNatLE b)

/-- The 16 bytes of an element. -/
def toBlock (e : Element) : Bytes := Bytes.ofNatLE 16 e.toNat

/-- The hash of a message of whole blocks under the key `h`. -/
def hash (h : Element) (message : Bytes) : Element :=
  (Bytes.blocks 15 message).foldl (fun s b ↦ dot (s ^^^ ofBlock b) h) 0

end Shroud.Polyval
