/-!
# Binary floating point

A floating-point number is kept as its bits, so that equality of values is equality of what is
stored and every operation is one on natural numbers.  `Format` gives the sizes of the parts;
`Datum` is what a pattern of bits stands for; `Format.ofRatio` is rounding to nearest, ties to even,
from which the arithmetic that reading a decimal needs is built.
-/

set_option autoImplicit false

namespace Shroud

/-- A power of two. -/
def pow2 (n : Nat) : Nat := Nat.pow 2 n

/-- A power of ten. -/
def pow10 (n : Nat) : Nat := Nat.pow 10 n

/-- The sizes of the parts of a binary interchange format; the sign is one more bit. -/
structure Format where
  exponentBits : Nat
  fractionBits : Nat

/-- What a pattern of bits stands for. -/
inductive Datum where
  /-- `mantissa · 2 ^ scale`, negated if `negative`. -/
  | finite (negative : Bool) (mantissa : Nat) (scale : Int)
  | infinite (negative : Bool)
  | nan
  deriving DecidableEq

namespace Format

/-- Eight bytes: 11 bits of exponent, 52 of fraction. -/
def double : Format := ⟨11, 52⟩

/-- Four bytes: 8 bits of exponent, 23 of fraction. -/
def single : Format := ⟨8, 23⟩

variable (f : Format)

/-- The biased exponent of infinities and of what is not a number. -/
def top : Nat := pow2 f.exponentBits - 1

/-- The power of two of the last bit of a subnormal number. -/
def minScale : Int := 2 - (pow2 (f.exponentBits - 1) : Nat) - f.fractionBits

/-- What a pattern stands for. -/
def decode (bits : Nat) : Datum :=
  let fraction := bits % pow2 f.fractionBits
  let exponent := bits / pow2 f.fractionBits % pow2 f.exponentBits
  let negative := bits / pow2 (f.fractionBits + f.exponentBits) % 2 == 1
  if exponent = f.top then
    if fraction = 0 then .infinite negative else .nan
  else if exponent = 0 then .finite negative fraction f.minScale
  else .finite negative (pow2 f.fractionBits + fraction) (f.minScale + (exponent - 1 : Nat))

/-- The pattern of `mantissa · 2 ^ (minScale + steps)`, where the mantissa has its leading bit
unless `steps` is zero; infinity when the exponent is too large. -/
def encode (mantissa steps : Nat) : Nat :=
  if mantissa < pow2 f.fractionBits then mantissa
  else if f.top ≤ steps + 1 then f.top * pow2 f.fractionBits
  else (steps + 1) * pow2 f.fractionBits + (mantissa - pow2 f.fractionBits)

/-- The quotient rounded to the nearest natural number, a tie to the even one. -/
def roundQuotient (num den : Nat) : Nat :=
  let q := num / den
  let r := num % den
  if 2 * r < den then q
  else if den < 2 * r then q + 1
  else if q % 2 = 0 then q else q + 1

/-- A natural number and a power of two as a ratio. -/
def scaled (n : Nat) (e : Int) : Nat × Nat :=
  if 0 ≤ e then (n * pow2 e.toNat, 1) else (n, pow2 (-e).toNat)

/-- The exponent of the leading bit of a ratio: `2 ^ e ≤ num / den < 2 ^ (e + 1)`. -/
def leadingExponent (num den : Nat) : Int :=
  let guess : Int := (num.log2 : Int) - den.log2
  let p := scaled den guess
  if p.1 ≤ num * p.2 then guess else guess - 1

/-- The pattern nearest to a ratio, a tie going to the even pattern. -/
def ofRatio (num den : Nat) : Nat :=
  if num = 0 then 0
  else
    let scale := max (leadingExponent num den - f.fractionBits) f.minScale
    let p := scaled den scale
    let m := roundQuotient (num * p.2) p.1
    let steps := (scale - f.minScale).toNat
    if m = pow2 (f.fractionBits + 1) then f.encode (pow2 f.fractionBits) (steps + 1)
    else f.encode m steps

/-- A pattern's magnitude as a ratio; zero for what is not finite. -/
def toRatio (bits : Nat) : Nat × Nat :=
  match f.decode bits with
  | .finite _ m s => scaled m s
  | _ => (0, 1)

end Format

/-- A number of eight bytes. -/
structure Double where
  bits : UInt64
  deriving DecidableEq

/-- A number of four bytes. -/
structure Single where
  bits : UInt32
  deriving DecidableEq

namespace Double

/-- What the bits stand for. -/
def datum (x : Double) : Datum := Format.double.decode x.bits.toNat

/-- Equality of numbers: zeros are equal whatever their sign, and what is not a number differs from
everything. -/
def numEq (x y : Double) : Bool :=
  match x.datum, y.datum with
  | .nan, _ => false
  | _, .nan => false
  | .finite _ 0 _, .finite _ 0 _ => true
  | _, _ => x == y

/-- The number nearest to a ratio of natural numbers. -/
def ofRatio (num den : Nat) : Double := ⟨UInt64.ofNat (Format.double.ofRatio num den)⟩

/-- The number with the other sign. -/
def neg (x : Double) : Double := ⟨x.bits ^^^ 0x8000000000000000⟩

/-- The product of the magnitudes of two finite numbers, rounded. -/
def mulMagnitude (x y : Double) : Double :=
  let a := Format.double.toRatio x.bits.toNat
  let b := Format.double.toRatio y.bits.toNat
  ofRatio (a.1 * b.1) (a.2 * b.2)

/-- The quotient of the magnitudes of two finite numbers, rounded. -/
def divMagnitude (x y : Double) : Double :=
  let a := Format.double.toRatio x.bits.toNat
  let b := Format.double.toRatio y.bits.toNat
  ofRatio (a.1 * b.2) (a.2 * b.1)

/-- The number is an infinity. -/
def isInfinite (x : Double) : Bool :=
  match x.datum with
  | .infinite _ => true
  | _ => false

/-- The number is a zero, of either sign. -/
def isZero (x : Double) : Bool :=
  match x.datum with
  | .finite _ 0 _ => true
  | _ => false

end Double

namespace Single

/-- What the bits stand for. -/
def datum (x : Single) : Datum := Format.single.decode x.bits.toNat

/-- The same number in eight bytes. -/
def toDouble (x : Single) : Double :=
  match x.datum with
  | .finite negative m s =>
    let p := Format.scaled m s
    if negative then (Double.ofRatio p.1 p.2).neg else Double.ofRatio p.1 p.2
  | .infinite negative => ⟨if negative then 0xfff0000000000000 else 0x7ff0000000000000⟩
  | .nan => ⟨0x7ff8000000000000⟩

/-- The nearest number of four bytes. -/
def ofDouble (x : Double) : Single :=
  match x.datum with
  | .finite negative m s =>
    let p := Format.scaled m s
    let bits := UInt32.ofNat (Format.single.ofRatio p.1 p.2)
    ⟨if negative then bits ||| 0x80000000 else bits⟩
  | .infinite negative => ⟨if negative then 0xff800000 else 0x7f800000⟩
  | .nan => ⟨0x7fc00000⟩

end Single

end Shroud
