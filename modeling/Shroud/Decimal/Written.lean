import Shroud.Decimal.Shortest

/-!
# Floating-point numbers as text

The digits are those of the shortest decimal.  `Layout` holds what a format decides: between which
powers of ten the number is written with a decimal point in place; outside, it is written with one
digit before the point and an exponent with its sign.
-/

set_option autoImplicit false

namespace Shroud

namespace Decimal

/-- The powers of ten between which a number is written without an exponent: at least
`10 ^ lowest` and less than `10 ^ beyond`. -/
structure Layout where
  lowest : Int
  beyond : Int

/-- The digits without zeros at the end, with the power of ten of the first one. -/
def leading (d : Decimal) : List Char × Int :=
  let ds := Nat.toDigits 10 d.digits
  ((ds.reverse.dropWhile (· = '0')).reverse, d.exponent + ds.length - 1)

/-- Digits with the point in place and at least one digit on either side of it. -/
def positional (ds : List Char) (first : Int) : List Char :=
  if first < 0 then '0' :: '.' :: List.replicate (-first - 1).toNat '0' ++ ds
  else
    let whole := first.toNat + 1
    let front := ds.take whole ++ List.replicate (whole - ds.length) '0'
    front ++ '.' :: (if ds.length ≤ whole then ['0'] else ds.drop whole)

/-- One digit, the others after a point, and the exponent with its sign. -/
def scientific (ds : List Char) (first : Int) : List Char :=
  let front := match ds with
    | d :: x :: rest => d :: '.' :: x :: rest
    | _ => ds
  front ++ 'e' :: (if first < 0 then '-' else '+') :: Nat.toDigits 10 first.natAbs

/-- A positive decimal in a layout. -/
def written (l : Layout) (d : Decimal) : List Char :=
  let p := d.leading
  if l.lowest ≤ p.2 ∧ p.2 < l.beyond then positional p.1 p.2 else scientific p.1 p.2

end Decimal

/-- A number of a format as text; nothing for an infinity or what is not a number. -/
def Datum.text? (f : Format) (l : Decimal.Layout) : Datum → Option String
  | .finite negative m s =>
    let magnitude := if m = 0 then ['0', '.', '0'] else (Decimal.shortest f m s).written l
    some (String.ofList (if negative then '-' :: magnitude else magnitude))
  | _ => none

/-- Numbers of eight bytes have an exponent below `1e-5` and from `1e16` on. -/
def Double.layout : Decimal.Layout := ⟨-5, 16⟩

/-- Numbers of four bytes have an exponent below `1e-6` and from `1e13` on. -/
def Single.layout : Decimal.Layout := ⟨-6, 13⟩

/-- A number of eight bytes as text. -/
def Double.text? (x : Double) : Option String := x.datum.text? .double Double.layout

/-- A number of four bytes as text. -/
def Single.text? (x : Single) : Option String := x.datum.text? .single Single.layout

end Shroud
