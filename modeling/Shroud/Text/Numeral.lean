/-!
# Numerals

The texts that stand for a number: decimal digits with at most one point among them, with a sign
before them and an exponent after them, or a word for infinity or for no number.
-/

set_option autoImplicit false

namespace Shroud.Text

/-- A text without its sign. -/
def unsigned : List Char → List Char
  | '+' :: rest => rest
  | '-' :: rest => rest
  | cs => cs

/-- The words for what no digits stand for. -/
def infinities : List String := ["inf", "infinity", "nan"]

/-- Nothing, or an exponent. -/
def isExponent : List Char → Bool
  | [] => true
  | c :: rest =>
    let digits := unsigned rest
    (c == 'e' || c == 'E') && !digits.isEmpty && digits.all Char.isDigit

/-- The text stands for a number. -/
def isNumeral (cs : List Char) : Bool :=
  let cs := unsigned cs
  let whole := cs.takeWhile Char.isDigit
  let (fraction, rest) := match cs.dropWhile Char.isDigit with
    | '.' :: rest => (rest.takeWhile Char.isDigit, rest.dropWhile Char.isDigit)
    | rest => ([], rest)
  infinities.contains (String.ofList (cs.map Char.toLower)) ||
    (!(whole ++ fraction).isEmpty && isExponent rest)

end Shroud.Text
