import Shroud.Text.Ranges

/-!
# Sets of characters

A set of characters is a term over ranges of code points: what is in it is computed from the term.
-/

set_option autoImplicit false

namespace Shroud.Text

/-- A set of characters. -/
inductive CharSet where
  | empty
  /-- The code points from one to another, ends included. -/
  | range (first last : Nat)
  | union (a b : CharSet)
  | inter (a b : CharSet)
  | diff (a b : CharSet)
  | symmDiff (a b : CharSet)
  /-- The set, and the other case of each Latin letter in it. -/
  | anyCase (a : CharSet)
  deriving DecidableEq

/-- The other case of a letter of the Latin alphabet; other characters stay as they are. -/
def otherCase (c : Char) : Char := if c.isUpper then c.toLower else c.toUpper

namespace CharSet

/-- The character is in the set. -/
def contains : CharSet → Char → Bool
  | empty, _ => false
  | range first last, c => first ≤ c.toNat && c.toNat ≤ last
  | union a b, c => a.contains c || b.contains c
  | inter a b, c => a.contains c && b.contains c
  | diff a b, c => a.contains c && !b.contains c
  | symmDiff a b, c => a.contains c != b.contains c
  | anyCase a, c => a.contains c || a.contains (otherCase c)

/-- The set of all characters. -/
def all : CharSet := range 0 0x10FFFF

/-- The set of one character. -/
def single (c : Char) : CharSet := range c.toNat c.toNat

/-- The characters of some ranges. -/
def ofRanges (rs : List (Nat × Nat)) : CharSet :=
  rs.foldr (fun r s ↦ (range r.1 r.2).union s) empty

/-- All characters that are not in a set. -/
def compl (s : CharSet) : CharSet := all.diff s

end CharSet

end Shroud.Text
