import Shroud.Declared.Basic

/-!
# The order of the entries of a table

A table hands out its entries in an order that is not part of the data, and that a copy does not
keep: each table of a copy has an order of its own.  Which one it is cannot be told in advance, and
so it is a parameter: an `Arrangement` says, for the table at each place of the data, in which order
the copy hands out the entries.
-/

set_option autoImplicit false

namespace Shroud

/-- The orders in which the tables of a copy hand out their entries.  The place of a table in the
data is given by positions, the outermost first. -/
structure Arrangement where
  arrange : List Nat → List (Key × Plain) → List (Key × Plain)
  perm : ∀ place entries, (arrange place entries).Perm entries

namespace Arrangement

/-- The orders of the tables in the part at a position. -/
def below (o : Arrangement) (i : Nat) : Arrangement :=
  ⟨fun place ↦ o.arrange (i :: place), fun place ↦ o.perm (i :: place)⟩

end Arrangement

namespace Declared

mutual

/-- The data with the entries of its tables in the given orders. -/
def arranged (o : Arrangement) : Plain → Plain
  | present x => present (arranged o x)
  | owned x => owned (arranged o x)
  | list items => list (arrangedItems o 0 items)
  | dict entries => dict (arrangedEntries o 0 entries)
  | table entries => table (o.arrange [] (arrangedEntries o 0 entries))
  | record ⟨name, fs⟩ => record ⟨name, arrangedFields o 0 fs⟩
  | x => x

/-- The elements from a position on, with the entries of their tables in the given orders. -/
def arrangedItems (o : Arrangement) : Nat → List Plain → List Plain
  | _, [] => []
  | i, x :: rest => arranged (o.below i) x :: arrangedItems o (i + 1) rest

/-- The entries from a position on, with the entries of their tables in the given orders. -/
def arrangedEntries (o : Arrangement) : Nat → List (Key × Plain) → List (Key × Plain)
  | _, [] => []
  | i, (k, x) :: rest => (k, arranged (o.below i) x) :: arrangedEntries o (i + 1) rest

/-- The fields from a position on, with the entries of their tables in the given orders. -/
def arrangedFields (o : Arrangement) :
    Nat → List (Field (List Tag) Plain) → List (Field (List Tag) Plain)
  | _, [] => []
  | i, ⟨name, tags, x⟩ :: rest =>
    ⟨name, tags, arranged (o.below i) x⟩ :: arrangedFields o (i + 1) rest

end

mutual

/-- No table in the data has more than one entry, and so there is nothing to arrange. -/
def isSettled : Plain → Bool
  | present x => isSettled x
  | owned x => isSettled x
  | list items => settledItems items
  | dict entries => settledEntries entries
  | table entries => entries.length ≤ 1 && settledEntries entries
  | record ⟨_, fs⟩ => settledFields fs
  | _ => true

/-- No table in the elements has more than one entry. -/
def settledItems : List Plain → Bool
  | [] => true
  | x :: rest => isSettled x && settledItems rest

/-- No table in the entries has more than one entry. -/
def settledEntries : List (Key × Plain) → Bool
  | [] => true
  | (_, x) :: rest => isSettled x && settledEntries rest

/-- No table in the fields has more than one entry. -/
def settledFields : List (Field (List Tag) Plain) → Bool
  | [] => true
  | ⟨_, _, x⟩ :: rest => isSettled x && settledFields rest

end

end Declared

end Shroud
