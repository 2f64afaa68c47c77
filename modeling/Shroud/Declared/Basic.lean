import Shroud.Annotation.Tags
import Shroud.Outline.Basic
import Shroud.Value.Basic
import Shroud.Json.Basic

/-!
# Declared data

Data whose layout is declared in advance.  The annotations of a record are those of its declaration,
and a sequence or a map may hold anything.  Besides values that are owned, data may hold pointers to
targets elsewhere; what a pointer is, is a parameter.  `Plain` data has no pointers at all: every
target is owned by the one place that refers to it.
-/

set_option autoImplicit false

namespace Shroud

/-- Data without parts. -/
inductive Scalar where
  | unit
  | bool (b : Bool)
  | char (c : Char)
  | int (n : Int)
  | double (x : Double)
  | single (x : Single)
  | date (d : Date)
  | time (t : TimeOfDay)
  /-- A date and a time of day without a zone. -/
  | civil (d : Date) (t : TimeOfDay)
  deriving DecidableEq

/-- The kind of a scalar. -/
def Scalar.kind : Scalar → Kind
  | unit => .unit
  | bool _ => .bool
  | char _ => .char
  | int _ => .integer
  | double _ => .float
  | single _ => .float
  | date _ => .date
  | time _ => .time
  | civil _ _ => .timestamp

/-- Data with pointers of type `π`. -/
inductive Declared (π : Type) where
  | scalar (x : Scalar)
  | text (s : String)
  /-- A moment in time. -/
  | moment (t : Instant)
  /-- An optional value that is not there. -/
  | absent
  /-- An optional value that is there. -/
  | present (x : Declared π)
  /-- A target that belongs to this place alone. -/
  | owned (x : Declared π)
  /-- A target elsewhere. -/
  | pointer (p : π)
  | list (items : List (Declared π))
  /-- A map whose entries have an order of their own, and every copy has them in that order. -/
  | dict (entries : List (Key × Declared π))
  /-- A map whose entries have no order of their own: they are listed as this map hands them out,
  and a copy may hand them out in another order. -/
  | table (entries : List (Key × Declared π))
  | record (r : Record (List Tag) (Declared π))
  /-- A value that describes itself. -/
  | dynamic (v : Value)

/-- Data without pointers. -/
abbrev Plain := Declared Empty

namespace Declared

variable {π ρ : Type} {m : Type → Type} [Monad m]

mutual

/-- The data with something put in the place of each pointer, from left to right. -/
def substM (f : π → m (Declared ρ)) : Declared π → m (Declared ρ)
  | scalar x => return scalar x
  | text s => return text s
  | moment t => return moment t
  | absent => return absent
  | present x => return present (← substM f x)
  | owned x => return owned (← substM f x)
  | pointer p => f p
  | list items => return list (← substItemsM f items)
  | dict entries => return dict (← substEntriesM f entries)
  | table entries => return table (← substEntriesM f entries)
  | record ⟨name, fs⟩ => return record ⟨name, ← substFieldsM f fs⟩
  | dynamic v => return dynamic v

/-- The elements with something put in the place of each pointer. -/
def substItemsM (f : π → m (Declared ρ)) : List (Declared π) → m (List (Declared ρ))
  | [] => return []
  | x :: rest => do
    let x ← substM f x
    return x :: (← substItemsM f rest)

/-- The entries with something put in the place of each pointer. -/
def substEntriesM (f : π → m (Declared ρ)) :
    List (Key × Declared π) → m (List (Key × Declared ρ))
  | [] => return []
  | (k, x) :: rest => do
    let x ← substM f x
    return (k, x) :: (← substEntriesM f rest)

/-- The fields with something put in the place of each pointer. -/
def substFieldsM (f : π → m (Declared ρ)) :
    List (Field (List Tag) (Declared π)) → m (List (Field (List Tag) (Declared ρ)))
  | [] => return []
  | ⟨name, tags, x⟩ :: rest => do
    let x ← substM f x
    return ⟨name, tags, x⟩ :: (← substFieldsM f rest)

end

/-- The data with other data in the place of each pointer. -/
def subst (f : π → Declared ρ) (x : Declared π) : Declared ρ :=
  Id.run (substM (fun p ↦ pure (f p)) x)

end Declared

end Shroud
