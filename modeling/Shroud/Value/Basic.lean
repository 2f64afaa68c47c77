import Shroud.Outline.Basic
import Shroud.Decimal.Binary
import Shroud.Calendar.Date

/-!
# Dynamic values

A `Value` describes itself: a record carries the name of its type, its fields and their annotations.
It is what stands for data whose layout is known only at run time, and the only place where records
and other elements may be mixed in one sequence.
-/

set_option autoImplicit false

namespace Shroud

/-- A dynamic value. -/
inductive Value where
  | bool (b : Bool)
  | int (n : Int)
  | float (x : Double)
  | text (s : String)
  | timestamp (t : Instant)
  /-- A reference to nothing. -/
  | null
  /-- A reference to another value. -/
  | ref (target : Value)
  | seq (items : List Value)
  | record (r : Record TagMap Value)

/-! ## Records -/

namespace Record

variable {τ α : Type}

/-- The record with one more field at the end. -/
def push (r : Record τ α) (f : Field τ α) : Record τ α := ⟨r.name, r.fields ++ [f]⟩

/-- The value of the first field of a name. -/
def get? (r : Record τ α) (name : String) : Option α :=
  (r.fields.find? fun f ↦ f.name == name).map Field.value

/-- The fields with the value of the first one of a name changed. -/
def modifyFirst (name : String) (change : α → α) : List (Field τ α) → List (Field τ α)
  | [] => []
  | f :: rest =>
    if f.name == name then { f with value := change f.value } :: rest
    else f :: modifyFirst name change rest

/-- The record with the value of the first field of a name changed. -/
def modify (r : Record τ α) (name : String) (change : α → α) : Record τ α :=
  ⟨r.name, modifyFirst name change r.fields⟩

/-- The record with another value in the first field of a name. -/
def set (r : Record τ α) (name : String) (value : α) : Record τ α := r.modify name fun _ ↦ value

end Record

namespace Field

/-- A field with annotations attached in order. -/
def tagged {α : Type} (name : String) (value : α) (tags : List Tag) : Field TagMap α :=
  ⟨name, .ofList tags, value⟩

end Field

/-! ## Observations -/

namespace Value

/-- The name of the kind of a value. -/
def kind : Value → String
  | bool _ => "bool"
  | int _ => "integer"
  | float _ => "float"
  | text _ => "string"
  | timestamp _ => "timestamp"
  | null => "null reference"
  | ref _ => "reference"
  | seq _ => "sequence"
  | record _ => "record"

/-- The text of a value, looking through references. -/
def asText? : Value → Option String
  | text s => some s
  | ref v => v.asText?
  | _ => none

/-- The record of a value, looking through references. -/
def asRecord? : Value → Option (Record TagMap Value)
  | record r => some r
  | ref v => v.asRecord?
  | _ => none

/-- The elements of a sequence; references are not looked through. -/
def asSeq? : Value → Option (List Value)
  | seq items => some items
  | _ => none

/-- `n` references around a value. -/
def refs : Nat → Value → Value
  | 0, v => v
  | n + 1, v => ref (refs n v)

/-- A value inside `n` records, each with a single field. -/
def nested (typeName fieldName : String) : Nat → Value → Value
  | 0, v => v
  | n + 1, v => record ⟨typeName, [⟨fieldName, .empty, nested typeName fieldName n v⟩]⟩

mutual

/-- Equality of values; floating-point numbers compare as numbers. -/
def same : Value → Value → Bool
  | bool a, bool b => a == b
  | int a, int b => a == b
  | float a, float b => a.numEq b
  | text a, text b => a == b
  | timestamp a, timestamp b => a == b
  | null, null => true
  | ref a, ref b => same a b
  | seq as, seq bs => sameItems as bs
  | record ⟨m, fs⟩, record ⟨n, gs⟩ => m == n && sameFields fs gs
  | _, _ => false

/-- Equality of sequences, element by element. -/
def sameItems : List Value → List Value → Bool
  | [], [] => true
  | a :: as, b :: bs => same a b && sameItems as bs
  | _, _ => false

/-- Equality of fields, one by one. -/
def sameFields : List (Field TagMap Value) → List (Field TagMap Value) → Bool
  | [], [] => true
  | ⟨m, s, a⟩ :: fs, ⟨n, t, b⟩ :: gs => m == n && s == t && same a b && sameFields fs gs
  | _, _ => false

end

/-! ## Editing in place -/

/-- A step of the way to a part of a value. -/
inductive Step where
  /-- The first field of a name. -/
  | field (name : String)
  /-- The element at an index. -/
  | element (index : Nat)

mutual

/-- The value with the part at the end of the way replaced; nothing when there is no such part.
References are looked through as long as there is a way to go. -/
def setAt? (new : Value) : List Step → Value → Option Value
  | [], _ => some new
  | steps, ref v => (setAt? new steps v).map ref
  | .field name :: steps, record ⟨n, fs⟩ =>
    (setField? new name steps fs).map fun fs ↦ record ⟨n, fs⟩
  | .element i :: steps, seq items => (setItem? new i steps items).map seq
  | _ :: _, _ => none

/-- The fields with the part inside the first one of a name replaced. -/
def setField? (new : Value) (name : String) (steps : List Step) :
    List (Field TagMap Value) → Option (List (Field TagMap Value))
  | [] => none
  | ⟨n, t, v⟩ :: rest =>
    if n == name then (setAt? new steps v).map fun v ↦ ⟨n, t, v⟩ :: rest
    else (setField? new name steps rest).map (⟨n, t, v⟩ :: ·)

/-- The elements with the part inside the one at an index replaced. -/
def setItem? (new : Value) (index : Nat) (steps : List Step) : List Value → Option (List Value)
  | [] => none
  | v :: rest =>
    match index with
    | 0 => (setAt? new steps v).map (· :: rest)
    | i + 1 => (setItem? new i steps rest).map (v :: ·)

end

end Value

end Shroud
