import Shroud.Accounts.User
import Shroud.Json.Draft
import Shroud.Json.Writing
import Shroud.Text.Quoted

/-!
# Reading records

A record is read from the draft of a JSON text, against a shape that says which fields it has.  It
may come as an object, whose other members are passed over, or as an array of its fields in order.
An optional field may be null or absent; in an array only the last fields can be absent.

The draft is gone through from its start, so of several faults the first in the text is the one that
is reported.
-/

set_option autoImplicit false

namespace Shroud.Accounts

/-! ## Shapes -/

mutual

/-- What a value must look like. -/
inductive Shape where
  | text
  /-- A record: the name of its type and its fields. -/
  | record (name : String) (fields : List Place)

/-- What a field must look like. -/
inductive Place where
  | mk (name : String) (isOptional : Bool) (shape : Shape)

end

namespace Place

/-- The name of a field. -/
def name : Place → String
  | mk n _ _ => n

/-- The field may be absent. -/
def isOptional : Place → Bool
  | mk _ o _ => o

/-- What the value of a field must look like. -/
def shape : Place → Shape
  | mk _ _ s => s

end Place

/-- A shape in words. -/
def Shape.words : Shape → String
  | text => "a string"
  | record name _ => "struct " ++ name

/-- A value that was read against a shape. -/
inductive Reading where
  | text (s : String)
  | absent
  | record (fields : List Reading)

/-! ## Faults -/

/-- What was found in the place of a value. -/
inductive Found where
  | null
  | bool (b : Bool)
  | number (n : Number)
  | text (s : String)
  | sequence
  | map

/-- What was found, in words. -/
def Found.words : Found → String
  | null => "null"
  | bool b => "boolean `" ++ (if b then "true" else "false") ++ "`"
  | number (.int n) => "integer `" ++ toString n ++ "`"
  | number x => "floating point `" ++ x.text ++ "`"
  | text s => "string " ++ Text.quoted s
  | sequence => "sequence"
  | map => "map"

/-- How a value misses its shape. -/
inductive Misfit where
  | missing (field : String)
  | duplicate (field : String)
  | wrongType (found : Found) (expected : Shape)
  /-- An array has too few elements for a record. -/
  | tooShort (length : Nat) (name : String) (size : Nat)
  /-- An array has more elements than the record has fields. -/
  | tooLong (length : Nat)

/-- The misfit in words. -/
def Misfit.message : Misfit → String
  | missing field => "missing field `" ++ field ++ "`"
  | duplicate field => "duplicate field `" ++ field ++ "`"
  | wrongType found expected => "invalid type: " ++ found.words ++ ", expected " ++ expected.words
  | tooShort length name size =>
    "invalid length " ++ toString length ++ ", expected struct " ++ name ++ " with " ++
      toString size ++ " elements"
  | tooLong length =>
    "invalid length " ++ toString length ++ ", expected fewer elements in array"

/-- A step of the way to a value. -/
inductive Segment where
  | field (name : String)
  | index (i : Nat)

/-- The way to a value as text, put behind what is there already. -/
def pathText (front : String) : List Segment → String
  | [] => front
  | .field name :: rest =>
    pathText (if front.isEmpty then name else front ++ "." ++ name) rest
  | .index i :: rest => pathText (front ++ "[" ++ toString i ++ "]") rest

/-- Why nothing was read. -/
inductive Unread where
  /-- The text does not follow the grammar, or a value that was asked for has no meaning. -/
  | broken
  /-- A value misses its shape. -/
  | misfit (path : List Segment) (fault : Misfit)

/-! ## Values -/

/-- The place of a field of a name, and what it must look like. -/
def findPlace? (name : String) (fields : List Place) : Option (Nat × Place) :=
  (fields.zipIdx.find? fun f ↦ f.1.name == name).map fun f ↦ (f.2, f.1)

/-- The fields of a record from what was read for each of them. -/
def complete (path : List Segment) : List (Place × Option Reading) → Except Unread (List Reading)
  | [] => .ok []
  | (_, some r) :: rest => return r :: (← complete path rest)
  | (f, none) :: rest =>
    if f.isOptional then return .absent :: (← complete path rest)
    else throw (.misfit path (.missing f.name))

/-- The fields that an array leaves off at its end, which has `length` elements. -/
def leftOff (path : List Segment) (name : String) (size length : Nat) (fields : List Place) :
    Except Unread (List Reading) :=
  if fields.all Place.isOptional then .ok (fields.map fun _ ↦ .absent)
  else .error (.misfit path (.tooShort length name size))

mutual

/-- A value read against a shape; an optional one may be null. -/
def readValue (path : List Segment) (isOptional : Bool) (shape : Shape) :
    Draft → Except Unread Reading
  | .broken => .error .broken
  | .number none => .error .broken
  | .text none => .error .broken
  | .null => if isOptional then .ok .absent else .error (.misfit path (.wrongType .null shape))
  | .bool b => .error (.misfit path (.wrongType (.bool b) shape))
  | .number (some n) => .error (.misfit path (.wrongType (.number n) shape))
  | .text (some s) =>
    match shape with
    | .text => .ok (.text s)
    | .record _ _ => .error (.misfit path (.wrongType (.text s) shape))
  | .seq items =>
    match shape with
    | .text => .error (.misfit path (.wrongType .sequence shape))
    | .record name fields => return .record (← readItems path name fields.length 0 fields items)
  | .map entries =>
    match shape with
    | .text => .error (.misfit path (.wrongType .map shape))
    | .record _ fields => do
      let found ← readEntries path fields (fields.map fun _ ↦ none) entries
      return .record (← complete path (fields.zip found))

/-- The fields of a record of `size` fields, read from the elements of an array from `index` on. -/
def readItems (path : List Segment) (name : String) (size index : Nat) (fields : List Place) :
    List Draft → Except Unread (List Reading)
  | [] => leftOff path name size index fields
  | d :: rest =>
    match fields with
    | [] => .error (.misfit path (.tooLong (index + rest.length + 1)))
    | f :: fields => do
      let r ← readValue (path ++ [.index index]) f.isOptional f.shape d
      return r :: (← readItems path name size (index + 1) fields rest)

/-- What is found for the fields of a record in the entries of an object that are left. -/
def readEntries (path : List Segment) (fields : List Place) (found : List (Option Reading)) :
    List (Option String × Draft) → Except Unread (List (Option Reading))
  | [] => .ok found
  | (none, _) :: _ => .error .broken
  | (some key, d) :: rest =>
    match findPlace? key fields with
    | none => if d.complete then readEntries path fields found rest else .error .broken
    | some (i, f) =>
      match found[i]? with
      | some (some _) => .error (.misfit path (.duplicate key))
      | _ => do
        let r ← readValue (path ++ [.field key]) f.isOptional f.shape d
        readEntries path fields (found.set i (some r)) rest

end

/-! ## New users -/

namespace Address

/-- What an address must look like. -/
def shape : Shape :=
  .record "Address"
    [.mk "street" false .text, .mk "city" false .text, .mk "postal_code" false .text]

/-- The address that was read. -/
def ofReading? : Reading → Option Address
  | .record [.text street, .text city, .text postalCode] => some ⟨street, city, postalCode⟩
  | _ => none

end Address

namespace NewUser

/-- What a new user must look like. -/
def shape : Shape :=
  .record "CreateUserRequest" [.mk "name" false .text, .mk "email" false .text,
    .mk "password" false .text, .mk "phone" true .text, .mk "address" true Address.shape]

/-- An optional text that was read. -/
def phoneOf? : Reading → Option (Option String)
  | .text s => some (some s)
  | .absent => some none
  | _ => none

/-- An optional address that was read. -/
def addressOf? : Reading → Option (Option Address)
  | .absent => some none
  | r => (Address.ofReading? r).map some

/-- The new user that was read. -/
def ofReading? : Reading → Option NewUser
  | .record [.text name, .text email, .text password, phone, address] => do
    return ⟨name, email, password, ← phoneOf? phone, ← addressOf? address⟩
  | _ => none

/-- The new user of a draft. -/
def ofDraft (d : Draft) : Except Unread NewUser := do
  match ofReading? (← readValue [] false shape d) with
  | some u => return u
  | none => throw .broken

/-- The new user of a JSON value.  The members of an object are seen in the order of their keys. -/
def ofJson (j : Json) : Except Unread NewUser :=
  match Document.tree? j.document with
  | .ok sorted => ofDraft (.ofJson sorted)
  | .error _ => .error .broken

end NewUser

end Shroud.Accounts
