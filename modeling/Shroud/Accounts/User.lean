import Shroud.Calendar.Timestamp
import Shroud.Json.Basic
import Shroud.Outline.Basic

/-!
# Users

What a new user tells about themselves, and what is kept of it.  The password is not kept.  The
parts that must not reach a log in clear are annotated: the address for mail, the password, the
phone, the street and the postal code.
-/

set_option autoImplicit false

namespace Shroud.Accounts

/-- A postal address. -/
structure Address where
  street : String
  city : String
  postalCode : String
  deriving DecidableEq

/-- What a new user tells. -/
structure NewUser where
  name : String
  email : String
  password : String
  phone : Option String
  address : Option Address
  deriving DecidableEq

/-- What is kept of a user. -/
structure User where
  id : String
  name : String
  email : String
  phone : Option String
  address : Option Address
  createdAt : Instant
  deriving DecidableEq

/-- The user made from what a new user tells. -/
def User.ofNewUser (id : String) (u : NewUser) (createdAt : Instant) : User :=
  ⟨id, u.name, u.email, u.phone, u.address, createdAt⟩

/-! ## As records -/

/-- The annotations of a part that must not reach a log in clear. -/
def secret : Lookup := (Tags.declared [("log", "encrypt")]).get?

/-- The annotations of a part that may be seen. -/
def visible : Lookup := (Tags.declared []).get?

open HasOutline (outline fill)

instance : HasOutline Instant := ⟨fun _ ↦ .timestamp, fun t _ ↦ t⟩

namespace Address

/-- An address as a record. -/
def toRecord (a : Address) : Record Lookup Outline :=
  ⟨"Address", [⟨"street", secret, outline a.street⟩, ⟨"city", visible, outline a.city⟩,
    ⟨"postal_code", secret, outline a.postalCode⟩]⟩

/-- The address with its texts replaced by those of a record. -/
def withFields (a : Address) : List (Field Lookup Outline) → Address
  | [s, c, p] => ⟨fill a.street s.value, fill a.city c.value, fill a.postalCode p.value⟩
  | _ => a

end Address

instance : HasOutline Address where
  outline a := .record a.toRecord
  fill
    | a, .record r => a.withFields r.fields
    | a, _ => a

namespace NewUser

/-- What a new user tells, as a record. -/
def toRecord (u : NewUser) : Record Lookup Outline :=
  ⟨"CreateUserRequest", [⟨"name", visible, outline u.name⟩, ⟨"email", secret, outline u.email⟩,
    ⟨"password", secret, outline u.password⟩, ⟨"phone", secret, outline u.phone⟩,
    ⟨"address", visible, outline u.address⟩]⟩

/-- What a new user tells with its texts replaced by those of a record. -/
def withFields (u : NewUser) : List (Field Lookup Outline) → NewUser
  | [n, e, w, p, a] => ⟨fill u.name n.value, fill u.email e.value, fill u.password w.value,
      fill u.phone p.value, fill u.address a.value⟩
  | _ => u

end NewUser

instance : HasRoot NewUser where
  root u := .record u.toRecord
  refill
    | u, .record r => u.withFields r.fields
    | u, _ => u

namespace User

/-- A user as a record. -/
def toRecord (u : User) : Record Lookup Outline :=
  ⟨"User", [⟨"id", visible, outline u.id⟩, ⟨"name", visible, outline u.name⟩,
    ⟨"email", secret, outline u.email⟩, ⟨"phone", secret, outline u.phone⟩,
    ⟨"address", visible, outline u.address⟩, ⟨"created_at", visible, outline u.createdAt⟩]⟩

/-- A user with their texts replaced by those of a record. -/
def withFields (u : User) : List (Field Lookup Outline) → User
  | [i, n, e, p, a, t] => ⟨fill u.id i.value, fill u.name n.value, fill u.email e.value,
      fill u.phone p.value, fill u.address a.value, fill u.createdAt t.value⟩
  | _ => u

end User

instance : HasRoot User where
  root u := .record u.toRecord
  refill
    | u, .record r => u.withFields r.fields
    | u, _ => u

/-! ## As documents -/

open HasDocument (document)

/-- A map from the names of members, in order. -/
def members (entries : List (String × Document)) : Document :=
  .map (entries.map fun e ↦ (.text e.1, e.2))

instance : HasDocument Instant := ⟨fun t ↦ .text t.text⟩

instance : HasDocument Address where
  document a := members [("street", document a.street), ("city", document a.city),
    ("postal_code", document a.postalCode)]

instance : HasDocument NewUser where
  document u := members [("name", document u.name), ("email", document u.email),
    ("password", document u.password), ("phone", document u.phone), ("address", document u.address)]

instance : HasDocument User where
  document u := members [("id", document u.id), ("name", document u.name),
    ("email", document u.email), ("phone", document u.phone), ("address", document u.address),
    ("created_at", document u.createdAt)]

end Shroud.Accounts
