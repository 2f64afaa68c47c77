import Shroud.Accounts.User

/-!
# The directory of users

Users are found by their identifier.  A directory can be held under several names: all of them see
the same users.
-/

set_option autoImplicit false

namespace Shroud.Accounts

/-- The users, no two of them with one identifier. -/
structure Directory where
  users : List User

namespace Directory

/-- No users. -/
def empty : Directory := ⟨[]⟩

/-- The users with one more; an earlier one with the same identifier gives way. -/
def insertUser (u : User) : List User → List User
  | [] => [u]
  | v :: rest => if v.id = u.id then u :: rest else v :: insertUser u rest

/-- The directory with one more user; an earlier one with the same identifier gives way. -/
def insert (d : Directory) (u : User) : Directory := ⟨insertUser u d.users⟩

/-- The user with an identifier. -/
def get? (d : Directory) (id : String) : Option User := d.users.find? fun u ↦ u.id = id

/-- The number of users. -/
def size (d : Directory) : Nat := d.users.length

theorem find?_insertUser_self (u : User) (us : List User) :
    (insertUser u us).find? (fun v ↦ v.id = u.id) = some u := by
  induction us with
  | nil => simp [insertUser]
  | cons v rest ih =>
    rw [insertUser]
    split
    · simp
    · rename_i h
      simp [h, ih]

theorem find?_insertUser_of_ne {id : String} (u : User) (us : List User) (h : u.id ≠ id) :
    (insertUser u us).find? (fun v ↦ v.id = id) = us.find? (fun v ↦ v.id = id) := by
  induction us with
  | nil => simp [insertUser, h]
  | cons v rest ih =>
    rw [insertUser]
    split
    · rename_i heq
      simp [h, heq]
    · simp [List.find?_cons, ih]

/-- The user inserted last is found. -/
@[simp] theorem get?_insert_self (d : Directory) (u : User) : (d.insert u).get? u.id = some u :=
  find?_insertUser_self u d.users

/-- Other identifiers lead where they led before. -/
theorem get?_insert_of_ne (d : Directory) (u : User) {id : String} (h : u.id ≠ id) :
    (d.insert u).get? id = d.get? id :=
  find?_insertUser_of_ne u d.users h

end Directory

/-- Directories that are held under numbers, several of which may stand for one directory. -/
structure Directories where
  directories : List Directory
  /-- For each number the place of its directory. -/
  places : List Nat

namespace Directories

/-- One empty directory under the number 0. -/
def single : Directories := ⟨[.empty], [0]⟩

/-- The directory under a number. -/
def get? (ds : Directories) (number : Nat) : Option Directory := do
  let place ← ds.places[number]?
  ds.directories[place]?

/-- The directory under a number changed, for all its numbers. -/
def modify (ds : Directories) (number : Nat) (change : Directory → Directory) : Directories :=
  match ds.places[number]? with
  | some place => ⟨ds.directories.modify place change, ds.places⟩
  | none => ds

/-- A further number for a directory. -/
def share (ds : Directories) (number : Nat) : Directories :=
  match ds.places[number]? with
  | some place => ⟨ds.directories, ds.places ++ [place]⟩
  | none => ds

/-- A further number with an empty directory. -/
def add (ds : Directories) : Directories :=
  ⟨ds.directories ++ [.empty], ds.places ++ [ds.directories.length]⟩

end Directories

end Shroud.Accounts
