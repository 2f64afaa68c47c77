import Shroud.Accounts.Request
import Shroud.Proofs.Json.ReadBack
import Shroud.Proofs.Outline.Undo
import Shroud.Proofs.Text.Utf8

/-!
# New users, there and back

Three ways of a new user into another form and back.

* **As a root.**  Texts that are put into the root of a new user are found in the root of the copy
  (`NewUser.restorable`), be the phone and the address there or not.
* **As a document.**  `NewUser.json` is the JSON value of a new user, and its text is what stands
  for the new user in a log (`NewUser.logText_eq`).
* **As a body.**  A request that has this text for a body brings the new user, in every field
  (`Request.newUser_of_body`).
-/

set_option autoImplicit false

namespace Shroud.Accounts

open HasOutline (outline fill)

/-! ## Roots -/

theorem Address.restorableField (m : Marker) (a : Address) : RestorableField m a := by
  obtain ⟨street, city, code⟩ := a
  have hstreet := restorableField_text m street
  have hcity := restorableField_text m city
  have hcode := restorableField_text m code
  refine ⟨fun _ ts ↦ ?_, fun _ ts ↦ ?_⟩
  · show Outline.record ⟨"Address", [⟨"street", secret, outline (fill street _)⟩,
      ⟨"city", visible, outline (fill city _)⟩,
      ⟨"postal_code", secret, outline (fill code _)⟩]⟩ = _
    rw [hstreet.outline_fill, hcity.outline_fill, hcode.outline_fill]
    rfl
  · show Address.mk (fill (fill street _) (outline street)) (fill (fill city _) (outline city))
      (fill (fill code _) (outline code)) = _
    rw [hstreet.fill_outline, hcity.fill_outline, hcode.fill_outline]

theorem NewUser.restorable (m : Marker) (u : NewUser) : Restorable m u := by
  obtain ⟨name, email, password, phone, address⟩ := u
  have hname := restorableField_text m name
  have hemail := restorableField_text m email
  have hpassword := restorableField_text m password
  have hphone := restorableField_option (restorableField_text m) phone
  have haddress := restorableField_option (Address.restorableField m) address
  refine ⟨fun ts ↦ ?_, fun ts ↦ ?_⟩
  · show Root.record ⟨"CreateUserRequest", [⟨"name", visible, outline (fill name _)⟩,
      ⟨"email", secret, outline (fill email _)⟩, ⟨"password", secret, outline (fill password _)⟩,
      ⟨"phone", secret, outline (fill phone _)⟩,
      ⟨"address", visible, outline (fill address _)⟩]⟩ = _
    rw [hname.outline_fill, hemail.outline_fill, hpassword.outline_fill, hphone.outline_fill,
      haddress.outline_fill]
    rfl
  · show NewUser.mk (fill (fill name _) (outline name)) (fill (fill email _) (outline email))
      (fill (fill password _) (outline password)) (fill (fill phone _) (outline phone))
      (fill (fill address _) (outline address)) = _
    rw [hname.fill_outline, hemail.fill_outline, hpassword.fill_outline, hphone.fill_outline,
      haddress.fill_outline]

/-- The texts of a new user that must not reach a log in clear, with their paths. -/
def NewUser.secrets (u : NewUser) : List (String × String) :=
  [("email", u.email), ("password", u.password)] ++ u.phone.toList.map ("phone", ·) ++
    u.address.toList.flatMap fun a ↦
      [("address.street", a.street), ("address.postal_code", a.postalCode)]

/-- The texts of a user that must not reach a log in clear, with their paths. -/
def User.secrets (u : User) : List (String × String) :=
  [("email", u.email)] ++ u.phone.toList.map ("phone", ·) ++
    u.address.toList.flatMap fun a ↦
      [("address.street", a.street), ("address.postal_code", a.postalCode)]

/-- A walk meets these texts and nothing else. -/
theorem NewUser.events_root (u : NewUser) :
    (HasRoot.root u).events .standard = u.secrets.map fun x ↦ .text x.1 x.2 := by
  obtain ⟨name, email, password, phone, address⟩ := u
  cases phone <;> cases address <;> rfl

theorem User.events_root (u : User) :
    (HasRoot.root u).events .standard = u.secrets.map fun x ↦ .text x.1 x.2 := by
  obtain ⟨id, name, email, phone, address, createdAt⟩ := u
  cases phone <;> cases address <;> rfl

theorem NewUser.contents_root (u : NewUser) :
    contents ((HasRoot.root u).events .standard) = u.secrets.map Prod.snd := by
  obtain ⟨name, email, password, phone, address⟩ := u
  cases phone <;> cases address <;> rfl

/-! ## Documents -/

open HasDocument (document)

/-- An address as a JSON value. -/
def Address.json (a : Address) : Json :=
  .map [("street", .text a.street), ("city", .text a.city), ("postal_code", .text a.postalCode)]

/-- The number of characters in the texts of an address. -/
def Address.size (a : Address) : Nat :=
  a.street.toList.length + a.city.toList.length + a.postalCode.toList.length

theorem Address.length_print_le (a : Address) :
    (Json.print a.json).toList.length ≤ 6 * a.size + 50 := by
  have hstreet := Json.length_quote_le a.street
  have hcity := Json.length_quote_le a.city
  have hcode := Json.length_quote_le a.postalCode
  have hnames : (Json.quote "street").toList.length + (Json.quote "city").toList.length +
      (Json.quote "postal_code").toList.length = 27 := by decide
  rw [json, Json.toList_print_map, Json.entryChars_cons_cons, Json.entryChars_cons_cons,
    Json.entryChars_singleton]
  simp only [Json.print, List.length_append, List.length_cons, List.length_nil, size]
  omega

namespace NewUser

/-- A new user as a JSON value; what is absent is null. -/
def json (u : NewUser) : Json :=
  .map [("name", .text u.name), ("email", .text u.email), ("password", .text u.password),
    ("phone", (u.phone.map .text).getD .null),
    ("address", (u.address.map Address.json).getD .null)]

theorem numbers_json (u : NewUser) : Json.numbers u.json = [] := by
  obtain ⟨name, email, password, phone, address⟩ := u
  cases phone <;> cases address <;> rfl

theorem ordered?_document (u : NewUser) : Document.ordered? (document u) = .ok u.json := by
  obtain ⟨name, email, password, phone, address⟩ := u
  cases phone <;> cases address <;> rfl

/-- The text of a new user in a log is their JSON text. -/
theorem logText_eq (u : NewUser) : logText u = .ok u.json.print := by
  have htree : ∃ entries, Document.tree? (document u) = .ok (.map entries) := by
    obtain ⟨name, email, password, phone, address⟩ := u
    cases phone <;> cases address <;> exact ⟨_, rfl⟩
  obtain ⟨entries, htree⟩ := htree
  rw [logText, htree]
  show Document.text? (document u) = _
  rw [Document.text?, ordered?_document]
  rfl

/-- The number of characters in the texts of a new user. -/
def size (u : NewUser) : Nat :=
  u.name.toList.length + u.email.toList.length + u.password.toList.length +
    (u.phone.map fun s ↦ s.toList.length).getD 0 + (u.address.map Address.size).getD 0

/-- How long a new user is after a replacement of the texts that must not reach a log. -/
theorem size_refill_le (u : NewUser) {as : List String} (h : as.length = u.secrets.length) :
    (HasRoot.refill u ((HasRoot.root u).put .standard as)).size ≤
      u.size + totalLength as := by
  obtain ⟨name, email, password, phone, address⟩ := u
  cases phone with
  | none =>
    cases address with
    | none =>
      match as, h with
      | [e, p], _ =>
        show size ⟨name, e, p, none, none⟩ ≤ _
        simp only [size, totalLength_cons, totalLength_nil]
        omega
    | some a =>
      match as, h with
      | [e, p, s, c], _ =>
        show size ⟨name, e, p, none, some ⟨s, a.city, c⟩⟩ ≤ _
        simp only [size, Address.size, totalLength_cons, totalLength_nil, Option.map_some,
          Option.getD_some]
        omega
  | some t =>
    cases address with
    | none =>
      match as, h with
      | [e, p, f], _ =>
        show size ⟨name, e, p, some f, none⟩ ≤ _
        simp only [size, totalLength_cons, totalLength_nil, Option.map_some, Option.getD_some]
        omega
    | some a =>
      match as, h with
      | [e, p, f, s, c], _ =>
        show size ⟨name, e, p, some f, some ⟨s, a.city, c⟩⟩ ≤ _
        simp only [size, Address.size, totalLength_cons, totalLength_nil, Option.map_some,
          Option.getD_some]
        omega

theorem secrets_le (u : NewUser) :
    totalLength (u.secrets.map Prod.snd) ≤ u.size ∧ u.secrets.length ≤ 5 := by
  obtain ⟨name, email, password, phone, address⟩ := u
  cases phone <;> cases address <;>
    simp [secrets, size, Address.size] <;> omega

/-- The text of a new user is not much longer than their texts: an escape has six characters. -/
theorem length_print_le (u : NewUser) : (Json.print u.json).toList.length ≤ 6 * u.size + 120 := by
  have hname := Json.length_quote_le u.name
  have hemail := Json.length_quote_le u.email
  have hpassword := Json.length_quote_le u.password
  have hphone : (Json.print ((u.phone.map .text).getD .null)).toList.length ≤
      6 * (u.phone.map fun s ↦ s.toList.length).getD 0 + 4 := by
    cases u.phone with
    | none => decide
    | some s => exact Nat.le_trans (Json.length_quote_le s) (Nat.add_le_add_left (by decide) _)
  have haddress : (Json.print ((u.address.map Address.json).getD .null)).toList.length ≤
      6 * (u.address.map Address.size).getD 0 + 50 := by
    cases u.address with
    | none => decide
    | some a => exact a.length_print_le
  have hnames : (Json.quote "name").toList.length + (Json.quote "email").toList.length +
      (Json.quote "password").toList.length + (Json.quote "phone").toList.length +
      (Json.quote "address").toList.length = 39 := by decide
  rw [json, Json.toList_print_map]
  simp only [Json.entryChars_cons_cons, Json.entryChars_singleton, List.length_append,
    List.length_cons, List.length_nil, size, Json.print]
  omega

/-! ## Bodies -/

/-- The text of a new user as a body. -/
theorem length_utf8_print_le (u : NewUser) :
    (Text.utf8 (Json.print u.json)).length ≤ 24 * u.size + 480 := by
  have hutf8 := Text.length_utf8_le (Json.print u.json)
  have hprint := u.length_print_le
  omega

theorem ofDraft_json (u : NewUser) : ofDraft (.ofJson u.json) = .ok u := by
  obtain ⟨name, email, password, phone, address⟩ := u
  cases phone <;> cases address <;> rfl

end NewUser

/-- A user as a JSON value; what is absent is null. -/
def User.json (u : User) : Json :=
  .map [("id", .text u.id), ("name", .text u.name), ("email", .text u.email),
    ("phone", (u.phone.map .text).getD .null),
    ("address", (u.address.map Address.json).getD .null), ("created_at", .text u.createdAt.text)]

theorem User.ordered?_document (u : User) : Document.ordered? (document u) = .ok u.json := by
  obtain ⟨id, name, email, phone, address, createdAt⟩ := u
  cases phone <;> cases address <;> rfl

/-- The text of a user in a log is their JSON text. -/
theorem User.logText_eq (u : User) : logText u = .ok u.json.print := by
  have htree : ∃ entries, Document.tree? (document u) = .ok (.map entries) := by
    obtain ⟨id, name, email, phone, address, createdAt⟩ := u
    cases phone <;> cases address <;> exact ⟨_, rfl⟩
  obtain ⟨entries, htree⟩ := htree
  rw [logText, htree]
  show Document.text? (document u) = _
  rw [Document.text?, ordered?_document]
  rfl

/-- A body with the JSON text of a new user brings this new user. -/
theorem Request.newUser_of_body {q : Request} {u : NewUser} (hjson : q.isJson = true)
    (hbody : q.body = Text.utf8 u.json.print) (hsize : q.body.length ≤ bodyLimit) :
    q.newUser = .ok u := by
  have hread := Draft.read_print u.json (by rw [u.numbers_json]; nofun)
  rw [newUser, hjson, if_neg (by decide), if_neg (Nat.not_lt.mpr hsize), hbody,
    Text.glyphs_utf8, hread]
  simp only [NewUser.ofDraft_json]

end Shroud.Accounts
