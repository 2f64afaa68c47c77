import Shroud.Proofs.Accounts.Veil
import Shroud.Proofs.Log.Sketch

/-!
# Lines with covered texts

The obscured line of a new user or a user is a sketch, in whose gaps stand the texts that the cipher
made: one for each text that must not reach a log.  The sketch depends on what is seen behind the
veil alone (`NewUser.sketch_veiled`, `User.sketch_veiled`).
-/

set_option autoImplicit false

namespace Shroud.Accounts

open HasDocument (document)

/-! ## Sketches -/

/-- An address with its street and its postal code covered. -/
def Address.sketch (a : Address) : Sketch :=
  .map [("street", .covered), ("city", .ofText a.city), ("postal_code", .covered)]

/-- A new user with what must not reach a log covered. -/
def NewUser.sketch (u : NewUser) : Sketch :=
  .map [("name", .ofText u.name), ("email", .covered), ("password", .covered),
    ("phone", (u.phone.map fun _ ↦ .covered).getD .null),
    ("address", (u.address.map Address.sketch).getD .null)]

/-- A user with what must not reach a log covered. -/
def User.sketch (u : User) : Sketch :=
  .map [("id", .ofText u.id), ("name", .ofText u.name), ("email", .covered),
    ("phone", (u.phone.map fun _ ↦ .covered).getD .null),
    ("address", (u.address.map Address.sketch).getD .null),
    ("created_at", .ofText u.createdAt.text)]

/-- The texts of encrypted fields. -/
def AreSealed (as : List String) : Prop := ∀ a ∈ as, ∃ x : Sealed, a = x.text

/-- When the texts that a walk meets in a value are replaced by those of encrypted fields, the text
of the value is the sketch with these in its gaps. -/
structure HasSketch {α : Type} [HasRoot α] [HasDocument α] (x : α) (p : Sketch) : Prop where
  texts : ∀ e ∈ (HasRoot.root x).events .standard, ∃ path t, e = .text path t
  prints : ∀ as : List String, as.length = (contents ((HasRoot.root x).events .standard)).length →
    AreSealed as → ∃ j : Json,
      logText (HasRoot.refill x ((HasRoot.root x).put .standard as)) = .ok j.print ∧ p.Prints as j

open Sketch in
theorem Address.prints (a : Address) (s c : Sealed) :
    a.sketch.Prints [s.text, c.text] (Address.json ⟨s.text, a.city, c.text⟩) :=
  prints_map (.cons "street" (prints_covered s) (.cons "city" (prints_ofText a.city)
    (.cons "postal_code" (prints_covered c) .nil)))

/-- The texts of a phone and an address that must not reach a log. -/
def contactTexts (phone : Option String) (address : Option Address) : List String :=
  phone.toList ++ address.toList.flatMap fun a ↦ [a.street, a.postalCode]

/-- A phone and an address with such texts replaced by others. -/
def contactOf : Option String → Option Address → List String → Option String × Option Address
  | some _, none, [p] => (some p, none)
  | none, some a, [s, c] => (none, some ⟨s, a.city, c⟩)
  | some _, some a, [p, s, c] => (some p, some ⟨s, a.city, c⟩)
  | phone, address, _ => (phone, address)

theorem eq_of_length_contactTexts {phone : Option String} {address : Option Address}
    {as : List String} (h : as.length = (contactTexts phone address).length) :
    (phone = none ∧ address = none ∧ as = []) ∨
    (∃ t p, phone = some t ∧ address = none ∧ as = [p]) ∨
    (∃ a s c, phone = none ∧ address = some a ∧ as = [s, c]) ∨
    ∃ t a p s c, phone = some t ∧ address = some a ∧ as = [p, s, c] := by
  cases phone with
  | none =>
    cases address with
    | none => exact .inl ⟨rfl, rfl, List.eq_nil_of_length_eq_zero h⟩
    | some a =>
      match as, h with
      | [s, c], _ => exact .inr (.inr (.inl ⟨a, s, c, rfl, rfl, rfl⟩))
  | some t =>
    cases address with
    | none =>
      match as, h with
      | [p], _ => exact .inr (.inl ⟨t, p, rfl, rfl, rfl⟩)
    | some a =>
      match as, h with
      | [p, s, c], _ => exact .inr (.inr (.inr ⟨t, a, p, s, c, rfl, rfl, rfl⟩))

open Sketch in
/-- The entries of a phone and an address. -/
theorem printsEntries_contact {phone : Option String} {address : Option Address} {as : List String}
    (h : as.length = (contactTexts phone address).length) (hsealed : AreSealed as)
    {es : List (String × Sketch)} {bs : List String} {js : List (String × Json)}
    (rest : PrintsEntries es bs js) :
    PrintsEntries (("phone", (phone.map fun _ ↦ .covered).getD .null) ::
        ("address", (address.map Address.sketch).getD .null) :: es) (as ++ bs)
      (("phone", ((contactOf phone address as).1.map .text).getD .null) ::
        ("address", ((contactOf phone address as).2.map Address.json).getD .null) :: js) := by
  rcases eq_of_length_contactTexts h with ⟨rfl, rfl, rfl⟩ | ⟨t, p, rfl, rfl, rfl⟩ |
    ⟨a, s, c, rfl, rfl, rfl⟩ | ⟨t, a, p, s, c, rfl, rfl, rfl⟩
  · have haddress := PrintsEntries.cons "address" prints_null rest
    exact PrintsEntries.cons "phone" prints_null haddress
  · obtain ⟨x, rfl⟩ := hsealed p (by simp)
    have haddress := PrintsEntries.cons "address" prints_null rest
    have hphone := PrintsEntries.cons "phone" (prints_covered x) haddress
    exact hphone
  · obtain ⟨y, rfl⟩ := hsealed s (by simp)
    obtain ⟨z, rfl⟩ := hsealed c (by simp)
    have haddress := PrintsEntries.cons "address" (a.prints y z) rest
    have hphone := PrintsEntries.cons "phone" prints_null haddress
    exact hphone
  · obtain ⟨x, rfl⟩ := hsealed p (by simp)
    obtain ⟨y, rfl⟩ := hsealed s (by simp)
    obtain ⟨z, rfl⟩ := hsealed c (by simp)
    have haddress := PrintsEntries.cons "address" (a.prints y z) rest
    have hphone := PrintsEntries.cons "phone" (prints_covered x) haddress
    exact hphone

/-! ## New users -/

/-- A new user with the texts that must not reach a log replaced by others. -/
theorem NewUser.refill_eq (u : NewUser) (e w : String) {cs : List String}
    (h : cs.length = (contactTexts u.phone u.address).length) :
    HasRoot.refill u ((HasRoot.root u).put .standard (e :: w :: cs)) =
      ⟨u.name, e, w, (contactOf u.phone u.address cs).1, (contactOf u.phone u.address cs).2⟩ := by
  obtain ⟨name, email, password, phone, address⟩ := u
  rcases eq_of_length_contactTexts h with ⟨rfl, rfl, rfl⟩ | ⟨t, p, rfl, rfl, rfl⟩ |
    ⟨a, s, c, rfl, rfl, rfl⟩ | ⟨t, a, p, s, c, rfl, rfl, rfl⟩ <;> rfl

theorem NewUser.hasSketch (u : NewUser) : HasSketch u u.sketch := by
  refine ⟨fun e he ↦ ?_, fun as h hsealed ↦ ?_⟩
  · rw [u.events_root] at he
    obtain ⟨⟨path, t⟩, -, rfl⟩ := List.mem_map.mp he
    exact ⟨path, t, rfl⟩
  · have hlength : as.length = 2 + (contactTexts u.phone u.address).length := by
      rw [h, u.contents_root]
      obtain ⟨name, email, password, phone, address⟩ := u
      cases phone <;> cases address <;> rfl
    match as, hlength with
    | [], hlength => exact absurd hlength (by simp; omega)
    | [_], hlength => exact absurd hlength (by simp; omega)
    | e :: w :: cs, hlength =>
      have hcs : cs.length = (contactTexts u.phone u.address).length := by
        simp only [List.length_cons] at hlength
        omega
      rw [u.refill_eq e w hcs, logText_eq]
      refine ⟨_, rfl, ?_⟩
      obtain ⟨x, rfl⟩ := hsealed e List.mem_cons_self
      obtain ⟨y, rfl⟩ := hsealed w (List.mem_cons_of_mem _ List.mem_cons_self)
      have hrest := printsEntries_contact hcs
        (fun a ha ↦ hsealed a (List.mem_cons_of_mem _ (List.mem_cons_of_mem _ ha))) .nil
      have hpassword := Sketch.PrintsEntries.cons "password" (Sketch.prints_covered y) hrest
      have hemail := Sketch.PrintsEntries.cons "email" (Sketch.prints_covered x) hpassword
      have hname := Sketch.PrintsEntries.cons "name" (Sketch.prints_ofText u.name) hemail
      rw [List.append_nil] at hname
      exact Sketch.prints_map hname

theorem User.hasSketch (u : User) : HasSketch u u.sketch := by
  refine ⟨fun e he ↦ ?_, fun as h hsealed ↦ ?_⟩
  · rw [u.events_root] at he
    obtain ⟨⟨path, t⟩, -, rfl⟩ := List.mem_map.mp he
    exact ⟨path, t, rfl⟩
  · have hlength : as.length = 1 + (contactTexts u.phone u.address).length := by
      rw [h]
      obtain ⟨id, name, email, phone, address, createdAt⟩ := u
      cases phone <;> cases address <;> rfl
    match as, hlength with
    | [], hlength => exact absurd hlength (by simp; omega)
    | e :: cs, hlength =>
      have hcs : cs.length = (contactTexts u.phone u.address).length := by
        simp only [List.length_cons] at hlength
        omega
      have hrefill : HasRoot.refill u ((HasRoot.root u).put .standard (e :: cs)) =
          ⟨u.id, u.name, e, (contactOf u.phone u.address cs).1,
            (contactOf u.phone u.address cs).2, u.createdAt⟩ := by
        obtain ⟨id, name, email, phone, address, createdAt⟩ := u
        rcases eq_of_length_contactTexts hcs with ⟨rfl, rfl, rfl⟩ | ⟨t, p, rfl, rfl, rfl⟩ |
          ⟨a, s, c, rfl, rfl, rfl⟩ | ⟨t, a, p, s, c, rfl, rfl, rfl⟩ <;> rfl
      rw [hrefill, logText_eq]
      refine ⟨_, rfl, ?_⟩
      obtain ⟨x, rfl⟩ := hsealed e List.mem_cons_self
      have hcreatedAt := Sketch.PrintsEntries.cons "created_at"
        (Sketch.prints_ofText u.createdAt.text) .nil
      have hrest := printsEntries_contact hcs
        (fun a ha ↦ hsealed a (List.mem_cons_of_mem _ ha)) hcreatedAt
      have hemail := Sketch.PrintsEntries.cons "email" (Sketch.prints_covered x) hrest
      have hname := Sketch.PrintsEntries.cons "name" (Sketch.prints_ofText u.name) hemail
      have hid := Sketch.PrintsEntries.cons "id" (Sketch.prints_ofText u.id) hname
      have hmap := Sketch.prints_map hid
      simp only [List.append_nil, List.nil_append] at hmap
      exact hmap

end Shroud.Accounts
