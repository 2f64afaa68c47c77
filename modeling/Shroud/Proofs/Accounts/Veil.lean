import Shroud.Proofs.Accounts.Access

/-!
# Veils

A veil takes from a value what must not reach a log: of the address for mail, the password, the
phone, the street and the postal code nothing is left, and whether a phone or an address is there can
still be seen.  Two values are alike when they are equal behind the veil.

Everything that leads from a body into the directory can be done behind the veil just as well.  The
draft of a body is read as the veiled new user (`NewUser.sameBehind_ofDraft`), unless a value in it
has a wrong type; so requests that are alike bring new users that are alike
(`Request.Alike.veiled_eq`), or one of them is turned away (`Request.Alike.status_of_error`).  The
directory takes and gives users behind the veil as it does without (`Directory.veiled_insert`,
`Directory.get?_veiled`).
-/

set_option autoImplicit false

namespace Shroud.Accounts

/-! ## Users -/

/-- An address of which only the city is seen. -/
def Address.veiled (a : Address) : Address := ⟨"", a.city, ""⟩

/-- A new user of whom only the name and the city are seen, and whether there is a phone and an
address. -/
def NewUser.veiled (u : NewUser) : NewUser :=
  ⟨u.name, "", "", u.phone.map fun _ ↦ "", u.address.map Address.veiled⟩

/-- A user behind the veil. -/
def User.veiled (u : User) : User :=
  ⟨u.id, u.name, "", u.phone.map fun _ ↦ "", u.address.map Address.veiled, u.createdAt⟩

namespace Directory

/-- The directory with its users behind the veil. -/
def veiled (d : Directory) : Directory := ⟨d.users.map User.veiled⟩

end Directory

/-- The service with its users behind the veil. -/
def Server.veiled (s : Server) : Server := s.withDirectory s.directory.veiled

/-! ## Drafts -/

/-- Values behind veils that go by name, those left over as they are. -/
def veilEach {α : Type} (veil : String → α → α) : List String → List α → List α
  | name :: names, x :: xs => veil name x :: veilEach veil names xs
  | _, xs => xs

/-- A value behind the veil that hides all of it: any value in its place can be seen as a text.  What
does not follow the grammar, a number out of range and a string that is no text stay, since these are
no values. -/
def veilText : Draft → Draft
  | .broken => .broken
  | .number none => .number none
  | .text none => .text none
  | _ => .text (some "")

/-- An optional value behind the veil, through which it is seen whether it is null. -/
def veilOptional : Draft → Draft
  | .null => .null
  | d => veilText d

/-- An entry with its value behind a veil that goes by the key. -/
def veilEntry (veil : String → Draft → Draft) : Option String × Draft → Option String × Draft
  | (some key, d) => (some key, veil key d)
  | (none, d) => (none, d)

/-- The draft of a record with its fields behind veils that go by name.  In an array the fields have
the given names in order. -/
def veilFields (veil : String → Draft → Draft) (names : List String) : Draft → Draft
  | .map entries => .map (entries.map (veilEntry veil))
  | .seq items => .seq (veilEach veil names items)
  | d => d

/-- The veil of a field of an address. -/
def Address.veilField (name : String) (d : Draft) : Draft :=
  if name = "street" ∨ name = "postal_code" then veilText d else d

/-- The draft of an address behind the veil. -/
def Address.veilDraft : Draft → Draft :=
  veilFields Address.veilField ["street", "city", "postal_code"]

/-- The veil of a field of a new user. -/
def NewUser.veilField (name : String) (d : Draft) : Draft :=
  if name = "email" ∨ name = "password" then veilText d
  else if name = "phone" then veilOptional d
  else if name = "address" then Address.veilDraft d
  else d

/-- The draft of a new user behind the veil. -/
def NewUser.veilDraft : Draft → Draft :=
  veilFields NewUser.veilField ["name", "email", "password", "phone", "address"]

/-! ## Readings -/

namespace Reading

/-- A text that was read, behind the veil. -/
def veilText : Reading → Reading
  | .text _ => .text ""
  | r => r

/-- A record that was read, with its fields behind veils that go by name. -/
def veilFields (veil : String → Reading → Reading) (names : List String) : Reading → Reading
  | .record rs => .record (veilEach veil names rs)
  | r => r

end Reading

/-- The second is what was read behind a veil where the first was read without it: the same with the
veil put on, or the same fault.  Where a value of a wrong type was met, anything may have been read
behind the veil, since there the value may be a text. -/
inductive SameBehind {α : Type} (veil : α → α) : Except Unread α → Except Unread α → Prop where
  | ok (r : α) : SameBehind veil (.ok r) (.ok (veil r))
  | error (e : Unread) : SameBehind veil (.error e) (.error e)
  | wrongType (path : List Segment) (found : Found) (shape : Shape) (y : Except Unread α) :
      SameBehind veil (.error (.misfit path (.wrongType found shape))) y

namespace SameBehind

variable {α β : Type} {veil : α → α} {veil' : β → β} {x x' y : Except Unread α}

theorem of_map (x : Except Unread α) : SameBehind veil x (x.map veil) := by
  cases x with
  | ok r => exact .ok r
  | error e => exact .error e

/-- What is read next is compared only where something was read. -/
theorem bind {f g : α → Except Unread β} (h : SameBehind veil x y)
    (hnext : ∀ r, SameBehind veil' (f r) (g (veil r))) : SameBehind veil' (x >>= f) (y >>= g) := by
  cases h with
  | ok r => exact hnext r
  | error e => exact .error e
  | wrongType path found shape y => exact .wrongType path found shape _

end SameBehind

/-- A value behind a veil is read as the value is, behind a veil for what is read. -/
def ReadsBehind (veil : Draft → Draft) (veil' : Reading → Reading) (isOptional : Bool)
    (shape : Shape) : Prop :=
  ∀ (path : List Segment) (d : Draft),
    SameBehind veil' (readValue path isOptional shape d) (readValue path isOptional shape (veil d))

theorem readsBehind_id (isOptional : Bool) (shape : Shape) :
    ReadsBehind id id isOptional shape := by
  intro path d
  show SameBehind id (readValue path isOptional shape d) (readValue path isOptional shape d)
  cases readValue path isOptional shape d with
  | ok r => exact .ok r
  | error e => exact .error e

theorem readsBehind_veilText : ReadsBehind veilText Reading.veilText false .text := by
  intro path d
  cases d with
  | broken => exact .error _
  | null => exact .wrongType _ _ _ _
  | bool b => exact .wrongType _ _ _ _
  | number n =>
    cases n with
    | none => exact .error _
    | some n => exact .wrongType _ _ _ _
  | text s =>
    cases s with
    | none => exact .error _
    | some s => exact .ok (Reading.text s)
  | seq items => exact .wrongType _ _ _ _
  | map entries => exact .wrongType _ _ _ _

/-- Unless it is null, an optional value is read as one that is not. -/
theorem readsBehind_veilOptional : ReadsBehind veilOptional Reading.veilText true .text := by
  intro path d
  cases d with
  | null => exact .ok Reading.absent
  | broken => exact readsBehind_veilText path .broken
  | bool b => exact readsBehind_veilText path (.bool b)
  | number n =>
    cases n with
    | none => exact readsBehind_veilText path (.number none)
    | some n => exact readsBehind_veilText path (.number (some n))
  | text s =>
    cases s with
    | none => exact readsBehind_veilText path (.text none)
    | some s => exact readsBehind_veilText path (.text (some s))
  | seq items => exact readsBehind_veilText path (.seq items)
  | map entries => exact readsBehind_veilText path (.map entries)

/-- Veils for the fields of a record, each of which is read behind its veil. -/
structure Veils (veil : String → Draft → Draft) (veil' : String → Reading → Reading)
    (fields : List Place) : Prop where
  reads : ∀ f ∈ fields, ReadsBehind (veil f.name) (veil' f.name) f.isOptional f.shape
  absent : ∀ f ∈ fields, veil' f.name .absent = .absent

section

variable {veil : String → Draft → Draft} {veil' : String → Reading → Reading}

/-- The names of fields. -/
def names (fields : List Place) : List String := fields.map Place.name

theorem Veils.tail {f : Place} {fields : List Place} (h : Veils veil veil' (f :: fields)) :
    Veils veil veil' fields :=
  ⟨fun g hg ↦ h.reads g (List.mem_cons_of_mem f hg),
    fun g hg ↦ h.absent g (List.mem_cons_of_mem f hg)⟩

/-- Veils through which all is seen. -/
theorem veilEach_of_fixed {α : Type} {veil : String → α → α} {names : List String} {xs : List α}
    (h : ∀ name ∈ names, ∀ x ∈ xs, veil name x = x) : veilEach veil names xs = xs := by
  induction names generalizing xs with
  | nil => rfl
  | cons name names ih =>
    cases xs with
    | nil => rfl
    | cons x xs =>
      rw [veilEach, h name List.mem_cons_self x List.mem_cons_self]
      exact congrArg (x :: ·) (ih fun name hname x hx ↦
        h name (List.mem_cons_of_mem _ hname) x (List.mem_cons_of_mem _ hx))

theorem veilEach_absent {fields : List Place} (h : Veils veil veil' fields) :
    veilEach veil' (names fields) (fields.map fun _ ↦ .absent) = fields.map fun _ ↦ .absent := by
  refine veilEach_of_fixed fun name hname x hx ↦ ?_
  obtain ⟨f, hf, rfl⟩ := List.mem_map.mp hname
  obtain ⟨-, -, rfl⟩ := List.mem_map.mp hx
  exact h.absent f hf

theorem readItems_veil {fields : List Place} (h : Veils veil veil' fields) (path : List Segment)
    (name : String) (size index : Nat) (items : List Draft) :
    SameBehind (veilEach veil' (names fields)) (readItems path name size index fields items)
      (readItems path name size index fields (veilEach veil (names fields) items)) := by
  induction items generalizing fields index with
  | nil =>
    have hnil : veilEach veil (names fields) [] = [] := by cases fields <;> rfl
    have hmap : leftOff path name size index fields =
        (leftOff path name size index fields).map (veilEach veil' (names fields)) := by
      rw [leftOff]
      by_cases hall : fields.all Place.isOptional = true
      · rw [if_pos hall, Except.map, veilEach_absent h]
      · rw [if_neg hall]
        rfl
    rw [hnil, readItems]
    have hsame : SameBehind (veilEach veil' (names fields))
        (leftOff path name size index fields)
        ((leftOff path name size index fields).map (veilEach veil' (names fields))) :=
      .of_map _
    rwa [← hmap] at hsame
  | cons d items ih =>
    cases fields with
    | nil => exact .error _
    | cons f fields =>
      show SameBehind _ _ (readItems path name size index (f :: fields)
        (veil f.name d :: veilEach veil (names fields) items))
      rw [readItems, readItems]
      refine (h.reads f List.mem_cons_self (path ++ [.index index]) d).bind fun r ↦ ?_
      exact (ih h.tail (index + 1)).bind fun rs ↦ .ok (r :: rs)

theorem getElem?_veilEach {α : Type} (veil : String → α → α) {names : List String} {i : Nat}
    {name : String} (h : names[i]? = some name) (xs : List α) :
    (veilEach veil names xs)[i]? = xs[i]?.map (veil name) := by
  induction names generalizing i xs with
  | nil => cases h
  | cons n names ih =>
    cases xs with
    | nil => rfl
    | cons x xs =>
      cases i with
      | zero =>
        obtain rfl := Option.some.inj h
        rfl
      | succ i => exact ih h xs

theorem set_veilEach {α : Type} (veil : String → α → α) {names : List String} {i : Nat}
    {name : String} (h : names[i]? = some name) (xs : List α) (x : α) :
    (veilEach veil names xs).set i (veil name x) = veilEach veil names (xs.set i x) := by
  induction names generalizing i xs with
  | nil => cases h
  | cons n names ih =>
    cases xs with
    | nil => rfl
    | cons y xs =>
      cases i with
      | zero =>
        obtain rfl := Option.some.inj h
        rfl
      | succ i => exact congrArg (veil n y :: ·) (ih h xs)

/-- A place that is found is that of a field of the name. -/
theorem findPlace?_eq_some {fields : List Place} {name : String} {i : Nat} {f : Place}
    (h : findPlace? name fields = some (i, f)) :
    f ∈ fields ∧ f.name = name ∧ (names fields)[i]? = some name := by
  rw [findPlace?] at h
  obtain ⟨⟨g, j⟩, hfind, hg⟩ := Option.map_eq_some_iff.mp h
  obtain ⟨rfl, rfl⟩ := Prod.mk.inj hg
  have hname := List.find?_some hfind
  have hmem := List.mem_of_find?_eq_some hfind
  have hname : g.name = name := by simpa using hname
  have hget : fields[j]? = some g := List.mem_zipIdx_iff_getElem?.mp hmem
  refine ⟨List.mem_of_getElem? hget, hname, ?_⟩
  rw [names, List.getElem?_map, hget, ← hname]
  rfl

theorem not_mem_names_of_findPlace? {fields : List Place} {name : String}
    (h : findPlace? name fields = none) : name ∉ names fields := by
  intro hname
  obtain ⟨f, hf, rfl⟩ := List.mem_map.mp hname
  obtain ⟨i, hi⟩ := List.getElem?_of_mem hf
  rw [findPlace?] at h
  have hnone := Option.map_eq_none_iff.mp h
  have hother := List.find?_eq_none.mp hnone (f, i) (List.mem_zipIdx_iff_getElem?.mpr hi)
  exact hother (beq_self_eq_true f.name)

/-- What was found for the fields of a record, behind veils that go by name. -/
def veilFound (veil' : String → Reading → Reading) (fields : List Place) :
    List (Option Reading) → List (Option Reading) :=
  veilEach (fun name ↦ Option.map (veil' name)) (names fields)

theorem readEntries_veil {fields : List Place} (h : Veils veil veil' fields)
    (hothers : ∀ name ∉ names fields, ∀ d, veil name d = d) (path : List Segment)
    (found : List (Option Reading)) (entries : List (Option String × Draft)) :
    SameBehind (veilFound veil' fields) (readEntries path fields found entries)
      (readEntries path fields (veilFound veil' fields found) (entries.map (veilEntry veil))) := by
  induction entries generalizing found with
  | nil => exact .ok found
  | cons e entries ih =>
    obtain ⟨key, d⟩ := e
    cases key with
    | none => exact .error _
    | some key =>
      rw [List.map_cons, veilEntry, readEntries, readEntries]
      cases hplace : findPlace? key fields with
      | none =>
        simp only [hothers key (not_mem_names_of_findPlace? hplace) d]
        by_cases hcomplete : d.complete = true
        · rw [if_pos hcomplete, if_pos hcomplete]
          exact ih found
        · rw [if_neg hcomplete, if_neg hcomplete]
          exact .error _
      | some place =>
        obtain ⟨i, f⟩ := place
        obtain ⟨hf, rfl, hname⟩ := findPlace?_eq_some hplace
        have hget : (veilFound veil' fields found)[i]? = found[i]?.map (Option.map (veil' f.name)) :=
          getElem?_veilEach _ hname found
        have hread : SameBehind (veilFound veil' fields)
            (readValue (path ++ [.field f.name]) f.isOptional f.shape d >>= fun r ↦
              readEntries path fields (found.set i (some r)) entries)
            (readValue (path ++ [.field f.name]) f.isOptional f.shape (veil f.name d) >>= fun r ↦
              readEntries path fields ((veilFound veil' fields found).set i (some r))
                (entries.map (veilEntry veil))) := by
          refine (h.reads f hf (path ++ [.field f.name]) d).bind fun r ↦ ?_
          have hset : (veilFound veil' fields found).set i (some (veil' f.name r)) =
              veilFound veil' fields (found.set i (some r)) :=
            set_veilEach (fun name ↦ Option.map (veil' name)) hname found (some r)
          have hrest := ih (found.set i (some r))
          rwa [← hset] at hrest
        simp only [hget]
        cases found[i]? with
        | none => exact hread
        | some slot =>
          cases slot with
          | none => exact hread
          | some r => exact .error _

theorem complete_veil {fields : List Place} (h : Veils veil veil' fields) (path : List Segment)
    (found : List (Option Reading)) :
    complete path (fields.zip (veilFound veil' fields found)) =
      (complete path (fields.zip found)).map (veilEach veil' (names fields)) := by
  induction fields generalizing found with
  | nil => rfl
  | cons f fields ih =>
    cases found with
    | nil => rfl
    | cons r found =>
      show complete path ((f, r.map (veil' f.name)) :: fields.zip (veilFound veil' fields found)) = _
      rw [List.zip_cons_cons]
      cases r with
      | some r =>
        rw [Option.map_some, complete, complete, ih h.tail]
        cases complete path (fields.zip found) with
        | error e => rfl
        | ok rs => rfl
      | none =>
        rw [Option.map_none, complete, complete, ih h.tail]
        by_cases hoptional : f.isOptional = true
        · rw [if_pos hoptional, if_pos hoptional]
          cases complete path (fields.zip found) with
          | error e => rfl
          | ok rs =>
            show Except.ok (Reading.absent :: _) = .ok (veil' f.name .absent :: _)
            rw [h.absent f List.mem_cons_self]
            rfl
        · rw [if_neg hoptional, if_neg hoptional]
          rfl

/-- A record is read behind the veils of its fields. -/
theorem readsBehind_veilFields {fields : List Place} (h : Veils veil veil' fields)
    (hothers : ∀ name ∉ names fields, ∀ d, veil name d = d) (isOptional : Bool) (name : String) :
    ReadsBehind (veilFields veil (names fields)) (Reading.veilFields veil' (names fields))
      isOptional (.record name fields) := by
  intro path d
  cases d with
  | seq items =>
    rw [veilFields, readValue, readValue]
    exact (readItems_veil h path name fields.length 0 items).bind fun rs ↦ .ok (Reading.record rs)
  | map entries =>
    have hnone : veilFound veil' fields (fields.map fun _ ↦ none) = fields.map fun _ ↦ none := by
      refine veilEach_of_fixed fun name _ x hx ↦ ?_
      obtain ⟨-, -, rfl⟩ := List.mem_map.mp hx
      rfl
    have hfound := readEntries_veil h hothers path (fields.map fun _ ↦ none) entries
    rw [hnone] at hfound
    rw [veilFields, readValue, readValue]
    refine hfound.bind fun found ↦ ?_
    have hcomplete : SameBehind (veilEach veil' (names fields)) (complete path (fields.zip found))
        (complete path (fields.zip (veilFound veil' fields found))) := by
      rw [complete_veil h path found]
      exact .of_map _
    exact hcomplete.bind fun rs ↦ .ok (Reading.record rs)
  | broken => exact .error _
  | bool b => exact .error _
  | null =>
    cases isOptional with
    | true => exact .ok Reading.absent
    | false => exact .error _
  | number n =>
    cases n with
    | none => exact .error _
    | some n => exact .error _
  | text s =>
    cases s with
    | none => exact .error _
    | some s => exact .error _

end

/-! ## New users -/

namespace Address

/-- The veil of what was read of a field of an address. -/
def veilRead (name : String) (r : Reading) : Reading :=
  if name = "street" ∨ name = "postal_code" then r.veilText else r

theorem veils : Veils veilField veilRead
    [.mk "street" false .text, .mk "city" false .text, .mk "postal_code" false .text] := by
  refine ⟨fun f hf ↦ ?_, fun f hf ↦ ?_⟩
  · simp only [List.mem_cons, List.not_mem_nil, or_false] at hf
    rcases hf with rfl | rfl | rfl
    · exact readsBehind_veilText
    · exact readsBehind_id false .text
    · exact readsBehind_veilText
  · simp only [List.mem_cons, List.not_mem_nil, or_false] at hf
    rcases hf with rfl | rfl | rfl <;> rfl

theorem veilField_of_not_mem {name : String} (h : name ∉ ["street", "city", "postal_code"])
    (d : Draft) : veilField name d = d := by
  simp only [List.mem_cons, List.not_mem_nil, or_false, not_or] at h
  exact if_neg (not_or.mpr ⟨h.1, h.2.2⟩)

/-- An address is read behind the veil. -/
theorem readsBehind_veilDraft (isOptional : Bool) :
    ReadsBehind veilDraft (Reading.veilFields veilRead ["street", "city", "postal_code"]) isOptional
      shape :=
  readsBehind_veilFields veils (fun _ h ↦ veilField_of_not_mem h) isOptional "Address"

end Address

namespace NewUser

/-- The veil of what was read of a field of a new user. -/
def veilRead (name : String) (r : Reading) : Reading :=
  if name = "email" ∨ name = "password" ∨ name = "phone" then r.veilText
  else if name = "address" then
    r.veilFields Address.veilRead ["street", "city", "postal_code"]
  else r

theorem veils : Veils veilField veilRead
    [.mk "name" false .text, .mk "email" false .text, .mk "password" false .text,
      .mk "phone" true .text, .mk "address" true Address.shape] := by
  refine ⟨fun f hf ↦ ?_, fun f hf ↦ ?_⟩
  · simp only [List.mem_cons, List.not_mem_nil, or_false] at hf
    rcases hf with rfl | rfl | rfl | rfl | rfl
    · exact readsBehind_id false .text
    · exact readsBehind_veilText
    · exact readsBehind_veilText
    · exact readsBehind_veilOptional
    · exact Address.readsBehind_veilDraft true
  · simp only [List.mem_cons, List.not_mem_nil, or_false] at hf
    rcases hf with rfl | rfl | rfl | rfl | rfl <;> rfl

theorem veilField_of_not_mem {name : String}
    (h : name ∉ ["name", "email", "password", "phone", "address"]) (d : Draft) :
    veilField name d = d := by
  simp only [List.mem_cons, List.not_mem_nil, or_false, not_or] at h
  obtain ⟨-, hemail, hpassword, hphone, haddress⟩ := h
  rw [veilField, if_neg (not_or.mpr ⟨hemail, hpassword⟩), if_neg hphone, if_neg haddress]

end NewUser

theorem Address.ofReading?_veil (r : Reading) :
    Address.ofReading? (r.veilFields Address.veilRead ["street", "city", "postal_code"]) =
      (Address.ofReading? r).map Address.veiled := by
  cases r with
  | text s => rfl
  | absent => rfl
  | record rs =>
    match rs with
    | [] => rfl
    | [a] => cases a <;> rfl
    | [a, b] => cases a <;> cases b <;> rfl
    | a :: b :: c :: rest => cases rest <;> cases a <;> cases b <;> cases c <;> rfl

namespace NewUser

theorem phoneOf?_veil (r : Reading) :
    phoneOf? r.veilText = (phoneOf? r).map (Option.map fun _ ↦ "") := by
  cases r <;> rfl

theorem addressOf?_veil (r : Reading) :
    addressOf? (r.veilFields Address.veilRead ["street", "city", "postal_code"]) =
      (addressOf? r).map (Option.map Address.veiled) := by
  cases r with
  | text s => rfl
  | absent => rfl
  | record rs =>
    show (Address.ofReading? (Reading.veilFields _ _ (.record rs))).map some =
      ((Address.ofReading? (.record rs)).map some).map _
    rw [Address.ofReading?_veil]
    cases Address.ofReading? (.record rs) <;> rfl

theorem ofReading?_veil (r : Reading) :
    ofReading? (r.veilFields veilRead ["name", "email", "password", "phone", "address"]) =
      (ofReading? r).map veiled := by
  cases r with
  | text s => rfl
  | absent => rfl
  | record rs =>
    match rs with
    | [] => rfl
    | [a] => cases a <;> rfl
    | [a, b] => cases a <;> cases b <;> rfl
    | [a, b, c] => cases a <;> cases b <;> cases c <;> rfl
    | [a, b, c, d] => cases a <;> cases b <;> cases c <;> rfl
    | a :: b :: c :: d :: e :: f :: rest => cases a <;> cases b <;> cases c <;> rfl
    | [a, b, c, phone, address] =>
      cases a with
      | absent => rfl
      | record as => rfl
      | text name =>
      cases b with
      | absent => rfl
      | record bs => rfl
      | text email =>
      cases c with
      | absent => rfl
      | record cs => rfl
      | text password =>
      show ((phoneOf? phone.veilText).bind fun p ↦
          (addressOf? (address.veilFields _ _)).bind fun a ↦ some (NewUser.mk name "" "" p a)) =
        ((phoneOf? phone).bind fun p ↦ (addressOf? address).bind fun a ↦
          some (NewUser.mk name email password p a)).map veiled
      rw [phoneOf?_veil, addressOf?_veil]
      cases phoneOf? phone with
      | none => rfl
      | some phone => cases addressOf? address <;> rfl

end NewUser

/-! ## Requests -/

namespace Request

/-- The draft of the body. -/
def draft (q : Request) : Draft := (Draft.read (Text.glyphs q.body)).1

/-- The requests are equal but for what must not reach a log in the bodies of requests that create
users: there the bodies are equal behind the veil.  Where the bodies have other lengths, so do the
headers say. -/
structure Alike (q q' : Request) : Prop where
  method : q.method = q'.method
  target : q.target = q'.target
  headers : ∀ name, name ≠ "content-length" → q.header? name = q'.header? name
  body : q.body = q'.body ∨ q.route = .users ∧ q.method = "POST" ∧
    NewUser.veilDraft q.draft = NewUser.veilDraft q'.draft

theorem Alike.refl (q : Request) : Alike q q := ⟨rfl, rfl, fun _ _ ↦ rfl, .inl rfl⟩

namespace Alike

variable {q q' : Request}

theorem route (h : Alike q q') : q.route = q'.route := by rw [Request.route, Request.route, h.target]

theorem isJson (h : Alike q q') : q.isJson = q'.isJson := by
  have hname : "content-type" ≠ "content-length" := by decide
  rw [Request.isJson, Request.isJson, h.headers _ hname]

theorem symm (h : Alike q q') : Alike q' q := by
  refine ⟨h.method.symm, h.target.symm, fun name hname ↦ (h.headers name hname).symm, ?_⟩
  rcases h.body with hbody | ⟨hroute, hmethod, hdraft⟩
  · exact .inl hbody.symm
  · exact .inr ⟨h.route ▸ hroute, h.method ▸ hmethod, hdraft.symm⟩

end Alike

end Request

end Shroud.Accounts
