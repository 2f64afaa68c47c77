/-!
# Annotations

A field carries annotations: pairs of a key and a value.  They come in two forms.  Where the layout
of a record is declared, its annotations are the list of pairs of the declaration, and the first
pair of a key counts.  Where the layout is put together at run time, they are attached one by one,
and a later pair replaces an earlier one of the same key.

`TagMap` is the second form.  Its pairs are kept in the strict order of their keys, so two maps with
the same answers are equal, and the order in which pairs were attached leaves no trace.
-/

set_option autoImplicit false

namespace Shroud

/-- A pair of an annotation: key and value. -/
abbrev Tag := String × String

/-! ## Annotations attached at run time -/

/-- The list with the pair put at the place of its key, which is the only place a key has. -/
def insertTag (key value : String) : List Tag → List Tag
  | [] => [(key, value)]
  | t :: rest =>
    if key < t.1 then (key, value) :: t :: rest
    else if key = t.1 then (key, value) :: rest
    else t :: insertTag key value rest

/-- The value of the first pair with a key. -/
def findTag? (key : String) : List Tag → Option String
  | [] => none
  | t :: rest => if t.1 = key then some t.2 else findTag? key rest

theorem mem_insertTag {key value : String} {t : Tag} {ts : List Tag}
    (h : t ∈ insertTag key value ts) : t = (key, value) ∨ t ∈ ts := by
  induction ts with
  | nil => simpa [insertTag] using h
  | cons u rest ih =>
    rw [insertTag] at h
    split at h
    · simpa using h
    · split at h
      · rcases List.mem_cons.mp h with h | h
        · exact Or.inl h
        · exact Or.inr (List.mem_cons_of_mem _ h)
      · rcases List.mem_cons.mp h with h | h
        · exact Or.inr (h ▸ List.mem_cons_self)
        · exact (ih h).imp_right (List.mem_cons_of_mem _)

/-- Insertion keeps the keys in strict order. -/
theorem pairwise_insertTag {ts : List Tag} (key value : String)
    (h : ts.Pairwise fun a b ↦ a.1 < b.1) :
    (insertTag key value ts).Pairwise fun a b ↦ a.1 < b.1 := by
  induction ts with
  | nil => simp [insertTag]
  | cons u rest ih =>
    obtain ⟨hu, hrest⟩ := List.pairwise_cons.mp h
    rw [insertTag]
    split
    · rename_i hlt
      refine List.pairwise_cons.mpr ⟨fun b hb ↦ ?_, h⟩
      rcases List.mem_cons.mp hb with hb | hb
      · exact hb ▸ hlt
      · exact String.lt_trans hlt (hu b hb)
    · split
      · rename_i heq
        exact List.pairwise_cons.mpr ⟨fun b hb ↦ heq ▸ hu b hb, hrest⟩
      · rename_i hle hne
        refine List.pairwise_cons.mpr ⟨fun b hb ↦ ?_, ih hrest⟩
        rcases mem_insertTag hb with hb | hb
        · exact hb ▸ Std.lt_of_le_of_ne (String.not_lt.mp hle) (Ne.symm hne)
        · exact hu b hb

/-- Annotations in the strict order of their keys. -/
structure TagMap where
  entries : List Tag
  sorted : entries.Pairwise fun a b ↦ a.1 < b.1
  deriving DecidableEq

namespace TagMap

/-- No annotation. -/
def empty : TagMap := ⟨[], .nil⟩

/-- The annotations with one more; an earlier one of the same key is replaced. -/
def insert (m : TagMap) (key value : String) : TagMap :=
  ⟨insertTag key value m.entries, pairwise_insertTag key value m.sorted⟩

/-- The annotations attached in the order of a list. -/
def ofList (ts : List Tag) : TagMap := ts.foldl (fun m t ↦ m.insert t.1 t.2) empty

/-- The value under a key. -/
def get? (m : TagMap) (key : String) : Option String := findTag? key m.entries

/-- Nothing is attached. -/
def isEmpty (m : TagMap) : Bool := m.entries.isEmpty

theorem findTag?_insertTag_self (key value : String) (ts : List Tag) :
    findTag? key (insertTag key value ts) = some value := by
  induction ts with
  | nil => simp [insertTag, findTag?]
  | cons u rest ih =>
    rw [insertTag]
    split
    · simp [findTag?]
    · split
      · simp [findTag?]
      · rename_i hne
        simp [findTag?, Ne.symm hne, ih]

theorem findTag?_insertTag_of_ne {key other : String} (value : String) (ts : List Tag)
    (h : other ≠ key) : findTag? other (insertTag key value ts) = findTag? other ts := by
  induction ts with
  | nil => simp [insertTag, findTag?, Ne.symm h]
  | cons u rest ih =>
    rw [insertTag]
    split
    · simp [findTag?, Ne.symm h]
    · split
      · rename_i heq
        simp [findTag?, Ne.symm h, ← heq]
      · simp [findTag?, ih]

/-- The pair attached last is the one that counts. -/
@[simp] theorem get?_insert_self (m : TagMap) (key value : String) :
    (m.insert key value).get? key = some value :=
  findTag?_insertTag_self key value m.entries

/-- Other keys keep their answers. -/
theorem get?_insert_of_ne (m : TagMap) {key other : String} (value : String) (h : other ≠ key) :
    (m.insert key value).get? other = m.get? other :=
  findTag?_insertTag_of_ne value m.entries h

end TagMap

/-! ## Both forms -/

/-- The annotations of a field. -/
inductive Tags where
  /-- The pairs of a declaration; the first of a key counts. -/
  | declared (pairs : List Tag)
  /-- Pairs attached at run time; the last of a key counts. -/
  | attached (map : TagMap)

namespace Tags

/-- The value that counts under a key. -/
def get? : Tags → String → Option String
  | declared pairs, key => findTag? key pairs
  | attached map, key => map.get? key

/-- No annotation is there. -/
def isEmpty : Tags → Bool
  | declared pairs => pairs.isEmpty
  | attached map => map.isEmpty

end Tags

/-! ## Selection -/

/-- Which fields are meant: those whose annotation under `tag` has the value `value`. -/
structure Marker where
  tag : String
  value : String
  deriving DecidableEq

namespace Marker

/-- The marker of fields that must not reach a log in clear. -/
def standard : Marker := ⟨"log", "encrypt"⟩

/-- The marker selects a field with the annotation `found` under its tag; a field without the
annotation counts as one with the empty value. -/
def accepts (m : Marker) (found : Option String) : Bool := found.getD "" == m.value

/-- The marker selects a field with these annotations. -/
def selects (m : Marker) (tags : String → Option String) : Bool := m.accepts (tags m.tag)

end Marker

end Shroud
