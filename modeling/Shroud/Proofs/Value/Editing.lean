import Shroud.Proofs.Outline.Calls
import Shroud.Proofs.Value.Restorable
import Shroud.Proofs.Value.Selection

/-!
# Editing beside a walk

The first field of a name in a record can be read and written; the fields behind it that have the
same name, and all other fields, stay as they are.  A walk goes by position and knows nothing of
this.  Still the two do not disturb one another, when a walk has nothing to do in the field: neither
with what was there nor with what is written.  Then the record may be written before the walk or
after it (`transform_set`).

* `Record.First` splits the fields of a record at the first one of a name.  Reading, writing and the
  walk are described by this split.
* `Value.Unseen` says of a value that a walk passes over it in a field of some annotations.
* `fieldEvents_unseen` and `exists_fillFields_unseen`: such a field takes no part in a walk.
-/

set_option autoImplicit false

namespace Shroud

/-! ## The first field of a name -/

namespace Record

variable {τ α : Type}

/-- The fields are `front`, then `f`, then `back`, and `f` is the first one of the name. -/
structure First (name : String) (fs front : List (Field τ α)) (f : Field τ α)
    (back : List (Field τ α)) : Prop where
  fields : fs = front ++ f :: back
  named : f.name = name
  before : ∀ g ∈ front, g.name ≠ name

variable {name : String} {r : Record τ α} {front back : List (Field τ α)} {f : Field τ α}

theorem exists_first (h : r.fields.find? (fun g ↦ g.name == name) = some f) :
    ∃ front back, First name r.fields front f back := by
  obtain ⟨hf, front, back, hfields, hfront⟩ := List.find?_eq_some_iff_append.mp h
  refine ⟨front, back, hfields, beq_iff_eq.mp hf, fun g hg hname ↦ ?_⟩
  simpa [hname] using hfront g hg

/-- Reading finds the first field of the name. -/
theorem First.get?_self (h : First name r.fields front f back) : r.get? name = some f.value := by
  have hfind : r.fields.find? (fun g ↦ g.name == name) = some f := by
    refine List.find?_eq_some_iff_append.mpr ⟨beq_iff_eq.mpr h.named, front, back, h.fields, ?_⟩
    intro g hg
    simpa using h.before g hg
  rw [get?, hfind, Option.map_some]

/-- The field of a name has no part in what is read under the other names. -/
theorem First.get?_of_ne (h : First name r.fields front f back) {other : String}
    (hother : other ≠ name) : r.get? other = get? ⟨r.name, front ++ back⟩ other := by
  have hf : (f.name == other) = false := by
    rw [h.named]
    exact beq_eq_false_iff_ne.mpr hother.symm
  simp only [get?, h.fields, List.find?_append, List.find?_cons, hf]

theorem modifyFirst_append (change : α → α) (hf : f.name = name) :
    ∀ front : List (Field τ α), (∀ g ∈ front, g.name ≠ name) →
      modifyFirst name change (front ++ f :: back) =
        front ++ { f with value := change f.value } :: back
  | [], _ => if_pos (beq_iff_eq.mpr hf)
  | g :: front, hfront => by
    obtain ⟨hg, hfront⟩ := List.forall_mem_cons.mp hfront
    rw [List.cons_append, modifyFirst, if_neg (fun h ↦ hg (beq_iff_eq.mp h)),
      modifyFirst_append change hf front hfront, List.cons_append]

/-- **Writing changes the value of the first field of the name and nothing else.** -/
theorem First.set (h : First name r.fields front f back) (w : α) :
    First name (r.set name w).fields front { f with value := w } back where
  fields := by
    show modifyFirst name (fun _ ↦ w) r.fields = _
    rw [h.fields, modifyFirst_append _ h.named front h.before]
  named := h.named
  before := h.before

theorem First.set_eq (h : First name r.fields front f back) (w : α) :
    r.set name w = ⟨r.name, front ++ { f with value := w } :: back⟩ :=
  congrArg (Record.mk r.name) (h.set w).fields

/-- Writing what is there changes nothing. -/
theorem First.set_self (h : First name r.fields front f back) : r.set name f.value = r := by
  rw [h.set_eq, ← h.fields]

end Record

namespace Value

open Record (First)

variable {m : Marker} {name : String} {front back : List (Field TagMap Value)}
  {f : Field TagMap Value}

/-! ## Writing -/

theorem setField?_append (w : Value) (hf : f.name = name) :
    ∀ front : List (Field TagMap Value), (∀ g ∈ front, g.name ≠ name) →
      setField? w name [] (front ++ f :: back) = some (front ++ { f with value := w } :: back)
  | [], _ => by
    rw [List.nil_append, setField?, if_pos (beq_iff_eq.mpr hf), setAt?]
    rfl
  | g :: front, hfront => by
    obtain ⟨hg, hfront⟩ := List.forall_mem_cons.mp hfront
    rw [List.cons_append, setField?, if_neg (fun h ↦ hg (beq_iff_eq.mp h)),
      setField?_append w hf front hfront]
    rfl

/-- The way by the name alone leads to the first field of the name. -/
theorem setAt?_first {r : Record TagMap Value} (h : First name r.fields front f back) (w : Value) :
    setAt? w [.field name] (record r) = some (record (r.set name w)) := by
  rw [setAt?, h.fields, setField?_append w h.named front h.before, h.set_eq w]
  rfl

/-- The value with another value in the first field of a name; without such a field the value as it
is. -/
def write (name : String) (w v : Value) : Value := (setAt? w [.field name] v).getD v

theorem write_record {r : Record TagMap Value} (h : First name r.fields front f back) (w : Value) :
    write name w (record r) = record (r.set name w) := by
  rw [write, setAt?_first h w, Option.getD_some]

/-! ## Fields in which a walk has nothing to do -/

/-- In a field of these annotations the value is passed over: behind its references it is no record,
and no text if the marker selects the field. -/
structure Unseen (m : Marker) (tags : TagMap) (v : Value) : Prop where
  noRecord : v.asRecord? = none
  noText : (tags.get? m.tag).getD "" = m.value → v.asText? = none

theorem Unseen.passed_over {tags : TagMap} {v : Value} (h : Unseen m tags v) :
    (∀ path depth, v.outline.events m path depth (m.selects tags.get?) = []) ∧
      ∀ ts, v.outline.put m (m.selects tags.get?) ts = (v.outline, ts) :=
  Value.passed_over _ v h.noRecord fun hsel ↦ h.noText (selects_iff.mp hsel)

/-- Nothing is met in such a field. -/
theorem fieldEvents_unseen (h : Unseen m f.tags f.value) (path : String) (depth : Nat) :
    Outline.fieldEvents m path depth (outlineFields (front ++ f :: back)) =
      Outline.fieldEvents m path depth (outlineFields (front ++ back)) := by
  induction front with
  | nil =>
    obtain ⟨_, tags, v⟩ := f
    rw [List.nil_append, outlineFields, Outline.fieldEvents, h.passed_over.1, List.nil_append,
      List.nil_append]
  | cons g front ih =>
    obtain ⟨_, tags, v⟩ := g
    rw [List.cons_append, List.cons_append, outlineFields, outlineFields, Outline.fieldEvents,
      Outline.fieldEvents, ih]

/-- Texts that are put back come to the fields before and behind such a field as if it were not
there, whatever it holds; the field stays. -/
theorem exists_fillFields_unseen (m : Marker) (back : List (Field TagMap Value)) (name : String)
    (tags : TagMap) (front : List (Field TagMap Value)) (ts : List String) :
    ∃ front' back' : List (Field TagMap Value), front'.map Field.name = front.map Field.name ∧
      ∀ v, Unseen m tags v →
        fillFields (front ++ ⟨name, tags, v⟩ :: back)
          (Outline.putFields m (outlineFields (front ++ ⟨name, tags, v⟩ :: back)) ts).1 =
        front' ++ ⟨name, tags, v⟩ :: back' := by
  induction front generalizing ts with
  | nil =>
    refine ⟨[], fillFields back (Outline.putFields m (outlineFields back) ts).1, rfl, ?_⟩
    intro v hv
    rw [List.nil_append, outlineFields, Outline.putFields, hv.passed_over.2, fillFields,
      fill_outline, List.nil_append]
  | cons g front ih =>
    obtain ⟨n, t, u⟩ := g
    obtain ⟨front', back', hnames, hfill⟩ := ih (u.outline.put m (m.selects t.get?) ts).2
    refine ⟨⟨n, t, u.fill (u.outline.put m (m.selects t.get?) ts).1⟩ :: front', back', ?_, ?_⟩
    · rw [List.map_cons, List.map_cons, hnames]
    · intro v hv
      rw [List.cons_append, outlineFields, Outline.putFields, fillFields, hfill v hv,
        List.cons_append]

/-! ## Writing before a walk and after it -/

section

variable {r : Record TagMap Value} (h : First name r.fields front f back)

include h

/-- What is met in a record does not depend on what such a field of it holds. -/
theorem events_root_set {v : Value} (hv : Unseen m f.tags v) :
    (root (record (r.set name v))).events m =
      (root (record ⟨r.name, front ++ back⟩)).events m := by
  rw [h.set_eq, root, root, Root.events, Root.events, Outline.recordEvents, Outline.recordEvents,
    fieldEvents_unseen (f := { f with value := v }) hv]

/-- When texts have been put back into the record, such a field is still the first one of its name,
with its value; and if it had held something else that is not seen, the other fields would have come
out the same. -/
theorem exists_refill_set (hold : Unseen m f.tags f.value) (ts : List String) :
    ∃ r' : Record TagMap Value, (∃ front' back', First name r'.fields front' f back') ∧
      refill (record r) ((root (record r)).put m ts) = record r' ∧
      ∀ v, Unseen m f.tags v →
        refill (record (r.set name v)) ((root (record (r.set name v))).put m ts) =
          record (r'.set name v) := by
  obtain ⟨front', back', hnames, hfill⟩ :=
    exists_fillFields_unseen m back f.name f.tags front ts
  have hfirst : First name (Record.mk r.name (front' ++ f :: back')).fields front' f back' := by
    refine ⟨rfl, h.named, fun g hg hname ↦ ?_⟩
    have hmem : name ∈ front.map Field.name := by
      rw [← hnames]
      exact List.mem_map.mpr ⟨g, hg, hname⟩
    obtain ⟨g', hg', hname'⟩ := List.mem_map.mp hmem
    exact h.before g' hg' hname'
  have hset (v : Value) (hv : Unseen m f.tags v) :
      refill (record (r.set name v)) ((root (record (r.set name v))).put m ts) =
        record (Record.set ⟨r.name, front' ++ f :: back'⟩ name v) := by
    rw [h.set_eq, hfirst.set_eq, root, Root.put, Outline.putRecord, refill]
    exact congrArg (fun fs ↦ record ⟨r.name, fs⟩) (hfill v hv)
  refine ⟨⟨r.name, front' ++ f :: back'⟩, ⟨front', back', hfirst⟩, ?_, hset⟩
  have hsame := hset f.value hold
  rwa [h.set_self, hfirst.set_self] at hsame

end

variable {σ ε : Type} {r : Record TagMap Value} {w : Value}

/-- The law of editing for a record whose first field of the name is known. -/
theorem commutes_write (p : Pass σ ε) (h : First name r.fields front f back)
    (hold : Unseen p.marker f.tags f.value) (hnew : Unseen p.marker f.tags w) :
    p.Commutes (write name w) (record r) := by
  refine Pass.commutes_of_events ?_ fun ts ↦ ?_
  · have hevents := (events_root_set h hnew).trans (events_root_set h hold).symm
    rw [write_record h w]
    rwa [h.set_self] at hevents
  · obtain ⟨r', ⟨front', back', hfirst⟩, hafter, hbefore⟩ := exists_refill_set h hold ts
    show refill (write name w (record r)) ((root (write name w (record r))).put p.marker ts) =
      write name w (refill (record r) ((root (record r)).put p.marker ts))
    rw [write_record h w, hbefore w hnew, hafter, write_record hfirst w]

/-- In the result of a transformation the field is still there. -/
theorem exists_first_transform {p : Pass σ ε} (h : First name r.fields front f back)
    (hold : Unseen p.marker f.tags f.value) {s s₁ : σ} {u : Value}
    (hu : transform p (record r) s = .ok u s₁) :
    ∃ r' : Record TagMap Value, u = record r' ∧
      ∃ front' back', First name r'.fields front' f back' := by
  by_cases hkey : p.key = ""
  · have hempty : p.key.isEmpty = true := by simpa using hkey
    rw [transform, if_pos hempty] at hu
    obtain ⟨rfl, rfl⟩ := EStateM.Result.ok.inj hu
    exact ⟨r, rfl, front, back, h⟩
  · rw [transform_eq p _ hkey] at hu
    obtain ⟨ts, -, rfl⟩ := map_eq_ok hu
    obtain ⟨r', hfirst, hafter, -⟩ := exists_refill_set h hold ts
    exact ⟨r', hafter, hfirst⟩

/-- **Editing what is not selected commutes with a transformation.**  Let `f` be the first field of
a name, and let a walk pass over what it holds and over `w`.  Then it makes no difference whether
`w` is written before the transformation or into its result: the calls of the leaf are the same, and
so is the end, a refusal or the same record.  The field is in the result too, with its old value, so
that it can be written there.

The write changes the value of that one field.  The fields before and behind it stay, whatever their
names; what is read under the name is `w` then, and under any other name what it was. -/
theorem transform_set (p : Pass σ ε)
    (hf : r.fields.find? (fun g ↦ g.name == name) = some f)
    (hold : Unseen p.marker f.tags f.value) (hnew : Unseen p.marker f.tags w) :
    (p.Commutes (write name w) (record r) ∧
      ∀ s u s₁, transform p (record r) s = .ok u s₁ → ∃ r' : Record TagMap Value, u = record r' ∧
        r'.get? name = some f.value ∧ setAt? w [.field name] u = some (record (r'.set name w))) ∧
    setAt? w [.field name] (record r) = some (record (r.set name w)) ∧
    (∃ front back, r.fields = front ++ f :: back ∧ (∀ g ∈ front, g.name ≠ name) ∧
      r.set name w = ⟨r.name, front ++ { f with value := w } :: back⟩) ∧
    (r.set name w).get? name = some w ∧
    ∀ other, other ≠ name → (r.set name w).get? other = r.get? other := by
  obtain ⟨front, back, hfirst⟩ := Record.exists_first hf
  refine ⟨⟨commutes_write p hfirst hold hnew, fun s u s₁ hu ↦ ?_⟩, setAt?_first hfirst w,
    ⟨front, back, hfirst.fields, hfirst.before, hfirst.set_eq w⟩, (hfirst.set w).get?_self,
    fun other hother ↦ ?_⟩
  · obtain ⟨r', rfl, front', back', hfirst'⟩ := exists_first_transform hfirst hold hu
    exact ⟨r', rfl, hfirst'.get?_self, setAt?_first hfirst' w⟩
  · rw [(hfirst.set w).get?_of_ne hother, hfirst.get?_of_ne hother]
    rfl

/-- A diary with two notes; the marker selects the secret and the second note. -/
def diary (first : Value) (secret second : String) : Record TagMap Value :=
  ⟨"Diary", [.tagged "note" first [("log", "plain")],
    .tagged "secret" (.text secret) [("log", "encrypt")],
    .tagged "note" (.text second) [("log", "encrypt")]]⟩

/-- The first note written before the transformation, and after it. -/
theorem transform_set_note :
    transform counting (record ((diary (.text "old") "one" "two").set "note" (.ref (.text "new"))))
      0 = .ok (record (diary (.ref (.text "new")) "" "*")) 2 ∧
    (∃ r, transform counting (record (diary (.text "old") "one" "two")) 0 = .ok (record r) 2 ∧
      setAt? (.ref (.text "new")) [.field "note"] (record r) =
        some (record (diary (.ref (.text "new")) "" "*"))) ∧
    ((diary (.text "old") "one" "two").set "note" (.ref (.text "new"))).get? "secret" =
      some (.text "one") := by
  have hf : (diary (.text "old") "one" "two").fields.find? (fun g ↦ g.name == "note") =
      some (.tagged "note" (.text "old") [("log", "plain")]) := rfl
  have hold : Unseen counting.marker (.ofList [("log", "plain")]) (.text "old") :=
    ⟨rfl, by decide⟩
  have hnew : Unseen counting.marker (.ofList [("log", "plain")]) (.ref (.text "new")) :=
    ⟨rfl, by decide⟩
  have hrun : transform counting (record (diary (.text "old") "one" "two")) 0 =
      .ok (record (diary (.text "old") "" "*")) 2 := rfl
  obtain ⟨⟨hcommutes, hafter⟩, hset, -, -, hother⟩ := transform_set counting hf hold hnew
  obtain ⟨r, hr, -, hwritten⟩ := hafter 0 _ 2 hrun
  obtain rfl : diary (.text "old") "" "*" = r := Value.record.inj hr
  refine ⟨?_, ⟨_, hrun, hwritten⟩, hother "secret" (by decide)⟩
  have h := congrFun hcommutes.result 0
  rw [write, hset] at h
  exact h

end Value

end Shroud
