import Shroud.Outline.Walk

/-!
# The events of a walk

A walk meets three kinds of events: a root from which it cannot start, a record that lies too deep,
and a text that its marker selects.  Which events these are, and in which order, depends on the
outline and the marker alone (`Root.events`); what the leaf answers has no part in it.  So a walk
falls into three steps: list the events, run them one after another (`Pass.run`), and put the
replacements back in the order in which the texts were met (`Root.put`).

That the walk as it is written, which does all of this at once, comes to the same is `Pass.root_eq`,
and for a whole transformation `transform_eq`.  Everything that is proved about transformations
starts from there.
-/

set_option autoImplicit false

namespace Shroud

/-- What a walk meets on its way. -/
inductive Event where
  /-- A root that is neither a record nor a sequence. -/
  | unsupported (found : Kind)
  /-- The text of a field that the marker selects. -/
  | text (path content : String)
  /-- A record that lies under `depthLimit` others or more. -/
  | tooDeep
  deriving DecidableEq

/-- The text that is met. -/
def Event.content? : Event → Option String
  | text _ s => some s
  | _ => none

/-- The texts among events, in order. -/
def contents (es : List Event) : List String := es.filterMap Event.content?

@[simp] theorem contents_nil : contents [] = [] := rfl

@[simp] theorem contents_append (es fs : List Event) :
    contents (es ++ fs) = contents es ++ contents fs := List.filterMap_append

@[simp] theorem contents_text (path s : String) (es : List Event) :
    contents (.text path s :: es) = s :: contents es := rfl

@[simp] theorem contents_tooDeep (es : List Event) : contents (.tooDeep :: es) = contents es := rfl

@[simp] theorem contents_unsupported (found : Kind) (es : List Event) :
    contents (.unsupported found :: es) = contents es := rfl

/-- The number of characters in some texts. -/
def totalLength : List String → Nat
  | [] => 0
  | t :: ts => t.toList.length + totalLength ts

@[simp] theorem totalLength_nil : totalLength [] = 0 := rfl

@[simp] theorem totalLength_cons (t : String) (ts : List String) :
    totalLength (t :: ts) = t.toList.length + totalLength ts := rfl

/-- A list that is as long as two others together has a front as long as the first of them. -/
theorem exists_append_of_length_eq {α : Type} {ts : List α} {a b : Nat} (h : ts.length = a + b) :
    ∃ front back, ts = front ++ back ∧ front.length = a ∧ back.length = b :=
  ⟨ts.take a, ts.drop a, (List.take_append_drop a ts).symm, by simp [h], by simp [h]⟩

namespace Outline

variable (m : Marker)

mutual

/-- What a walk meets in the place of a field at `path`, which the marker selects or not, with
`depth` records around it. -/
def events (path : String) (depth : Nat) (chosen : Bool) : Outline → List Event
  | .text s => if chosen then [.text path s] else []
  | .record r => recordEvents path depth r
  | .timestamp => []
  | .other => []

/-- What a walk meets in a record at `path` with `depth` records around it: first the record itself,
if it lies too deep, then its fields. -/
def recordEvents (path : String) (depth : Nat) : Record Lookup Outline → List Event
  | ⟨_, fs⟩ => (if depthLimit ≤ depth then [.tooDeep] else []) ++ fieldEvents path (depth + 1) fs

/-- What a walk meets in the fields that are left of the record at `path`. -/
def fieldEvents (path : String) (depth : Nat) : List (Field Lookup Outline) → List Event
  | [] => []
  | ⟨name, tags, value⟩ :: rest =>
    events (joinPath path name) depth (m.selects tags) value ++ fieldEvents path depth rest

end

mutual

/-- The outline with its selected texts replaced by the first of some texts, and those left over. -/
def put (chosen : Bool) : Outline → List String → Outline × List String
  | .text s, ts =>
    match chosen, ts with
    | true, t :: ts => (.text t, ts)
    | _, ts => (.text s, ts)
  | .record r, ts => (.record (putRecord r ts).1, (putRecord r ts).2)
  | .timestamp, ts => (.timestamp, ts)
  | .other, ts => (.other, ts)

/-- A record with its selected texts replaced by the first of some texts, and those left over. -/
def putRecord : Record Lookup Outline → List String → Record Lookup Outline × List String
  | ⟨name, fs⟩, ts => (⟨name, (putFields fs ts).1⟩, (putFields fs ts).2)

/-- Fields with their selected texts replaced by the first of some texts, and those left over. -/
def putFields :
    List (Field Lookup Outline) → List String → List (Field Lookup Outline) × List String
  | [], ts => ([], ts)
  | ⟨name, tags, value⟩ :: rest, ts =>
    (⟨name, tags, (put (m.selects tags) value ts).1⟩ ::
      (putFields rest (put (m.selects tags) value ts).2).1,
      (putFields rest (put (m.selects tags) value ts).2).2)

end

/-- What a walk meets in the elements from `index` on. -/
def elementEvents (index : Nat) : List Outline → List Event
  | [] => []
  | o :: rest => o.events m (elementPath index) 0 false ++ elementEvents (index + 1) rest

/-- Elements with their selected texts replaced by the first of some texts, and those left over. -/
def putElements : List Outline → List String → List Outline × List String
  | [], ts => ([], ts)
  | o :: rest, ts =>
    ((o.put m false ts).1 :: (putElements rest (o.put m false ts).2).1,
      (putElements rest (o.put m false ts).2).2)

end Outline

namespace Root

variable (m : Marker)

/-- What a walk meets from its start on. -/
def events : Root → List Event
  | .record r => Outline.recordEvents m "" 0 r
  | .sequence items => Outline.elementEvents m 0 items
  | .unsupported found => [.unsupported found]

/-- The root with its selected texts replaced. -/
def put : Root → List String → Root
  | .record r, ts => .record (Outline.putRecord m r ts).1
  | .sequence items, ts => .sequence (Outline.putElements m items ts).1
  | .unsupported found, _ => .unsupported found

end Root

/-! ## Putting texts back -/

namespace Outline

variable {m : Marker}

mutual

/-- Putting texts into an outline takes as many of them as it has selected texts. -/
theorem put_append (path : String) (depth : Nat) (chosen : Bool) :
    ∀ (o : Outline) (ts us : List String),
      ts.length = (contents (o.events m path depth chosen)).length →
      o.put m chosen (ts ++ us) = ((o.put m chosen ts).1, us)
  | .text s, ts, us, h => by
    cases chosen with
    | false =>
      obtain rfl : ts = [] := List.eq_nil_of_length_eq_zero (by simpa [events] using h)
      simp [put]
    | true =>
      match ts, h with
      | [t], _ => rfl
  | .record r, ts, us, h => by
    rw [put, putRecord_append path depth r ts us h, put]
  | .timestamp, ts, us, h => by
    obtain rfl : ts = [] := List.eq_nil_of_length_eq_zero (by simpa [events] using h)
    rfl
  | .other, ts, us, h => by
    obtain rfl : ts = [] := List.eq_nil_of_length_eq_zero (by simpa [events] using h)
    rfl

theorem putRecord_append (path : String) (depth : Nat) :
    ∀ (r : Record Lookup Outline) (ts us : List String),
      ts.length = (contents (recordEvents m path depth r)).length →
      putRecord m r (ts ++ us) = ((putRecord m r ts).1, us)
  | ⟨name, fs⟩, ts, us, h => by
    have hlen : ts.length = (contents (fieldEvents m path (depth + 1) fs)).length := by
      rw [h, recordEvents]
      split <;> simp
    rw [putRecord, putFields_append path (depth + 1) fs ts us hlen, putRecord]

theorem putFields_append (path : String) (depth : Nat) :
    ∀ (fs : List (Field Lookup Outline)) (ts us : List String),
      ts.length = (contents (fieldEvents m path depth fs)).length →
      putFields m fs (ts ++ us) = ((putFields m fs ts).1, us)
  | [], ts, us, h => by
    obtain rfl : ts = [] := List.eq_nil_of_length_eq_zero (by simpa [fieldEvents] using h)
    rfl
  | ⟨name, tags, value⟩ :: rest, ts, us, h => by
    rw [fieldEvents, contents_append, List.length_append] at h
    obtain ⟨front, back, rfl, hfront, hback⟩ := exists_append_of_length_eq h
    have hvalue := put_append (joinPath path name) depth (m.selects tags) value front
    rw [putFields, List.append_assoc, hvalue (back ++ us) hfront, putFields,
      hvalue back hfront, putFields_append path depth rest back us hback]

end

end Outline

/-! ## Computations that may fail -/

section Results

variable {σ ε α β : Type} {x : EStateM ε σ α} {f g : α → EStateM ε σ β} {s s₁ : σ}

theorem bind_of_ok {a : α} (h : x s = .ok a s₁) : (x >>= f) s = f a s₁ := by
  simp only [bind, EStateM.bind, h]

theorem bind_of_error {e : ε} (h : x s = .error e s₁) : (x >>= f) s = .error e s₁ := by
  simp only [bind, EStateM.bind, h]

theorem bind_eq_ok {b : β} {s₂ : σ} (h : (x >>= f) s = .ok b s₂) :
    ∃ a s₁, x s = .ok a s₁ ∧ f a s₁ = .ok b s₂ := by
  cases hx : x s with
  | ok a s₁ => exact ⟨a, s₁, rfl, by rwa [bind_of_ok hx] at h⟩
  | error e s₁ => rw [bind_of_error hx] at h; cases h

theorem map_of_ok {a : α} (h : x s = .ok a s₁) (k : α → β) : (k <$> x) s = .ok (k a) s₁ := by
  rw [map_eq_pure_bind]
  exact bind_of_ok h

theorem map_of_error {e : ε} (h : x s = .error e s₁) (k : α → β) :
    (k <$> x) s = .error e s₁ := by
  rw [map_eq_pure_bind]
  exact bind_of_error h

theorem map_eq_ok {k : α → β} {b : β} (h : (k <$> x) s = .ok b s₁) :
    ∃ a, x s = .ok a s₁ ∧ b = k a := by
  cases hx : x s with
  | ok a s₂ =>
    rw [map_of_ok hx] at h
    obtain ⟨rfl, rfl⟩ := EStateM.Result.ok.inj h
    exact ⟨a, rfl, rfl⟩
  | error e s₂ =>
    rw [map_of_error hx] at h
    cases h

theorem map_eq_error {k : α → β} {e : ε} (h : (k <$> x) s = .error e s₁) :
    x s = .error e s₁ := by
  cases hx : x s with
  | ok a s₂ =>
    rw [map_of_ok hx] at h
    cases h
  | error e' s₂ =>
    rw [map_of_error hx] at h
    obtain ⟨rfl, rfl⟩ := EStateM.Result.error.inj h
    rfl

/-- What follows a computation matters only on the results that the computation has. -/
theorem bind_congr_of_ok (h : ∀ s a s₁, x s = .ok a s₁ → f a = g a) : x >>= f = x >>= g := by
  funext s
  cases hx : x s with
  | ok a s₁ => rw [bind_of_ok hx, bind_of_ok hx, h s a s₁ hx]
  | error e s₁ => rw [bind_of_error hx, bind_of_error hx]

end Results

/-! ## The walk and its events -/

namespace Pass

variable {σ ε : Type} (p : Pass σ ε)

/-- The events one after another: each text is replaced, and the first failure is the end. -/
def run : List Event → EStateM (Failure ε) σ (List String)
  | [] => return []
  | .unsupported found :: _ => throw (.unsupportedShape found)
  | .text path s :: es => do return (← p.replace path s) :: (← run es)
  | .tooDeep :: _ => throw (.tooDeep depthLimit)

theorem run_append (es fs : List Event) :
    p.run (es ++ fs) = do return (← p.run es) ++ (← p.run fs) := by
  induction es with
  | nil => simp [run]
  | cons e es ih =>
    cases e with
    | unsupported found => rfl
    | text path s => simp [run, ih]
    | tooDeep => rfl

/-- There are as many replacements as texts. -/
theorem length_of_run {es : List Event} {s s' : σ} {ts : List String}
    (h : p.run es s = .ok ts s') : ts.length = (contents es).length := by
  induction es generalizing s s' ts with
  | nil =>
    obtain ⟨rfl, -⟩ := EStateM.Result.ok.inj h
    rfl
  | cons e es ih =>
    cases e with
    | unsupported found => cases h
    | tooDeep => cases h
    | text path t =>
      rw [run] at h
      obtain ⟨a, s₁, -, h⟩ := bind_eq_ok h
      obtain ⟨as, s₂, has, h⟩ := bind_eq_ok h
      obtain ⟨rfl, rfl⟩ := EStateM.Result.ok.inj h
      simp [ih has]

mutual

/-- **The walk of a field is the run of its events.** -/
theorem field_eq (path : String) (depth : Nat) (tags : Lookup) :
    ∀ o : Outline, p.field path depth tags o =
      (fun ts ↦ (o.put p.marker (p.marker.selects tags) ts).1) <$>
        p.run (o.events p.marker path depth (p.marker.selects tags))
  | .text s => by
    rw [field, Outline.events]
    cases h : p.marker.selects tags with
    | false => simp [run, Outline.put]
    | true => simp [run, Outline.put]
  | .record r => by
    rw [field, record_eq path depth r, Outline.events]
    simp [Outline.put]
  | .timestamp => by simp [field, Outline.events, run, Outline.put]
  | .other => by simp [field, Outline.events, run, Outline.put]

theorem record_eq (path : String) (depth : Nat) :
    ∀ r : Record Lookup Outline, p.record path depth r =
      (fun ts ↦ (Outline.putRecord p.marker r ts).1) <$>
        p.run (Outline.recordEvents p.marker path depth r)
  | ⟨name, fs⟩ => by
    rw [record, Outline.recordEvents]
    split
    · rfl
    · rw [fields_eq path (depth + 1) fs]
      simp [Outline.putRecord]

theorem fields_eq (path : String) (depth : Nat) :
    ∀ fs : List (Field Lookup Outline), p.fields path depth fs =
      (fun ts ↦ (Outline.putFields p.marker fs ts).1) <$>
        p.run (Outline.fieldEvents p.marker path depth fs)
  | [] => by simp [fields, Outline.fieldEvents, run, Outline.putFields]
  | ⟨name, tags, value⟩ :: rest => by
    rw [fields, field_eq (joinPath path name) depth tags value, fields_eq path depth rest,
      Outline.fieldEvents, run_append]
    simp only [map_eq_pure_bind, bind_assoc, pure_bind]
    refine bind_congr_of_ok fun s ts s₁ h ↦ ?_
    simp only [Outline.putFields, Outline.put_append _ _ _ value ts _ (p.length_of_run h)]

end

theorem element_eq (index : Nat) (o : Outline) :
    p.element index o =
      (fun ts ↦ (o.put p.marker false ts).1) <$>
        p.run (o.events p.marker (elementPath index) 0 false) := by
  cases o with
  | record r =>
    rw [element, record_eq, Outline.events]
    simp [Outline.put]
  | text s => simp [element, Outline.events, run, Outline.put]
  | timestamp => simp [element, Outline.events, run, Outline.put]
  | other => simp [element, Outline.events, run, Outline.put]

theorem elements_eq (index : Nat) (items : List Outline) :
    p.elements index items =
      (fun ts ↦ (Outline.putElements p.marker items ts).1) <$>
        p.run (Outline.elementEvents p.marker index items) := by
  induction items generalizing index with
  | nil => simp [elements, Outline.elementEvents, run, Outline.putElements]
  | cons o rest ih =>
    rw [elements, element_eq, ih, Outline.elementEvents, run_append]
    simp only [map_eq_pure_bind, bind_assoc, pure_bind]
    refine bind_congr_of_ok fun s ts s₁ h ↦ ?_
    simp only [Outline.putElements, Outline.put_append _ _ _ o ts _ (p.length_of_run h)]

theorem root_eq (r : Root) :
    p.root r = (fun ts ↦ r.put p.marker ts) <$> p.run (r.events p.marker) := by
  cases r with
  | record r => simp [root, record_eq, Root.events, Root.put]
  | sequence items => simp [root, elements_eq, Root.events, Root.put]
  | unsupported found => rfl

end Pass

/-- **A transformation is the run of its events**, after which the replacements are put back. -/
theorem transform_eq {σ ε α : Type} [HasRoot α] (p : Pass σ ε) (x : α) (h : p.key ≠ "") :
    transform p x =
      (fun ts ↦ HasRoot.refill x ((HasRoot.root x).put p.marker ts)) <$>
        p.run ((HasRoot.root x).events p.marker) := by
  have hkey : p.key.isEmpty = false := by simpa using h
  simp [transform, hkey, Pass.root_eq]

/-- A transformation knows of a value its root alone: what has the same root, and takes the same
texts back, is transformed alike. -/
theorem transform_map {σ ε α β : Type} [HasRoot α] [HasRoot β] (p : Pass σ ε) (f : α → β) (x : α)
    (hroot : HasRoot.root (f x) = HasRoot.root x)
    (hrefill : ∀ r, HasRoot.refill (f x) r = f (HasRoot.refill x r)) :
    transform p (f x) = f <$> transform p x := by
  rw [transform, transform]
  split
  · rw [map_pure]
  · simp only [map_eq_pure_bind, bind_assoc, pure_bind, hroot, hrefill]

end Shroud
