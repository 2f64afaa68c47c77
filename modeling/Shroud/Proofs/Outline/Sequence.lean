import Shroud.Proofs.Outline.Calls

/-!
# Walks from a list

A walk that starts from a list goes through its elements in order.  Only the records among them are
entered, so a walk that succeeds leaves a list of the same length, with the same elements in the
same places, other texts in the records and everything else as it was.  A walk that fails does so
inside one of the records, and the path that it tells begins with the index of that element
(`transform_list`).
-/

set_option autoImplicit false

namespace Shroud

variable {σ ε : Type} {m : Marker}

/-! ## Paths below an element -/

/-- The path of something inside what is at `parent`. -/
def Below (parent path : String) : Prop := ∃ rest, path = parent ++ "." ++ rest

theorem joinPath_of_ne {parent : String} (h : parent ≠ "") (name : String) :
    joinPath parent name = parent ++ "." ++ name := by
  have hempty : parent.isEmpty = false := by simpa using h
  simp [joinPath, hempty]

theorem below_joinPath {parent : String} (h : parent ≠ "") (name : String) :
    Below parent (joinPath parent name) :=
  ⟨name, joinPath_of_ne h name⟩

theorem Below.of_joinPath {parent name path : String} (h : parent ≠ "")
    (hpath : Below (joinPath parent name) path) : Below parent path := by
  obtain ⟨rest, rfl⟩ := hpath
  refine ⟨name ++ "." ++ rest, ?_⟩
  simp only [joinPath_of_ne h, String.append_assoc]

theorem joinPath_ne {parent : String} (h : parent ≠ "") (name : String) :
    joinPath parent name ≠ "" := by
  simp [joinPath_of_ne h]

theorem elementPath_ne (index : Nat) : elementPath index ≠ "" := by
  simp [elementPath]

/-- What may be met in a record at a path: records too deep, and texts below the path. -/
def Event.Within (path : String) : Event → Prop
  | unsupported _ => False
  | text q _ => Below path q
  | tooDeep => True

theorem Event.Within.of_joinPath {parent name : String} (h : parent ≠ "") {e : Event}
    (he : e.Within (joinPath parent name)) : e.Within parent := by
  cases e with
  | unsupported found => exact he
  | text q s => exact Below.of_joinPath h he
  | tooDeep => exact he

namespace Outline

mutual

/-- In a record at a path nothing is met but records too deep and texts below the path. -/
theorem within_of_mem_recordEvents {path : String} (hpath : path ≠ "") (depth : Nat) :
    ∀ (r : Record Lookup Outline) (e : Event), e ∈ recordEvents m path depth r → e.Within path
  | ⟨_, fs⟩, e, h => by
    rw [recordEvents, List.mem_append] at h
    rcases h with h | h
    · obtain rfl : e = .tooDeep := by
        split at h <;> simp_all
      trivial
    · exact within_of_mem_fieldEvents hpath (depth + 1) fs e h

theorem within_of_mem_fieldEvents {path : String} (hpath : path ≠ "") (depth : Nat) :
    ∀ (fs : List (Field Lookup Outline)) (e : Event), e ∈ fieldEvents m path depth fs →
      e.Within path
  | [], e, h => by simp [fieldEvents] at h
  | ⟨name, tags, .text t⟩ :: rest, e, h => by
    rw [fieldEvents, List.mem_append] at h
    rcases h with h | h
    · obtain ⟨-, rfl⟩ : m.selects tags = true ∧ e = .text (joinPath path name) t := by
        simpa [events] using h
      exact below_joinPath hpath name
    · exact within_of_mem_fieldEvents hpath depth rest e h
  | ⟨name, tags, .record r⟩ :: rest, e, h => by
    rw [fieldEvents, List.mem_append] at h
    rcases h with h | h
    · exact (within_of_mem_recordEvents (joinPath_ne hpath name) depth r e h).of_joinPath hpath
    · exact within_of_mem_fieldEvents hpath depth rest e h
  | ⟨_, _, .timestamp⟩ :: rest, e, h => within_of_mem_fieldEvents hpath depth rest e h
  | ⟨_, _, .other⟩ :: rest, e, h => within_of_mem_fieldEvents hpath depth rest e h

end

/-- What a walk meets in elements it meets in a record among them. -/
theorem exists_of_mem_elementEvents {index : Nat} {items : List Outline} {e : Event}
    (h : e ∈ elementEvents m index items) :
    ∃ (i : Nat) (r : Record Lookup Outline), items[i]? = some (Outline.record r) ∧
      e ∈ recordEvents m (elementPath (index + i)) 0 r := by
  induction items generalizing index with
  | nil => simp [elementEvents] at h
  | cons o rest ih =>
    rw [elementEvents, List.mem_append] at h
    rcases h with h | h
    · cases o with
      | record r => exact ⟨0, r, rfl, h⟩
      | text s => simp [events] at h
      | timestamp => simp [events] at h
      | other => simp [events] at h
    · obtain ⟨i, r, hr, he⟩ := ih h
      rw [Nat.add_assoc, Nat.add_comm 1 i] at he
      exact ⟨i + 1, r, hr, he⟩

end Outline

/-! ## Failures -/

/-- The failure with which a walk may end at an event. -/
def Event.Accounts : Event → Failure ε → Prop
  | .unsupported found, .unsupportedShape found' => found' = found
  | .text path _, .leaf path' _ => path' = path
  | .tooDeep, .tooDeep limit => limit = depthLimit
  | _, _ => False

/-- A run that fails does so at one of its events. -/
theorem Pass.exists_event_of_run {p : Pass σ ε} {es : List Event} {s s₁ : σ} {f : Failure ε}
    (h : p.run es s = .error f s₁) : ∃ e ∈ es, e.Accounts f := by
  rcases run_cases p es s with ⟨as, s', hes⟩ |
    ⟨front, path, t, back, as, s', e, s₂, rfl, hfront, he⟩ |
    ⟨front, e, back, as, s', rfl, hfront, he⟩
  · rw [hes.run] at h
    cases h
  · rw [hfront.run_append (bind_of_error (replace_of_error he path))] at h
    cases h
    exact ⟨.text path t, by simp, rfl⟩
  · cases e with
    | text path t => exact absurd rfl (he path t)
    | unsupported found =>
      rw [hfront.run_append rfl] at h
      cases h
      exact ⟨.unsupported found, by simp, rfl⟩
    | tooDeep =>
      rw [hfront.run_append rfl] at h
      cases h
      exact ⟨.tooDeep, by simp, rfl⟩

/-- The failure is one inside a record among the elements; if the leaf refused a text, the path of
the text begins with the index of the element. -/
def Failure.InElement (items : List Outline) : Failure ε → Prop
  | .unsupportedShape _ => False
  | .leaf path _ => ∃ (i : Nat) (r : Record Lookup Outline),
      items[i]? = some (Outline.record r) ∧ Below (elementPath i) path
  | .tooDeep limit => limit = depthLimit ∧
      ∃ (i : Nat) (r : Record Lookup Outline), items[i]? = some (Outline.record r)

theorem Pass.inElement_of_elements {p : Pass σ ε} {items : List Outline} {s s₁ : σ}
    {f : Failure ε} (h : p.elements 0 items s = .error f s₁) : f.InElement items := by
  rw [elements_eq] at h
  obtain ⟨e, he, hf⟩ := exists_event_of_run (map_eq_error h)
  obtain ⟨i, r, hr, he⟩ := Outline.exists_of_mem_elementEvents he
  rw [Nat.zero_add] at he
  have hwithin := Outline.within_of_mem_recordEvents (elementPath_ne i) 0 r e he
  cases e with
  | unsupported found => exact hwithin.elim
  | text q t =>
    cases f with
    | leaf path cause =>
      obtain rfl : path = q := hf
      exact ⟨i, r, hr, hwithin⟩
    | _ => exact hf.elim
  | tooDeep =>
    cases f with
    | tooDeep limit => exact ⟨hf, i, r, hr⟩
    | _ => exact hf.elim

/-! ## Results -/

/-- A walk of elements that succeeds keeps their number, and those that are no records. -/
theorem Pass.elements_of_ok {p : Pass σ ε} {index : Nat} {items os : List Outline} {s s₁ : σ}
    (h : p.elements index items s = .ok os s₁) :
    os.length = items.length ∧
      ∀ (i : Nat) (o : Outline), items[i]? = some o → (∀ r, o ≠ Outline.record r) →
        os[i]? = some o := by
  induction items generalizing index os s with
  | nil =>
    cases h
    exact ⟨rfl, by simp⟩
  | cons o rest ih =>
    rw [elements] at h
    obtain ⟨o', s', ho, h⟩ := bind_eq_ok h
    obtain ⟨os', s'', hos, h⟩ := bind_eq_ok h
    cases h
    obtain ⟨hlength, hkept⟩ := ih hos
    refine ⟨by simp [hlength], fun i u hu hnone ↦ ?_⟩
    cases i with
    | zero =>
      obtain rfl := Option.some.inj hu
      cases o with
      | record r => exact absurd rfl (hnone r)
      | _ =>
        cases ho
        rfl
    | succ i => exact hkept i u hu hnone

section

variable {α : Type} [HasOutline α]

/-- The list `ys` has the length of `xs` and its elements in their places: records with other texts,
and all else as it was. -/
def Elementwise (xs ys : List α) : Prop :=
  ys.length = xs.length ∧ ∀ (i : Nat) (x : α), xs[i]? = some x →
    ∃ o, ys[i]? = some (HasOutline.fill x o) ∧
      ((∀ r, HasOutline.outline x ≠ Outline.record r) → HasOutline.fill x o = x)

/-- How a walk from a list ends: with a list that agrees with it element by element, or with a
failure inside one of its records. -/
def EndsElementwise (xs : List α) : EStateM.Result (Failure ε) σ (List α) → Prop
  | .ok ys _ => Elementwise xs ys
  | .error f _ => f.InElement (xs.map HasOutline.outline)

variable (hown : ∀ x : α, HasOutline.fill x (HasOutline.outline x) = x)

include hown

theorem elementwise_refl (xs : List α) : Elementwise xs xs :=
  ⟨rfl, fun _ x hx ↦ ⟨HasOutline.outline x, by rw [hown, hx], fun _ ↦ hown x⟩⟩

theorem elementwise_fillEach {xs : List α} {os : List Outline} (hlength : os.length = xs.length)
    (hkept : ∀ (i : Nat) (o : Outline), (xs.map HasOutline.outline)[i]? = some o →
      (∀ r, o ≠ Outline.record r) → os[i]? = some o) : Elementwise xs (fillEach xs os) := by
  refine ⟨by simp [fillEach, hlength], fun i x hx ↦ ?_⟩
  have hi : i < os.length := hlength ▸ (List.getElem?_eq_some_iff.mp hx).1
  refine ⟨os[i], by simp [fillEach, List.getElem?_zipWith, hx, hi], fun hnone ↦ ?_⟩
  have ho := hkept i (HasOutline.outline x) (by simp [hx]) hnone
  rw [List.getElem?_eq_getElem hi] at ho
  rw [Option.some.inj ho, hown]

/-- **A walk from a list goes element by element**, when elements take their own texts back
unchanged. -/
theorem transform_list (p : Pass σ ε) (xs : List α) (s : σ) :
    EndsElementwise xs (transform p xs s) := by
  by_cases hkey : p.key.isEmpty = true
  · rw [transform, if_pos hkey]
    exact elementwise_refl hown xs
  · rw [transform, if_neg hkey]
    show EndsElementwise xs ((p.root (.sequence (xs.map HasOutline.outline)) >>= fun r ↦
      pure (HasRoot.refill xs r)) s)
    rw [Pass.root, bind_assoc]
    simp only [pure_bind]
    cases h : p.elements 0 (xs.map HasOutline.outline) s with
    | ok os s₁ =>
      rw [bind_of_ok h]
      obtain ⟨hlength, hkept⟩ := Pass.elements_of_ok h
      exact elementwise_fillEach hown (by simpa using hlength) hkept
    | error f s₁ =>
      rw [bind_of_error h]
      exact Pass.inElement_of_elements h

end

end Shroud
