import Shroud.Proofs.Outline.Undo
import Shroud.Value.Outline

/-!
# Values can be restored

A value keeps the form of its outline when texts are put into it, and its own outline brings its own
texts back: `Value.restorable`.  A list of things that can stand in a field has the same two
properties as the start of a walk, since it is filled element by element (`restorable_list`).
-/

set_option autoImplicit false

namespace Shroud

variable {m : Marker}

/-! ## Lists -/

section

variable {α : Type} [HasOutline α]

theorem outline_fillEach_put (h : ∀ x : α, RestorableField m x) (xs : List α) (ts : List String) :
    (fillEach xs (Outline.putElements m (xs.map HasOutline.outline) ts).1).map HasOutline.outline =
      (Outline.putElements m (xs.map HasOutline.outline) ts).1 := by
  induction xs generalizing ts with
  | nil => rfl
  | cons x xs ih =>
    simp only [List.map_cons, Outline.putElements, fillEach, List.zipWith_cons_cons]
    rw [(h x).outline_fill]
    exact congrArg _ (ih _)

theorem fillEach_put_outline (h : ∀ x : α, RestorableField m x) (xs : List α) (ts : List String) :
    fillEach (fillEach xs (Outline.putElements m (xs.map HasOutline.outline) ts).1)
      (xs.map HasOutline.outline) = xs := by
  induction xs generalizing ts with
  | nil => rfl
  | cons x xs ih =>
    simp only [List.map_cons, Outline.putElements, fillEach, List.zipWith_cons_cons]
    rw [(h x).fill_outline]
    exact congrArg _ (ih _)

/-- A list is restored element by element. -/
theorem restorable_list (h : ∀ x : α, RestorableField m x) (xs : List α) : Restorable m xs where
  root_refill ts := congrArg Root.sequence (outline_fillEach_put h xs ts)
  refill_root ts := fillEach_put_outline h xs ts

end

namespace Value

/-! ## What is put into an outline is found in the copy -/

mutual

theorem outline_fill_put (chosen : Bool) :
    ∀ (v : Value) (ts : List String),
      outline (fill v ((outline v).put m chosen ts).1) = ((outline v).put m chosen ts).1
  | text s, ts => by
    cases chosen with
    | false => rfl
    | true => cases ts <;> rfl
  | record ⟨name, fs⟩, ts => by
    rw [outline, Outline.put, Outline.putRecord, fill, outline, outlineFields_fill_put fs ts]
  | ref v, ts => outline_fill_put chosen v ts
  | bool _, _ => rfl
  | int _, _ => rfl
  | float _, _ => rfl
  | timestamp _, _ => rfl
  | null, _ => rfl
  | seq _, _ => rfl

theorem outlineFields_fill_put :
    ∀ (fs : List (Field TagMap Value)) (ts : List String),
      outlineFields (fillFields fs (Outline.putFields m (outlineFields fs) ts).1) =
        (Outline.putFields m (outlineFields fs) ts).1
  | [], _ => rfl
  | ⟨name, tags, v⟩ :: rest, ts => by
    rw [outlineFields, Outline.putFields, fillFields, outlineFields, outline_fill_put _ v ts,
      outlineFields_fill_put rest]

end

/-! ## The own outline brings the own texts back -/

mutual

theorem fill_outline : ∀ v : Value, v.fill v.outline = v
  | ref v => congrArg ref (fill_outline v)
  | record ⟨name, fs⟩ => by rw [outline, fill, fillFields_outlineFields fs]
  | text _ => rfl
  | timestamp _ => rfl
  | bool _ => rfl
  | int _ => rfl
  | float _ => rfl
  | null => rfl
  | seq _ => rfl

theorem fillFields_outlineFields :
    ∀ fs : List (Field TagMap Value), fillFields fs (outlineFields fs) = fs
  | [] => rfl
  | ⟨name, tags, v⟩ :: rest => by
    rw [outlineFields, fillFields, fill_outline v, fillFields_outlineFields rest]

end

mutual

theorem fill_put_outline (chosen : Bool) :
    ∀ (v : Value) (ts : List String),
      fill (fill v ((outline v).put m chosen ts).1) (outline v) = v
  | text s, ts => by
    cases chosen with
    | false => rfl
    | true => cases ts <;> rfl
  | record ⟨name, fs⟩, ts => by
    rw [outline, Outline.put, Outline.putRecord, fill, fill, fillFields_put_outline fs ts]
  | ref v, ts => congrArg ref (fill_put_outline chosen v ts)
  | bool _, _ => rfl
  | int _, _ => rfl
  | float _, _ => rfl
  | timestamp _, _ => rfl
  | null, _ => rfl
  | seq _, _ => rfl

theorem fillFields_put_outline :
    ∀ (fs : List (Field TagMap Value)) (ts : List String),
      fillFields (fillFields fs (Outline.putFields m (outlineFields fs) ts).1) (outlineFields fs) =
        fs
  | [], _ => rfl
  | ⟨name, tags, v⟩ :: rest, ts => by
    rw [outlineFields, Outline.putFields, fillFields, fillFields, fill_put_outline _ v ts,
      fillFields_put_outline rest]

end

theorem restorableField (m : Marker) (v : Value) : RestorableField m v :=
  ⟨fun chosen ts ↦ outline_fill_put chosen v ts, fun chosen ts ↦ fill_put_outline chosen v ts⟩

/-! ## The start of a walk -/

theorem root_refill_put (ts : List String) :
    ∀ v : Value, root (refill v ((root v).put m ts)) = (root v).put m ts
  | record ⟨name, fs⟩ => by
    rw [root, Root.put, Outline.putRecord, refill, root, outlineFields_fill_put fs ts]
  | seq items => (restorable_list (restorableField m) items).root_refill ts
  | ref v => root_refill_put ts v
  | bool _ => rfl
  | int _ => rfl
  | float _ => rfl
  | text _ => rfl
  | timestamp _ => rfl
  | null => rfl

theorem refill_put_root (ts : List String) :
    ∀ v : Value, refill (refill v ((root v).put m ts)) (root v) = v
  | record ⟨name, fs⟩ => by
    rw [root, Root.put, Outline.putRecord, refill, refill, fillFields_put_outline fs ts]
  | seq items => congrArg seq ((restorable_list (restorableField m) items).refill_root ts)
  | ref v => congrArg ref (refill_put_root ts v)
  | bool _ => rfl
  | int _ => rfl
  | float _ => rfl
  | text _ => rfl
  | timestamp _ => rfl
  | null => rfl

/-- **Every dynamic value can be restored.** -/
theorem restorable (m : Marker) (v : Value) : Restorable m v :=
  ⟨fun ts ↦ root_refill_put ts v, fun ts ↦ refill_put_root ts v⟩

/-! ## What is passed over -/

/-- What is no record behind its references, and no text where texts are meant, is passed over: a
walk meets nothing there and takes no text for it. -/
theorem passed_over (chosen : Bool) :
    ∀ v : Value, v.asRecord? = none → (chosen = true → v.asText? = none) →
      (∀ path depth, v.outline.events m path depth chosen = []) ∧
      ∀ ts, v.outline.put m chosen ts = (v.outline, ts)
  | record _, h, _ => nomatch h
  | ref v, h, htext => passed_over chosen v h htext
  | text _, _, htext => by
    cases chosen with
    | true => exact nomatch htext rfl
    | false => exact ⟨fun _ _ ↦ rfl, fun ts ↦ by cases ts <;> rfl⟩
  | timestamp _, _, _ => ⟨fun _ _ ↦ rfl, fun _ ↦ rfl⟩
  | bool _, _, _ => ⟨fun _ _ ↦ rfl, fun _ ↦ rfl⟩
  | int _, _, _ => ⟨fun _ _ ↦ rfl, fun _ ↦ rfl⟩
  | float _, _, _ => ⟨fun _ _ ↦ rfl, fun _ ↦ rfl⟩
  | null, _, _ => ⟨fun _ _ ↦ rfl, fun _ ↦ rfl⟩
  | seq _, _, _ => ⟨fun _ _ ↦ rfl, fun _ ↦ rfl⟩

end Value

end Shroud
