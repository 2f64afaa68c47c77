import Shroud.Proofs.Outline.Alike
import Shroud.Proofs.Value.Restorable

/-!
# Values with their selected texts masked

`mask m v` is the value with nothing in the place of the texts that the marker selects: those of
marked fields in the records that a walk enters.  All else is as it was, marked texts that no walk
comes to included.  So two values have the same mask when they differ in selected texts only, and
then they are alike for every walk (`alike_of_mask_eq`).
-/

set_option autoImplicit false

namespace Shroud

variable {m : Marker}

/-! ## Lists -/

section

variable {α : Type} [HasOutline α]

/-- A value in the place of a field: only the last texts that are put into it count. -/
def RefillsField (m : Marker) (x : α) : Prop :=
  ∀ (chosen : Bool) (ts us : List String),
    HasOutline.fill (HasOutline.fill x ((HasOutline.outline x).put m chosen ts).1)
      ((HasOutline.outline x).put m chosen us).1 =
    HasOutline.fill x ((HasOutline.outline x).put m chosen us).1

theorem fillEach_fillEach_put (h : ∀ x : α, RefillsField m x) (xs : List α) (ts us : List String) :
    fillEach (fillEach xs (Outline.putElements m (xs.map HasOutline.outline) ts).1)
      (Outline.putElements m (xs.map HasOutline.outline) us).1 =
    fillEach xs (Outline.putElements m (xs.map HasOutline.outline) us).1 := by
  induction xs generalizing ts us with
  | nil => rfl
  | cons x xs ih =>
    simp only [List.map_cons, Outline.putElements, fillEach, List.zipWith_cons_cons]
    rw [h x]
    exact congrArg _ (ih _ _)

/-- Elements are emptied one by one. -/
theorem fillEach_put_blanks {mask : α → α}
    (h : ∀ (x : α) (path : String), HasOutline.fill x ((HasOutline.outline x).put m false
      (blanks ((HasOutline.outline x).events m path 0 false))).1 = mask x)
    (index : Nat) (xs : List α) :
    fillEach xs (Outline.putElements m (xs.map HasOutline.outline)
      (blanks (Outline.elementEvents m index (xs.map HasOutline.outline)))).1 = xs.map mask := by
  induction xs generalizing index with
  | nil => rfl
  | cons x xs ih =>
    have hx := Outline.put_append (m := m) (elementPath index) 0 false (HasOutline.outline x) _
      (blanks (Outline.elementEvents m (index + 1) (xs.map HasOutline.outline)))
      (length_blanks ((HasOutline.outline x).events m (elementPath index) 0 false))
    simp only [List.map_cons, Outline.elementEvents, blanks_append, Outline.putElements, hx,
      fillEach, List.zipWith_cons_cons, h]
    exact congrArg _ (ih _)

end

namespace Value

/-! ## Masks -/

mutual

/-- The value in the place of a field, which the marker selects or not, with its selected texts
masked. -/
def maskField (m : Marker) (chosen : Bool) : Value → Value
  | text s => text (if chosen then "" else s)
  | ref v => ref (maskField m chosen v)
  | record ⟨name, fs⟩ => record ⟨name, maskFields m fs⟩
  | v => v

/-- The fields with their selected texts masked. -/
def maskFields (m : Marker) : List (Field TagMap Value) → List (Field TagMap Value)
  | [] => []
  | ⟨name, tags, v⟩ :: rest =>
    ⟨name, tags, maskField m (m.selects tags.get?) v⟩ :: maskFields m rest

end

/-- The value with its selected texts masked. -/
def mask (m : Marker) : Value → Value
  | record ⟨name, fs⟩ => record ⟨name, maskFields m fs⟩
  | seq items => seq (items.map (maskField m false))
  | ref v => ref (mask m v)
  | v => v

mutual

theorem fill_put_blanks (path : String) (depth : Nat) (chosen : Bool) :
    ∀ v : Value, v.fill (v.outline.put m chosen
      (blanks (v.outline.events m path depth chosen))).1 = maskField m chosen v
  | text s => by cases chosen <;> rfl
  | record ⟨name, fs⟩ => by
    rw [outline, Outline.events, blanks_recordEvents, Outline.put, Outline.putRecord, fill,
      fillFields_put_blanks path (depth + 1) fs, maskField]
  | ref v => congrArg ref (fill_put_blanks path depth chosen v)
  | bool _ => rfl
  | int _ => rfl
  | float _ => rfl
  | timestamp _ => rfl
  | null => rfl
  | seq _ => rfl

theorem fillFields_put_blanks (path : String) (depth : Nat) :
    ∀ fs : List (Field TagMap Value), fillFields fs (Outline.putFields m (outlineFields fs)
      (blanks (Outline.fieldEvents m path depth (outlineFields fs)))).1 = maskFields m fs
  | [] => rfl
  | ⟨name, tags, v⟩ :: rest => by
    have hv := Outline.put_append (m := m) (joinPath path name) depth (m.selects tags.get?)
      v.outline _ (blanks (Outline.fieldEvents m path depth (outlineFields rest)))
      (length_blanks (v.outline.events m (joinPath path name) depth (m.selects tags.get?)))
    rw [outlineFields, Outline.fieldEvents, blanks_append, Outline.putFields, hv, fillFields,
      fill_put_blanks (joinPath path name) depth _ v, fillFields_put_blanks path depth rest,
      maskFields]

end

/-- **The mask of a value is the value with empty texts put into it.** -/
theorem refill_put_blanks : ∀ v : Value,
    v.refill (v.root.put m (blanks (v.root.events m))) = mask m v
  | record ⟨name, fs⟩ => by
    rw [root, Root.events, blanks_recordEvents, Root.put, Outline.putRecord, refill,
      fillFields_put_blanks "" 1 fs, mask]
  | seq items =>
    congrArg seq (fillEach_put_blanks (fun v path ↦ fill_put_blanks path 0 false v) 0 items)
  | ref v => congrArg ref (refill_put_blanks v)
  | bool _ => rfl
  | int _ => rfl
  | float _ => rfl
  | text _ => rfl
  | timestamp _ => rfl
  | null => rfl

/-! ## Texts put in again and again -/

mutual

theorem fill_fill_put (chosen : Bool) :
    ∀ (v : Value) (ts us : List String),
      fill (fill v (v.outline.put m chosen ts).1) (v.outline.put m chosen us).1 =
        fill v (v.outline.put m chosen us).1
  | text s, ts, us => by
    cases chosen with
    | false => rfl
    | true => cases ts <;> cases us <;> rfl
  | record ⟨name, fs⟩, ts, us => by
    rw [outline, Outline.put, Outline.putRecord, Outline.put, Outline.putRecord, fill, fill, fill,
      fillFields_fillFields_put fs ts us]
  | ref v, ts, us => congrArg ref (fill_fill_put chosen v ts us)
  | bool _, _, _ => rfl
  | int _, _, _ => rfl
  | float _, _, _ => rfl
  | timestamp _, _, _ => rfl
  | null, _, _ => rfl
  | seq _, _, _ => rfl

theorem fillFields_fillFields_put :
    ∀ (fs : List (Field TagMap Value)) (ts us : List String),
      fillFields (fillFields fs (Outline.putFields m (outlineFields fs) ts).1)
        (Outline.putFields m (outlineFields fs) us).1 =
      fillFields fs (Outline.putFields m (outlineFields fs) us).1
  | [], _, _ => rfl
  | ⟨name, tags, v⟩ :: rest, ts, us => by
    rw [outlineFields, Outline.putFields, Outline.putFields, fillFields, fillFields, fillFields,
      fill_fill_put _ v, fillFields_fillFields_put rest]

end

theorem refill_refill_put (ts us : List String) :
    ∀ v : Value, refill (refill v (v.root.put m ts)) (v.root.put m us) = refill v (v.root.put m us)
  | record ⟨name, fs⟩ => by
    rw [root, Root.put, Outline.putRecord, Root.put, Outline.putRecord, refill, refill, refill,
      fillFields_fillFields_put fs ts us]
  | seq items => congrArg seq
      (fillEach_fillEach_put (fun v chosen ts us ↦ fill_fill_put chosen v ts us) items ts us)
  | ref v => congrArg ref (refill_refill_put ts us v)
  | bool _ => rfl
  | int _ => rfl
  | float _ => rfl
  | text _ => rfl
  | timestamp _ => rfl
  | null => rfl

end Value

end Shroud
