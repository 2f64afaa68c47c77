import Shroud.Proofs.Declared.Restorable
import Shroud.Proofs.Value.Masked

/-!
# Declared data with its selected texts masked

The mask of plain data is the data with nothing in the place of the texts that the marker selects,
as it is for dynamic values, which may be part of the data.  Sequences and maps inside a record are
no part of a walk, and so nothing in them is masked.  Data with the same mask is alike for every
walk (`Declared.alike_of_mask_eq`).
-/

set_option autoImplicit false

namespace Shroud

variable {m : Marker}

namespace Declared

/-! ## Masks -/

mutual

/-- The data in the place of a field, which the marker selects or not, with its selected texts
masked. -/
def maskField (m : Marker) (chosen : Bool) : Plain → Plain
  | text s => text (if chosen then "" else s)
  | present x => present (maskField m chosen x)
  | owned x => owned (maskField m chosen x)
  | record ⟨name, fs⟩ => record ⟨name, maskFields m fs⟩
  | dynamic v => dynamic (v.maskField m chosen)
  | x => x

/-- The fields with their selected texts masked. -/
def maskFields (m : Marker) : List (Field (List Tag) Plain) → List (Field (List Tag) Plain)
  | [] => []
  | ⟨name, tags, x⟩ :: rest =>
    ⟨name, tags, maskField m (m.selects (Tags.declared tags).get?) x⟩ :: maskFields m rest

end

/-- The data with its selected texts masked. -/
def mask (m : Marker) : Plain → Plain
  | record ⟨name, fs⟩ => record ⟨name, maskFields m fs⟩
  | list items => list (items.map (maskField m false))
  | present x => present (mask m x)
  | owned x => owned (mask m x)
  | dynamic v => dynamic (v.mask m)
  | x => x

mutual

theorem fill_put_blanks (path : String) (depth : Nat) (chosen : Bool) :
    ∀ x : Plain, x.fill ((x.outline nofun).put m chosen
      (blanks ((x.outline nofun).events m path depth chosen))).1 = maskField m chosen x
  | text s => by cases chosen <;> rfl
  | record ⟨name, fs⟩ => by
    rw [outline, Outline.events, blanks_recordEvents, Outline.put, Outline.putRecord, fill,
      fillFields_put_blanks path (depth + 1) fs, maskField]
  | present x => congrArg present (fill_put_blanks path depth chosen x)
  | owned x => congrArg owned (fill_put_blanks path depth chosen x)
  | dynamic v => congrArg dynamic (v.fill_put_blanks path depth chosen)
  | pointer p => nomatch p
  | moment _ => rfl
  | scalar _ => rfl
  | absent => rfl
  | list _ => rfl
  | dict _ => rfl
  | table _ => rfl

theorem fillFields_put_blanks (path : String) (depth : Nat) :
    ∀ fs : List (Field (List Tag) Plain),
      fillFields fs (Outline.putFields m (outlineFields nofun fs)
        (blanks (Outline.fieldEvents m path depth (outlineFields nofun fs)))).1 = maskFields m fs
  | [] => rfl
  | ⟨name, tags, x⟩ :: rest => by
    have hx := Outline.put_append (m := m) (joinPath path name) depth
      (m.selects (Tags.declared tags).get?) (x.outline nofun) _
      (blanks (Outline.fieldEvents m path depth (outlineFields nofun rest)))
      (length_blanks ((x.outline nofun).events m (joinPath path name) depth
        (m.selects (Tags.declared tags).get?)))
    rw [outlineFields, Outline.fieldEvents, blanks_append, Outline.putFields, hx, fillFields,
      fill_put_blanks (joinPath path name) depth _ x, fillFields_put_blanks path depth rest,
      maskFields]

end

/-- **The mask of data is the data with empty texts put into it.** -/
theorem refill_put_blanks : ∀ x : Plain,
    x.refill ((x.root nofun).put m (blanks ((x.root nofun).events m))) = mask m x
  | record ⟨name, fs⟩ => by
    rw [root, Root.events, blanks_recordEvents, Root.put, Outline.putRecord, refill,
      fillFields_put_blanks "" 1 fs, mask]
  | list items =>
    congrArg list (fillEach_put_blanks (fun x path ↦ fill_put_blanks path 0 false x) 0 items)
  | present x => congrArg present (refill_put_blanks x)
  | owned x => congrArg owned (refill_put_blanks x)
  | dynamic v => congrArg dynamic v.refill_put_blanks
  | pointer p => nomatch p
  | absent => rfl
  | text _ => rfl
  | moment _ => rfl
  | scalar _ => rfl
  | dict _ => rfl
  | table _ => rfl

/-! ## Texts put in again and again -/

mutual

theorem fill_fill_put (chosen : Bool) :
    ∀ (x : Plain) (ts us : List String),
      fill (fill x ((x.outline nofun).put m chosen ts).1) ((x.outline nofun).put m chosen us).1 =
        fill x ((x.outline nofun).put m chosen us).1
  | text s, ts, us => by
    cases chosen with
    | false => rfl
    | true => cases ts <;> cases us <;> rfl
  | record ⟨name, fs⟩, ts, us => by
    rw [outline, Outline.put, Outline.putRecord, Outline.put, Outline.putRecord, fill, fill, fill,
      fillFields_fillFields_put fs ts us]
  | present x, ts, us => congrArg present (fill_fill_put chosen x ts us)
  | owned x, ts, us => congrArg owned (fill_fill_put chosen x ts us)
  | dynamic v, ts, us => congrArg dynamic (v.fill_fill_put chosen ts us)
  | pointer p, _, _ => nomatch p
  | moment _, _, _ => rfl
  | scalar _, _, _ => rfl
  | absent, _, _ => rfl
  | list _, _, _ => rfl
  | dict _, _, _ => rfl
  | table _, _, _ => rfl

theorem fillFields_fillFields_put :
    ∀ (fs : List (Field (List Tag) Plain)) (ts us : List String),
      fillFields (fillFields fs (Outline.putFields m (outlineFields nofun fs) ts).1)
        (Outline.putFields m (outlineFields nofun fs) us).1 =
      fillFields fs (Outline.putFields m (outlineFields nofun fs) us).1
  | [], _, _ => rfl
  | ⟨name, tags, x⟩ :: rest, ts, us => by
    rw [outlineFields, Outline.putFields, Outline.putFields, fillFields, fillFields, fillFields,
      fill_fill_put _ x, fillFields_fillFields_put rest]

end

theorem refill_refill_put (ts us : List String) :
    ∀ x : Plain, refill (refill x ((x.root nofun).put m ts)) ((x.root nofun).put m us) =
      refill x ((x.root nofun).put m us)
  | record ⟨name, fs⟩ => by
    rw [root, Root.put, Outline.putRecord, Root.put, Outline.putRecord, refill, refill, refill,
      fillFields_fillFields_put fs ts us]
  | list items => congrArg list
      (fillEach_fillEach_put (fun x chosen ts us ↦ fill_fill_put chosen x ts us) items ts us)
  | present x => congrArg present (refill_refill_put ts us x)
  | owned x => congrArg owned (refill_refill_put ts us x)
  | dynamic v => congrArg dynamic (v.refill_refill_put ts us)
  | pointer p => nomatch p
  | absent => rfl
  | text _ => rfl
  | moment _ => rfl
  | scalar _ => rfl
  | dict _ => rfl
  | table _ => rfl

end Declared

end Shroud
