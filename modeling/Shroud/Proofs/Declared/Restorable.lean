import Shroud.Declared.Outline
import Shroud.Proofs.Value.Restorable

/-!
# Declared data can be restored

Plain data keeps the form of its outline when texts are put into it, and its own outline brings its
own texts back (`Declared.restorable`).  Sequences and maps inside a record are no part of a walk:
they have no texts to be replaced, and stay.
-/

set_option autoImplicit false

namespace Shroud

variable {m : Marker}

namespace Declared

/-! ## What is put into an outline is found in the copy -/

mutual

theorem outline_fill_put (chosen : Bool) :
    ∀ (x : Plain) (ts : List String),
      outline nofun (fill x ((outline nofun x).put m chosen ts).1) =
        ((outline nofun x).put m chosen ts).1
  | text s, ts => by
    cases chosen with
    | false => rfl
    | true => cases ts <;> rfl
  | record ⟨name, fs⟩, ts => by
    rw [outline, Outline.put, Outline.putRecord, fill, outline, outlineFields_fill_put fs ts]
  | present x, ts => outline_fill_put chosen x ts
  | owned x, ts => outline_fill_put chosen x ts
  | dynamic v, ts => v.outline_fill_put chosen ts
  | pointer p, _ => nomatch p
  | moment _, _ => rfl
  | scalar _, _ => rfl
  | absent, _ => rfl
  | list _, _ => rfl
  | dict _, _ => rfl
  | table _, _ => rfl

theorem outlineFields_fill_put :
    ∀ (fs : List (Field (List Tag) Plain)) (ts : List String),
      outlineFields nofun (fillFields fs (Outline.putFields m (outlineFields nofun fs) ts).1) =
        (Outline.putFields m (outlineFields nofun fs) ts).1
  | [], _ => rfl
  | ⟨name, tags, x⟩ :: rest, ts => by
    rw [outlineFields, Outline.putFields, fillFields, outlineFields, outline_fill_put _ x ts,
      outlineFields_fill_put rest]

end

/-! ## The own outline brings the own texts back -/

mutual

theorem fill_put_outline (chosen : Bool) :
    ∀ (x : Plain) (ts : List String),
      fill (fill x ((outline nofun x).put m chosen ts).1) (outline nofun x) = x
  | text s, ts => by
    cases chosen with
    | false => rfl
    | true => cases ts <;> rfl
  | record ⟨name, fs⟩, ts => by
    rw [outline, Outline.put, Outline.putRecord, fill, fill, fillFields_put_outline fs ts]
  | present x, ts => congrArg present (fill_put_outline chosen x ts)
  | owned x, ts => congrArg owned (fill_put_outline chosen x ts)
  | dynamic v, ts => congrArg dynamic (v.fill_put_outline chosen ts)
  | pointer p, _ => nomatch p
  | moment _, _ => rfl
  | scalar _, _ => rfl
  | absent, _ => rfl
  | list _, _ => rfl
  | dict _, _ => rfl
  | table _, _ => rfl

theorem fillFields_put_outline :
    ∀ (fs : List (Field (List Tag) Plain)) (ts : List String),
      fillFields (fillFields fs (Outline.putFields m (outlineFields nofun fs) ts).1)
        (outlineFields nofun fs) = fs
  | [], _ => rfl
  | ⟨name, tags, x⟩ :: rest, ts => by
    rw [outlineFields, Outline.putFields, fillFields, fillFields, fill_put_outline _ x ts,
      fillFields_put_outline rest]

end

theorem restorableField (m : Marker) (x : Plain) : RestorableField m x :=
  ⟨fun chosen ts ↦ outline_fill_put chosen x ts, fun chosen ts ↦ fill_put_outline chosen x ts⟩

/-! ## The start of a walk -/

theorem root_refill_put (ts : List String) :
    ∀ x : Plain, root nofun (refill x ((root nofun x).put m ts)) = (root nofun x).put m ts
  | record ⟨name, fs⟩ => by
    rw [root, Root.put, Outline.putRecord, refill, root, outlineFields_fill_put fs ts]
  | list items => (restorable_list (restorableField m) items).root_refill ts
  | present x => root_refill_put ts x
  | owned x => root_refill_put ts x
  | dynamic v => v.root_refill_put ts
  | pointer p => nomatch p
  | absent => rfl
  | text _ => rfl
  | moment _ => rfl
  | scalar _ => rfl
  | dict _ => rfl
  | table _ => rfl

theorem refill_put_root (ts : List String) :
    ∀ x : Plain, refill (refill x ((root nofun x).put m ts)) (root nofun x) = x
  | record ⟨name, fs⟩ => by
    rw [root, Root.put, Outline.putRecord, refill, refill, fillFields_put_outline fs ts]
  | list items => congrArg list ((restorable_list (restorableField m) items).refill_root ts)
  | present x => congrArg present (refill_put_root ts x)
  | owned x => congrArg owned (refill_put_root ts x)
  | dynamic v => congrArg dynamic (v.refill_put_root ts)
  | pointer p => nomatch p
  | absent => rfl
  | text _ => rfl
  | moment _ => rfl
  | scalar _ => rfl
  | dict _ => rfl
  | table _ => rfl

/-- **Plain data can be restored.** -/
theorem restorable (m : Marker) (x : Plain) : Restorable m x :=
  ⟨fun ts ↦ root_refill_put ts x, fun ts ↦ refill_put_root ts x⟩

end Declared

end Shroud
