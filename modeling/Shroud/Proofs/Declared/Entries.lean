import Shroud.Declared.Erased
import Shroud.Proofs.Declared.Linked
import Shroud.Proofs.Outline.Sequence
import Shroud.Proofs.Value.Restorable

/-!
# The same sequence, handed over in different ways

A sequence may be handed to a walk as the elements alone, as a list of declared data, behind
optional values and owned targets, as a dynamic value behind references, or with its type forgotten.
Each of these has a start, and takes new texts back, in a way of its own; but the elements are the
same, and so are the calls, the failure and the elements of the result (`sequence_entries`).

What belongs to whom is settled by `behind` for declared data, by `Heap.transformEach` for elements
with pointers, and by `untyped` for data that is asked for its layout afterwards.
-/

set_option autoImplicit false

namespace Shroud

variable {σ ε : Type}

/-! ## Behind references -/

namespace Value

theorem root_refs (n : Nat) (v : Value) : (refs n v).root = v.root := by
  induction n with
  | zero => rfl
  | succ n ih => exact ih

theorem refill_refs (n : Nat) (v : Value) (r : Root) :
    (refs n v).refill r = refs n (v.refill r) := by
  induction n with
  | zero => rfl
  | succ n ih => exact congrArg ref ih

end Value

/-! ## Elements that take their own texts back -/

namespace Declared

mutual

theorem fill_outline : ∀ x : Plain, x.fill (x.outline nofun) = x
  | text _ => rfl
  | present x => congrArg present (fill_outline x)
  | owned x => congrArg owned (fill_outline x)
  | record ⟨name, fs⟩ => by rw [outline, fill, fillFields_outlineFields fs]
  | dynamic v => congrArg dynamic v.fill_outline
  | pointer p => nomatch p
  | moment _ => rfl
  | scalar _ => rfl
  | absent => rfl
  | list _ => rfl
  | dict _ => rfl
  | table _ => rfl

theorem fillFields_outlineFields :
    ∀ fs : List (Field (List Tag) Plain), fillFields fs (outlineFields nofun fs) = fs
  | [] => rfl
  | ⟨name, tags, x⟩ :: rest => by
    rw [outlineFields, fillFields, fill_outline x, fillFields_outlineFields rest]

end

/-! ## Behind optional values and owned targets -/

/-- What may stand around data without being seen. -/
inductive Shell where
  /-- An optional value that is there. -/
  | present
  /-- A target that belongs to one place. -/
  | owned

variable {π ρ : Type}

/-- The data behind some shells, the first of them outermost. -/
def behind : List Shell → Declared π → Declared π
  | [], x => x
  | .present :: ws, x => present (behind ws x)
  | .owned :: ws, x => owned (behind ws x)

section

variable (ws : List Shell) (x : Declared π)

theorem root_behind (look : π → Sight) : (behind ws x).root look = x.root look := by
  induction ws with
  | nil => rfl
  | cons w ws ih => cases w <;> exact ih

theorem refill_behind (r : Root) : (behind ws x).refill r = behind ws (x.refill r) := by
  induction ws with
  | nil => rfl
  | cons w ws ih =>
    cases w with
    | present => exact congrArg present ih
    | owned => exact congrArg owned ih

theorem substM_behind {m : Type → Type} [Monad m] [LawfulMonad m] (f : π → m (Declared ρ)) :
    (behind ws x).substM f = behind ws <$> x.substM f := by
  induction ws with
  | nil => simp [behind]
  | cons w ws ih => cases w <;> simp [behind, substM, ih]

end

theorem commutes_behind (p : Pass σ ε) (ws : List Shell) (x : Plain) : p.Commutes (behind ws) x :=
  Pass.commutes_of_root (root_behind ws x nofun) (refill_behind ws x)

/-- The elements alone are walked as the list of them. -/
theorem commutes_list (p : Pass σ ε) (xs : List Plain) : p.Commutes list xs :=
  Pass.commutes_of_root rfl fun r ↦ by cases r <;> rfl

theorem commutes_dynamic (p : Pass σ ε) (v : Value) : p.Commutes (dynamic (π := Empty)) v :=
  Pass.commutes_of_root rfl fun _ ↦ rfl

/-- Elements that describe themselves may be declared as such. -/
theorem commutes_map_dynamic (p : Pass σ ε) (vs : List Value) :
    p.Commutes (List.map (dynamic (π := Empty))) vs := by
  refine Pass.commutes_of_root ?_ fun r ↦ ?_
  · simp only [HasRoot.root, List.map_map]
    rfl
  · cases r with
    | sequence os =>
      simp only [HasRoot.refill, fillEach, List.zipWith_map_left, List.map_zipWith]
      rfl
    | _ => rfl

end Declared

theorem Value.commutes_seq (p : Pass σ ε) (n : Nat) (vs : List Value) :
    p.Commutes (fun us ↦ refs n (seq us)) vs :=
  Pass.commutes_of_root (root_refs n _) fun r ↦ by
    cases r <;> exact refill_refs n _ _

/-! ## With the type forgotten -/

/-- A walk of data of a layout that is forgotten meanwhile; a layout is asked for afterwards.  Where
the layout has pointers, the data is given by its contents. -/
def untyped (p : Pass σ ε) (layout asked : Layout) (x : Plain) :
    EStateM (Failure ε) σ (Option Plain) := do
  return (← transform p (Erased.mk layout x)).downcast? asked

/-- **Data of a forgotten layout is walked as it is**, and found again under its own layout and no
other. -/
theorem untyped_eq (p : Pass σ ε) (layout asked : Layout) (x : Plain) :
    untyped p layout asked x =
      (fun y ↦ if layout = asked then some y else none) <$> transform p x := by
  have herased : transform p (Erased.mk layout x) = Erased.mk layout <$> transform p x :=
    transform_map p (Erased.mk layout) x rfl fun _ ↦ rfl
  rw [untyped, herased, bind_pure_comp, Functor.map_map]
  rfl

/-! ## Elements with pointers -/

namespace Heap

/-- A duplicate of each element. -/
def duplicateEach (xs : List Linked) : StateM Heap (List Linked) := do
  let heap ← get
  Declared.substItemsM
    (fun h ↦ Declared.pointer <$> (find? (build copyOf heap) h).getD (alloc .absent)) xs

/-- A copy of the elements with the selected texts replaced: the walk starts from the sequence of
their duplicates. -/
def transformEach (p : Pass σ ε) (xs : List Linked) :
    EStateM (Failure ε) (σ × Heap) (List Linked) :=
  fun (s, heap) ↦
    let (copies, heap) := (duplicateEach xs).run heap
    if p.key.isEmpty then .ok copies (s, heap)
    else match p.elements 0 (copies.map (Declared.outline (look heap))) s with
      | .ok os s =>
        .ok (List.zipWith Declared.fill copies os)
          (s, write (List.zipWith passed copies os).flatten heap)
      | .error e s => .error e (s, heap)

theorem passedRoot_behind (ws : List Declared.Shell) (x : Linked) (r : Root) :
    passedRoot (Declared.behind ws x) r = passedRoot x r := by
  induction ws with
  | nil => rfl
  | cons w ws ih => cases w <;> exact ih

theorem duplicate_behind (ws : List Declared.Shell) (x : Linked) :
    duplicate (Declared.behind ws x) = Declared.behind ws <$> duplicate x := by
  simp only [duplicate, Declared.substM_behind, map_bind]

theorem transform_behind (p : Pass σ ε) (ws : List Declared.Shell) (x : Linked) :
    transform p (Declared.behind ws x) = Declared.behind ws <$> transform p x := by
  funext ⟨s, heap⟩
  cases hdup : (duplicate x).run heap with
  | mk y heap' =>
    have hbehind : (duplicate (Declared.behind ws x)).run heap = (Declared.behind ws y, heap') := by
      rw [duplicate_behind, StateT.run_map, hdup]
      rfl
    by_cases hkey : p.key = ""
    · rw [transform_of_empty hkey hbehind, map_of_ok (transform_of_empty hkey hdup)]
    · have hroot := Declared.root_behind ws y (look heap')
      cases hr : p.root (y.root (look heap')) s with
      | ok r s₁ =>
        rw [transform_of_ok hkey hbehind (hroot ▸ hr), map_of_ok (transform_of_ok hkey hdup hr),
          passedRoot_behind, Declared.refill_behind]
      | error e s₁ =>
        rw [transform_of_error hkey hbehind (hroot ▸ hr),
          map_of_error (transform_of_error hkey hdup hr)]

theorem duplicate_list (xs : List Linked) :
    duplicate (.list xs) = Declared.list <$> duplicateEach xs := by
  simp [duplicate, duplicateEach, Declared.substM]

theorem contents_list (heap : Heap) (xs : List Linked) :
    contents heap (.list xs) = .list (xs.map (contents heap)) := by
  refine congrArg Declared.list ?_
  induction xs with
  | nil => rfl
  | cons x rest ih =>
    rw [List.map_cons, ← ih]
    rfl

/-- **The elements alone are walked as the list of them.** -/
theorem transform_items (p : Pass σ ε) (xs : List Linked) :
    transform p (.list xs) = Declared.list <$> transformEach p xs := by
  funext ⟨s, heap⟩
  cases hdup : (duplicateEach xs).run heap with
  | mk copies heap' =>
    have hlist : (duplicate (.list xs)).run heap = (.list copies, heap') := by
      rw [duplicate_list, StateT.run_map, hdup]
      rfl
    by_cases hkey : p.key = ""
    · have heach : transformEach p xs (s, heap) = .ok copies (s, heap') := by
        simp [transformEach, hdup, hkey]
      rw [transform_of_empty hkey hlist, map_of_ok heach]
    · have hempty : p.key.isEmpty = false := by simpa using hkey
      have hroot : p.root ((Declared.list copies).root (look heap')) =
          Root.sequence <$> p.elements 0 (copies.map (Declared.outline (look heap'))) := by
        rw [Declared.root, Pass.root, bind_pure_comp]
      cases hos : p.elements 0 (copies.map (Declared.outline (look heap'))) s with
      | ok os s₁ =>
        have hr :
            p.root ((Declared.list copies).root (look heap')) s = .ok (.sequence os) s₁ := by
          rw [hroot, map_of_ok hos]
        have heach : transformEach p xs (s, heap) = .ok (List.zipWith Declared.fill copies os)
            (s₁, write (List.zipWith passed copies os).flatten heap') := by
          simp only [transformEach, hdup, hempty, hos, Bool.false_eq_true, if_false]
        rw [transform_of_ok hkey hlist hr, map_of_ok heach]
        rfl
      | error e s₁ =>
        have hr : p.root ((Declared.list copies).root (look heap')) s = .error e s₁ := by
          rw [hroot, map_of_error hos]
        have heach : transformEach p xs (s, heap) = .error e (s₁, heap') := by
          simp only [transformEach, hdup, hempty, hos, Bool.false_eq_true, if_false]
        rw [transform_of_error hkey hlist hr, map_of_error heach]

/-- The elements of a result, with every target written out in its place. -/
def writtenOutEach : EStateM.Result (Failure ε) (σ × Heap) (List Linked) →
    EStateM.Result (Failure ε) σ (List Plain)
  | .ok ys s => .ok (ys.map (contents s.2)) s.1
  | .error e s => .error e s.1

/-- **A walk of elements with pointers is a walk of their contents.** -/
theorem writtenOutEach_transformEach (p : Pass σ ε) (xs : List Linked) (s : σ) (heap : Heap) :
    writtenOutEach (transformEach p xs (s, heap)) =
      Shroud.transform p (xs.map (contents heap)) s := by
  have hwritten := writtenOut_transform p (.list xs) s heap
  rw [transform_items, contents_list, (Declared.commutes_list p _).result] at hwritten
  cases hlinked : transformEach p xs (s, heap) with
  | ok ys s₁ =>
    rw [map_of_ok hlinked, writtenOut, contents_list] at hwritten
    obtain ⟨zs, hplain, hys⟩ := map_eq_ok hwritten.symm
    obtain rfl := Declared.list.inj hys
    exact hplain.symm
  | error e s₁ =>
    rw [map_of_error hlinked] at hwritten
    exact (map_eq_error hwritten.symm).symm

end Heap

/-! ## All the ways -/

open Declared in
/-- **However a sequence is handed over, it is walked alike.**  For dynamic values: as the elements
alone, as a list of declared data, or as a dynamic sequence behind references, the latter two also
behind optional values and owned targets.  For declared data, with pointers or without them: as the
elements alone, or as a list behind optional values and owned targets.  In each way the leaf is
called with the same texts in the same order, and the end is the same failure, or the same elements
in the given form.

The end of it is that of a walk element by element: as many elements as before, in their places, and
those that are no records unchanged; or a failure inside one of the records, under a path that
begins with its index.  The type of what is handed over may be forgotten: the result is found again
under its own layout, and under no other.  Of data with pointers whose type is forgotten this is said
of the contents, of which a walk of the data is a walk. -/
theorem sequence_entries (p : Pass σ ε) (ws : List Shell) :
    (∀ vs : List Value,
      (∀ s, EndsElementwise vs (transform p vs s)) ∧
      p.Commutes (fun us ↦ (behind ws (list (us.map dynamic)) : Plain)) vs ∧
      ∀ n, p.Commutes (fun us ↦ Value.refs n (.seq us)) vs ∧
        p.Commutes (fun us ↦ (behind ws (dynamic (.refs n (.seq us))) : Plain)) vs) ∧
    (∀ xs : List Plain,
      (∀ s, EndsElementwise xs (transform p xs s)) ∧
      p.Commutes (fun ys ↦ (behind ws (list ys) : Plain)) xs) ∧
    (∀ xs : List Linked,
      (Heap.transform p (behind ws (list xs)) =
        (fun ys ↦ behind ws (list ys)) <$> Heap.transformEach p xs ∧
      Heap.transform p.recorded (behind ws (list xs)) =
        (fun ys ↦ behind ws (list ys)) <$> Heap.transformEach p.recorded xs) ∧
      ∀ s heap,
        Heap.writtenOutEach (Heap.transformEach p xs (s, heap)) =
          transform p (xs.map (Heap.contents heap)) s ∧
        ∀ made, Heap.writtenOutEach (Heap.transformEach p.recorded xs ((s, made), heap)) =
          transform p.recorded (xs.map (Heap.contents heap)) (s, made)) ∧
    ∀ (layout asked : Layout) (x : Plain),
      untyped p layout asked x =
        (fun y ↦ if layout = asked then some y else none) <$> transform p x ∧
      untyped p.recorded layout asked x =
        (fun y ↦ if layout = asked then some y else none) <$> transform p.recorded x := by
  refine ⟨fun vs ↦ ⟨transform_list Value.fill_outline p vs, ?_, fun n ↦ ⟨?_, ?_⟩⟩,
    fun xs ↦ ⟨?_, ?_⟩, fun xs ↦ ⟨⟨?_, ?_⟩, fun s heap ↦ ⟨?_, fun made ↦ ?_⟩⟩,
    fun layout asked x ↦ ⟨?_, ?_⟩⟩
  · exact (commutes_behind p ws _).comp ((commutes_list p _).comp (commutes_map_dynamic p vs))
  · exact Value.commutes_seq p n vs
  · exact (commutes_behind p ws _).comp ((commutes_dynamic p _).comp (Value.commutes_seq p n vs))
  · exact transform_list Declared.fill_outline p xs
  · exact (commutes_behind p ws _).comp (commutes_list p xs)
  · rw [Heap.transform_behind, Heap.transform_items, Functor.map_map]
  · rw [Heap.transform_behind, Heap.transform_items, Functor.map_map]
  · exact Heap.writtenOutEach_transformEach p xs s heap
  · exact Heap.writtenOutEach_transformEach p.recorded xs (s, made) heap
  · exact untyped_eq p layout asked x
  · exact untyped_eq p.recorded layout asked x

end Shroud
