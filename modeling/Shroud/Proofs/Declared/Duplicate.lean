import Shroud.Proofs.Declared.Holding

/-!
# A duplicate has its targets to itself

Duplication puts new cells on top of the heap and leaves the old ones as they are.  The duplicate
holds exactly the new cells, and its contents are those of the original: `exists_duplicate`.

Duplication replaces pointers one by one, so what has to be said of it is said of any computation
that puts something on top of a heap: `Makes`.
-/

set_option autoImplicit false

namespace Shroud.Heap

/-! ## Making data on top of a heap -/

section

variable {α β γ δ ι κ : Type}

/-- From any heap, `make` puts new cells on top; what it returns holds these cells, and with every
target written out in its place it is `c`. -/
def Makes (holds : Heap → Nat → α → β → Nat → Prop) (make : StateM Heap α) (c : β) : Prop :=
  ∀ heap, ∃ x newer, make.run heap = (x, newer ++ heap) ∧
    holds (newer ++ heap) heap.length x c (newer ++ heap).length

variable {holds : Heap → Nat → α → β → Nat → Prop} {holds' : Heap → Nat → γ → δ → Nat → Prop}
  {whole : Heap → Nat → ι → κ → Nat → Prop} {make : StateM Heap α} {make' : StateM Heap γ}
  {c : β} {d : δ} {e : κ}

/-- What holds nothing is made from nothing. -/
theorem makes_pure {x : α} (h : ∀ heap a, holds heap a x c a) : Makes holds (pure x) c :=
  fun heap ↦ ⟨x, [], rfl, h heap heap.length⟩

theorem Makes.map (h : Makes holds make c) {f : α → ι}
    (hf : ∀ heap a x b, holds heap a x c b → whole heap a (f x) e b) :
    Makes whole (f <$> make) e := by
  intro heap
  obtain ⟨x, newer, hrun, hx⟩ := h heap
  refine ⟨f x, newer, ?_, hf _ _ x _ hx⟩
  rw [StateT.run_map, hrun]
  rfl

/-- What is made second leaves the cells of what was made first as they are. -/
theorem Makes.bind (h : Makes holds make c) (h' : Makes holds' make' d) {f : α → γ → ι}
    (hframe : ∀ {heap heap' : Heap} {a b : Nat} {x : α}, holds heap a x c b →
      Agree heap heap' a b → holds heap' a x c b)
    (hf : ∀ {heap : Heap} {a b k : Nat} {x : α} {y : γ}, holds heap a x c b →
      holds' heap b y d k → whole heap a (f x y) e k) :
    Makes whole (do let x ← make; return f x (← make')) e := by
  intro heap
  obtain ⟨x, newer, hrun, hx⟩ := h heap
  obtain ⟨y, newer', hrun', hy⟩ := h' (newer ++ heap)
  have hkept := hframe hx (agree_append (Nat.le_refl _) newer')
  refine ⟨f x y, newer' ++ newer, ?_, ?_⟩
  · rw [StateT.run_bind, hrun]
    show (do let y ← make'; return f x y : StateM Heap ι).run (newer ++ heap) = _
    rw [StateT.run_bind, hrun', List.append_assoc]
    rfl
  · rw [List.append_assoc]
    exact hf hkept hy

end

/-! ## Making data in the place of pointers -/

section

variable {π : Type} {f : π → StateM Heap Linked} {g : π → Plain}

mutual

/-- Data is made when something is made for each of its pointers. -/
theorem makes_substM (h : ∀ p, Makes Holds (f p) (g p)) :
    ∀ x : Declared π, Makes Holds (x.substM f) (x.subst g)
  | .scalar x => makes_pure fun _ ↦ .scalar x
  | .text s => makes_pure fun _ ↦ .text s
  | .moment t => makes_pure fun _ ↦ .moment t
  | .absent => makes_pure fun _ ↦ .absent
  | .present x => by
    rw [Declared.substM, bind_pure_comp]
    exact (makes_substM h x).map fun _ _ _ _ ↦ .present
  | .owned x => by
    rw [Declared.substM, bind_pure_comp]
    exact (makes_substM h x).map fun _ _ _ _ ↦ .owned
  | .pointer p => h p
  | .list items => by
    rw [Declared.substM, bind_pure_comp]
    exact (makes_substItemsM h items).map fun _ _ _ _ ↦ .list
  | .dict entries => by
    rw [Declared.substM, bind_pure_comp]
    exact (makes_substEntriesM h entries).map fun _ _ _ _ ↦ .dict
  | .table entries => by
    rw [Declared.substM, bind_pure_comp]
    exact (makes_substEntriesM h entries).map fun _ _ _ _ ↦ .table
  | .record ⟨name, fs⟩ => by
    rw [Declared.substM, bind_pure_comp]
    exact (makes_substFieldsM h fs).map fun _ _ _ _ ↦ .record name
  | .dynamic v => makes_pure fun _ ↦ .dynamic v

theorem makes_substItemsM (h : ∀ p, Makes Holds (f p) (g p)) :
    ∀ items : List (Declared π), Makes HoldsItems (Declared.substItemsM f items)
      (Id.run (Declared.substItemsM (fun p ↦ pure (g p)) items))
  | [] => makes_pure fun _ ↦ .nil
  | x :: rest => by
    rw [Declared.substItemsM]
    exact (makes_substM h x).bind (makes_substItemsM h rest) Holds.congr .cons

theorem makes_substEntriesM (h : ∀ p, Makes Holds (f p) (g p)) :
    ∀ entries : List (Key × Declared π), Makes HoldsEntries (Declared.substEntriesM f entries)
      (Id.run (Declared.substEntriesM (fun p ↦ pure (g p)) entries))
  | [] => makes_pure fun _ ↦ .nil
  | (k, x) :: rest => by
    rw [Declared.substEntriesM]
    exact (makes_substM h x).bind (makes_substEntriesM h rest) Holds.congr (.cons k)

theorem makes_substFieldsM (h : ∀ p, Makes Holds (f p) (g p)) :
    ∀ fs : List (Field (List Tag) (Declared π)), Makes HoldsFields (Declared.substFieldsM f fs)
      (Id.run (Declared.substFieldsM (fun p ↦ pure (g p)) fs))
  | [] => makes_pure fun _ ↦ .nil
  | ⟨name, tags, x⟩ :: rest => by
    rw [Declared.substFieldsM]
    exact (makes_substM h x).bind (makes_substFieldsM h rest) Holds.congr (.cons name tags)

end

end

/-! ## Duplicates -/

/-- A new cell with what was made, under a pointer to it. -/
theorem makes_alloc {make : StateM Heap Linked} {c : Plain} (h : Makes Holds make c) :
    Makes Holds (Declared.pointer <$> (make >>= alloc)) (.owned c) := by
  intro heap
  obtain ⟨x, newer, hrun, hx⟩ := h heap
  refine ⟨.pointer (newer ++ heap).length, ⟨1, x⟩ :: newer, ?_, ?_⟩
  · rw [StateT.run_map, StateT.run_bind, hrun]
    rfl
  · exact .pointer (find?_length _ _) (hx.congr (agree_append (Nat.le_refl _) [_]))

/-- A duplicate of a target, under a pointer to it. -/
theorem makes_target (base : Heap) (h : Handle) :
    Makes Holds (Declared.pointer <$> (find? (build copyOf base) h).getD (alloc .absent))
      (.owned (target base h)) := by
  induction base generalizing h with
  | nil => exact makes_alloc (makes_pure fun _ ↦ .absent)
  | cons c older ih =>
    rw [target, build, build, find?, find?, length_build, length_build]
    split
    · exact makes_alloc (makes_substM ih c.content)
    · exact ih h

/-- **A duplicate stands on top of the old cells, holds the new ones, and has the same contents.** -/
theorem exists_duplicate (heap : Heap) (x : Linked) :
    ∃ y newer, (duplicate x).run heap = (y, newer ++ heap) ∧
      Holds (newer ++ heap) heap.length y (contents heap x) (newer ++ heap).length :=
  makes_substM (makes_target heap) x heap

end Shroud.Heap
