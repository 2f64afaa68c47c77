import Shroud.Proofs.Declared.Linked
import Shroud.Proofs.Outline.Calls
import Shroud.Proofs.Value.Place

/-!
# Sharing is invisible

Two pointers may lead to one target, and a target may be held from outside.  A walk of such data
ends as a walk of data with equal contents in which every pointer has a target of its own
(`sharing_unseen`): so what stands behind a shared pointer is walked once for each of its
occurrences, each time as the field that holds it is annotated.

The reason is in the duplicate.  A pointer to a shared target is passed over as `other`; but at no
place of a duplicate is there such a pointer, and what is seen there is what is seen at the same
place of the contents (`map_outline_part?`).  The targets of the original stand below the new cells
and are not touched, however the walk ends.
-/

set_option autoImplicit false

namespace Shroud

/-! ## Parts -/

namespace Declared

variable {π : Type}

open Value (Place)

/-- The part of data at a place.  Optional values, owned targets and pointers are ways to a target,
and the entries of a map count as elements; `follow` gives the targets of pointers. -/
def part? (follow : π → Option (Declared π)) : Place → Declared π → Option (Declared π)
  | [], x => some x
  | .target :: q, present x => part? follow q x
  | .target :: q, owned x => part? follow q x
  | .target :: q, pointer p => (follow p).bind (part? follow q)
  | .element i :: q, list xs => xs[i]?.bind (part? follow q)
  | .element i :: q, dict es => es[i]?.bind fun e ↦ part? follow q e.2
  | .element i :: q, table es => es[i]?.bind fun e ↦ part? follow q e.2
  | .field i :: q, record r => r.fields[i]?.bind fun f ↦ part? follow q f.value
  | _, _ => none

end Declared

namespace Heap

open Declared (part?)
open Value (Place)

/-- The content of the cell to which a pointer leads. -/
def follow (heap : Heap) (h : Handle) : Option Linked := (find? heap h).map Cell.content

/-- The data holds targets of its own, somewhere in the heap, and with these written out it is
`c`. -/
def Mirrors (heap : Heap) (x : Linked) (c : Plain) : Prop := ∃ a b, Holds heap a x c b

section

variable {heap : Heap} {a b : Nat}

theorem HoldsItems.getElem? {xs : List Linked} {cs : List Plain} (h : HoldsItems heap a xs cs b)
    (i : Nat) : Option.Rel (Mirrors heap) xs[i]? cs[i]? := by
  induction cs generalizing xs a i with
  | nil =>
    cases h
    exact .none
  | cons c cs ih =>
    obtain _ | ⟨hx, hxs⟩ := h
    cases i with
    | zero => exact .some ⟨_, _, hx⟩
    | succ i => exact ih hxs i

theorem HoldsEntries.getElem? {xs : List (Key × Linked)} {cs : List (Key × Plain)}
    (h : HoldsEntries heap a xs cs b) (i : Nat) :
    Option.Rel (fun x c ↦ Mirrors heap x.2 c.2) xs[i]? cs[i]? := by
  induction cs generalizing xs a i with
  | nil =>
    cases h
    exact .none
  | cons c cs ih =>
    obtain _ | ⟨k, hx, hxs⟩ := h
    cases i with
    | zero => exact .some ⟨_, _, hx⟩
    | succ i => exact ih hxs i

theorem HoldsFields.getElem? {fs : List (Field (List Tag) Linked)}
    {gs : List (Field (List Tag) Plain)} (h : HoldsFields heap a fs gs b) (i : Nat) :
    Option.Rel (fun f g ↦ Mirrors heap f.value g.value) fs[i]? gs[i]? := by
  induction gs generalizing fs a i with
  | nil =>
    cases h
    exact .none
  | cons g gs ih =>
    obtain _ | ⟨name, tags, hx, hfs⟩ := h
    cases i with
    | zero => exact .some ⟨_, _, hx⟩
    | succ i => exact ih hfs i

/-- What is related has related parts. -/
theorem rel_bind {α β γ δ : Type} {r : α → β → Prop} {t : γ → δ → Prop} {x : Option α}
    {y : Option β} {f : α → Option γ} {g : β → Option δ} (h : Option.Rel r x y)
    (hfg : ∀ a b, r a b → Option.Rel t (f a) (g b)) : Option.Rel t (x.bind f) (y.bind g) := by
  cases h with
  | none => exact .none
  | some hab => exact hfg _ _ hab

/-- What is related looks the same to whoever cannot tell related things apart. -/
theorem map_eq_of_rel {α β γ : Type} {r : α → β → Prop} {x : Option α} {y : Option β} {f : α → γ}
    {g : β → γ} (h : Option.Rel r x y) (hfg : ∀ a b, r a b → f a = g b) : x.map f = y.map g := by
  cases h with
  | none => rfl
  | some hab => exact congrArg some (hfg _ _ hab)

/-- **The parts of data with its own targets have their own targets**, and stand for the parts of
its contents. -/
theorem Mirrors.part? {x : Linked} {c : Plain} (h : Mirrors heap x c) (q : Place) :
    Option.Rel (Mirrors heap) (part? (follow heap) q x) (part? nofun q c) := by
  induction q generalizing x c with
  | nil => exact .some h
  | cons hop q ih =>
    obtain ⟨a, b, h⟩ := h
    cases h with
    | present hx =>
      cases hop with
      | target => exact ih ⟨_, _, hx⟩
      | _ => exact .none
    | owned hx =>
      cases hop with
      | target => exact ih ⟨_, _, hx⟩
      | _ => exact .none
    | pointer hcell hx =>
      cases hop with
      | target =>
        simp only [Declared.part?, follow, hcell, Option.map_some, Option.bind_some]
        exact ih ⟨_, _, hx⟩
      | _ => exact .none
    | list hxs =>
      cases hop with
      | element i => exact rel_bind (hxs.getElem? i) fun _ _ hx ↦ ih hx
      | _ => exact .none
    | dict hxs =>
      cases hop with
      | element i => exact rel_bind (hxs.getElem? i) fun _ _ hx ↦ ih hx
      | _ => exact .none
    | table hxs =>
      cases hop with
      | element i => exact rel_bind (hxs.getElem? i) fun _ _ hx ↦ ih hx
      | _ => exact .none
    | record name hfs =>
      cases hop with
      | field i => exact rel_bind (hfs.getElem? i) fun _ _ hx ↦ ih hx
      | _ => exact .none
    | _ => cases hop <;> exact .none

/-- **At each place of data with its own targets a walk sees what it sees there in the
contents.** -/
theorem map_outline_part? {x : Linked} {c : Plain} (h : Mirrors heap x c) (q : Place) :
    (part? (follow heap) q x).map (Declared.outline (look heap)) =
      (part? nofun q c).map (Declared.outline nofun) := by
  refine map_eq_of_rel (h.part? q) fun y d hyd ↦ ?_
  obtain ⟨a, b, hyd⟩ := hyd
  exact hyd.outline_eq fun _ _ _ ↦ rfl

end

/-! ## What stands below -/

section

variable {heap : Heap} {h : Nat}

/-- What is made for a cell does not change when newer cells come. -/
theorem find?_build_append {α : Type} (make : (Handle → Option α) → Cell → α)
    (hh : h < heap.length) (newer : Heap) :
    find? (build make (newer ++ heap)) h = find? (build make heap) h := by
  induction newer with
  | nil => rfl
  | cons c newer ih =>
    have hlt : h < (build make (newer ++ heap)).length := by
      rw [length_build, List.length_append]
      omega
    rw [← ih]
    exact find?_append hlt [_]

/-- **A target that others may change is passed over.** -/
theorem look_of_shared {c : Cell} (hc : find? heap h = some c) (hshared : c.holders ≠ 1) :
    look heap h = hidden := by
  obtain ⟨known, hmade, -⟩ := find?_build sightOf hc
  rw [look, hmade, Option.getD_some, sightOf, if_neg hshared]

end

/-! ## Walks of shared data -/

section

variable {σ ε : Type} (p : Pass σ ε) (x : Linked) (s : σ) (heap : Heap)

/-- **A walk leaves the original alone**, however it ends: its cells, the targets in them, and what
is seen of these. -/
theorem original_unchanged {h : Handle} {c : Cell} (hc : find? heap h = some c) :
    find? (heapAfter (transform p x (s, heap))) h = some c ∧
    target (heapAfter (transform p x (s, heap))) h = target heap h ∧
    look (heapAfter (transform p x (s, heap))) h = look heap h := by
  obtain ⟨newer, hafter⟩ := exists_newer_transform p x s heap
  have hlt := lt_of_find? hc
  rw [hafter, find?_append hlt, target, look, find?_build_append contentOf hlt,
    find?_build_append sightOf hlt]
  exact ⟨hc, rfl, rfl⟩

/-- **Sharing is invisible.**  A walk calls the leaf with the same texts in the same order, and ends
with the same failure or with the same contents, as a walk of the contents with every target written
out in its place, or of any data with these contents: in particular of data whose pointers have a
target each.

The duplicate that is walked is such data.  It holds the new cells, each through one pointer, and at
each of its places a walk sees what it sees there in the contents.  In the original, a pointer to a
target that has other holders is seen as `other`, and nothing behind it.  Whatever cells were there
are there after the walk, failed or not, with their targets as they were. -/
theorem sharing_unseen (made : List (String × String)) :
    (writtenOut (transform p x (s, heap)) = Shroud.transform p (contents heap x) s ∧
      writtenOut (transform p.recorded x ((s, made), heap)) =
        Shroud.transform p.recorded (contents heap x) (s, made)) ∧
    (∀ heap' y, contents heap' y = contents heap x →
      writtenOut (transform p y (s, heap')) = writtenOut (transform p x (s, heap)) ∧
      writtenOut (transform p.recorded y ((s, made), heap')) =
        writtenOut (transform p.recorded x ((s, made), heap))) ∧
    (∃ y newer, (duplicate x).run heap = (y, newer ++ heap) ∧
      Holds (newer ++ heap) heap.length y (contents heap x) (newer ++ heap).length ∧
      y.root (look (newer ++ heap)) = (contents heap x).root nofun ∧
      ∀ q, (part? (follow (newer ++ heap)) q y).map (Declared.outline (look (newer ++ heap))) =
        (part? nofun q (contents heap x)).map (Declared.outline nofun)) ∧
    ∀ h c, find? heap h = some c →
      (c.holders ≠ 1 → ((Declared.pointer h).outline (look heap)).kind = "other") ∧
      find? (heapAfter (transform p x (s, heap))) h = some c ∧
      target (heapAfter (transform p x (s, heap))) h = target heap h ∧
      look (heapAfter (transform p x (s, heap))) h = look heap h := by
  have hplain := writtenOut_transform p x s heap
  have hcalls := writtenOut_transform p.recorded x (s, made) heap
  refine ⟨⟨hplain, hcalls⟩, fun heap' y hy ↦ ⟨?_, ?_⟩, ?_, fun h c hc ↦ ⟨fun hshared ↦ ?_, ?_⟩⟩
  · rw [writtenOut_transform p y s heap', hy, hplain]
  · rw [writtenOut_transform p.recorded y (s, made) heap', hy, hcalls]
  · obtain ⟨y, newer, hdup, hy⟩ := exists_duplicate heap x
    exact ⟨y, newer, hdup, hy, hy.root_eq fun _ _ _ ↦ rfl, map_outline_part? ⟨_, _, hy⟩⟩
  · show (look heap h).inner.kind = "other"
    rw [look_of_shared hc hshared]
    rfl
  · exact original_unchanged p x s heap hc

end

/-- A leaf that answers as often as its state says, and then refuses. -/
def spending : Pass Nat Unit := ⟨"k", .standard, fun t _ n ↦
  if n = 0 then .error () n else .ok (t ++ "!") (n - 1)⟩

/-- Three fields with pointers to texts; the second is not annotated. -/
def trio (a b c : Handle) : Linked :=
  .record ⟨"Trio", [⟨"a", [("log", "encrypt")], .pointer a⟩, ⟨"b", [], .present (.pointer b)⟩,
    ⟨"c", [("log", "encrypt")], .pointer c⟩]⟩

/-- A text under all three pointers, and held from outside too. -/
def common : Heap := [⟨4, .text "x"⟩]

/-- The same text three times, for one pointer each. -/
def separate : Heap := List.replicate 3 ⟨1, .text "x"⟩

/-- The contents of three fields, the second not annotated. -/
def trioOf (a b c : String) : Plain :=
  .record ⟨"Trio", [⟨"a", [("log", "encrypt")], .owned (.text a)⟩,
    ⟨"b", [], .present (.owned (.text b))⟩, ⟨"c", [("log", "encrypt")], .owned (.text c)⟩]⟩

/-- One text under three pointers is walked as three texts: replaced where a field is annotated and
kept where it is not.  If the leaf refuses it in the last field, the text is as it was. -/
theorem sharing_unseen_trio :
    writtenOut (transform spending.recorded (trio 0 0 0) ((2, []), common)) =
      .ok (trioOf "x!" "x" "x!") (0, [("x", "k"), ("x", "k")]) ∧
    writtenOut (transform spending.recorded (trio 2 1 0) ((2, []), separate)) =
      .ok (trioOf "x!" "x" "x!") (0, [("x", "k"), ("x", "k")]) ∧
    ((Declared.pointer 0).outline (look common)).kind = "other" ∧
    writtenOut (transform spending (trio 0 0 0) (1, common)) = .error (.leaf "c" ()) 0 ∧
    target (heapAfter (transform spending (trio 0 0 0) (1, common))) 0 = .text "x" := by
  obtain ⟨⟨-, hcalls⟩, hequal, -, -⟩ := sharing_unseen spending (trio 0 0 0) 2 common []
  obtain ⟨⟨hplain, -⟩, -, -, hcells⟩ := sharing_unseen spending (trio 0 0 0) 1 common []
  obtain ⟨hkind, -, htarget, -⟩ := hcells 0 _ rfl
  have hapart := (hequal separate (trio 2 1 0) rfl).2
  exact ⟨hcalls.trans rfl, hapart.trans (hcalls.trans rfl), hkind (by decide), hplain.trans rfl,
    htarget.trans rfl⟩

end Heap

end Shroud
