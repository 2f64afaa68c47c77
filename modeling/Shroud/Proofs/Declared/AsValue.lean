import Shroud.Proofs.Annotation.Tags
import Shroud.Proofs.Declared.Linked
import Shroud.Proofs.Outline.Calls
import Shroud.Value.Outline

/-!
# Declared data as dynamic values

Declared data and dynamic values show themselves to a walk each in its own way: the one by its
layout, with the annotations of its declaration, the other by what it says of itself.
`Declared.toValue` describes the same data as a dynamic value, and `Declared.transform_toValue` says
that this makes no difference to a walk: it calls the leaf with the same texts in the same order,
fails in the same way, and ends with the description of its result.

A sequence of any sort is described by a sequence.  Dynamic values have no maps and not every scalar;
what stands for these in a description is left open (`StandIns`), as long as a walk finds nothing in
it.
-/

set_option autoImplicit false

namespace Shroud

/-! ## Descriptions -/

/-- What stands for data that dynamic values do not have.  In the place of a field a walk sees
neither a text nor a record nor a timestamp there. -/
structure StandIns where
  scalar : Scalar → Value
  dict : List (Key × Plain) → Value
  outline_scalar : ∀ x, (scalar x).outline = .other
  outline_dict : ∀ entries, (dict entries).outline = .other

/-- A value that is passed over takes no texts. -/
theorem Value.fill_of_other (o : Outline) : ∀ v : Value, v.outline = .other → v.fill o = v
  | ref v, h => congrArg ref (fill_of_other o v h)
  | bool _, _ => rfl
  | int _, _ => rfl
  | float _, _ => rfl
  | timestamp _, _ => rfl
  | null, _ => rfl
  | seq _, _ => rfl

namespace Declared

/-- A scalar or a map, perhaps an optional one or in a target of its own. -/
def isBare : Plain → Bool
  | scalar _ => true
  | dict _ => true
  | table _ => true
  | present x => isBare x
  | owned x => isBare x
  | _ => false

variable (S : StandIns)

mutual

/-- The data as a dynamic value: optional values and owned targets are references, the fields of a
record have their names and the annotations of their declaration, and the rest has its stand-ins. -/
def toValue : Plain → Value
  | text s => .text s
  | moment t => .timestamp t
  | absent => .null
  | present x => .ref (toValue x)
  | owned x => .ref (toValue x)
  | pointer p => nomatch p
  | list items => .seq (toValues items)
  | record ⟨name, fs⟩ => .record ⟨name, toValueFields fs⟩
  | dynamic v => v
  | scalar x => S.scalar x
  | dict entries => S.dict entries
  | table entries => S.dict entries

/-- The elements as dynamic values. -/
def toValues : List Plain → List Value
  | [] => []
  | x :: rest => toValue x :: toValues rest

/-- The fields as fields of a dynamic record. -/
def toValueFields : List (Field (List Tag) Plain) → List (Field TagMap Value)
  | [] => []
  | ⟨name, tags, x⟩ :: rest => ⟨name, .ofDeclared tags, toValue x⟩ :: toValueFields rest

end

/-! ## The same outline -/

mutual

theorem outline_toValue : ∀ x : Plain, (toValue S x).outline = x.outline nofun
  | text _ => rfl
  | moment _ => rfl
  | absent => rfl
  | present x => outline_toValue x
  | owned x => outline_toValue x
  | pointer p => nomatch p
  | list _ => rfl
  | record ⟨name, fs⟩ => by
    rw [toValue, Value.outline, outline, outlineFields_toValueFields fs]
  | dynamic _ => rfl
  | scalar x => S.outline_scalar x
  | dict entries => S.outline_dict entries
  | table entries => S.outline_dict entries

theorem outlineFields_toValueFields : ∀ fs : List (Field (List Tag) Plain),
    Value.outlineFields (toValueFields S fs) = outlineFields nofun fs
  | [] => rfl
  | ⟨name, tags, x⟩ :: rest => by
    rw [toValueFields, Value.outlineFields, outlineFields, TagMap.get?_ofDeclared,
      outline_toValue x, outlineFields_toValueFields rest]

end

theorem map_outline_toValues (items : List Plain) :
    (toValues S items).map Value.outline = items.map (outline nofun) := by
  induction items with
  | nil => rfl
  | cons x rest ih => rw [toValues, List.map_cons, List.map_cons, outline_toValue, ih]

theorem root_toValue : ∀ x : Plain, x.isBare = false → (toValue S x).root = x.root nofun
  | text _, _ => rfl
  | moment _, _ => rfl
  | absent, _ => rfl
  | present x, h => root_toValue x h
  | owned x, h => root_toValue x h
  | pointer p, _ => nomatch p
  | list items, _ => congrArg Root.sequence (map_outline_toValues S items)
  | record ⟨name, fs⟩, _ => by
    rw [toValue, Value.root, root, outlineFields_toValueFields S fs]
  | dynamic _, _ => rfl

/-! ## The same texts put back -/

mutual

theorem toValue_fill : ∀ (x : Plain) (o : Outline), toValue S (x.fill o) = (toValue S x).fill o
  | text _, o => by cases o <;> rfl
  | moment _, _ => rfl
  | absent, _ => rfl
  | present x, o => congrArg Value.ref (toValue_fill x o)
  | owned x, o => congrArg Value.ref (toValue_fill x o)
  | pointer p, _ => nomatch p
  | list _, _ => rfl
  | record ⟨name, fs⟩, o => by
    cases o with
    | record r =>
      obtain ⟨_, os⟩ := r
      rw [fill, toValue, toValue, Value.fill, toValueFields_fillFields fs os]
    | _ => rfl
  | dynamic _, _ => rfl
  | scalar x, o => (Value.fill_of_other o _ (S.outline_scalar x)).symm
  | dict entries, o => (Value.fill_of_other o _ (S.outline_dict entries)).symm
  | table entries, o => (Value.fill_of_other o _ (S.outline_dict entries)).symm

theorem toValueFields_fillFields :
    ∀ (fs : List (Field (List Tag) Plain)) (os : List (Field Lookup Outline)),
      toValueFields S (fillFields fs os) = Value.fillFields (toValueFields S fs) os
  | [], _ => rfl
  | _ :: _, [] => rfl
  | ⟨name, tags, x⟩ :: rest, o :: os => by
    rw [fillFields, toValueFields, toValueFields, Value.fillFields, toValue_fill x o.value,
      toValueFields_fillFields rest os]

end

theorem toValues_zipWith (items : List Plain) (os : List Outline) :
    toValues S (List.zipWith fill items os) = fillEach (toValues S items) os := by
  induction items generalizing os with
  | nil => rfl
  | cons x rest ih =>
    cases os with
    | nil => rfl
    | cons o os =>
      rw [List.zipWith_cons_cons, toValues, toValues, toValue_fill, ih]
      rfl

theorem toValue_refill (r : Root) : ∀ x : Plain, x.isBare = false →
    toValue S (x.refill r) = (toValue S x).refill r
  | text _, _ => rfl
  | moment _, _ => rfl
  | absent, _ => rfl
  | present x, h => congrArg Value.ref (toValue_refill r x h)
  | owned x, h => congrArg Value.ref (toValue_refill r x h)
  | pointer p, _ => nomatch p
  | list items, _ => by
    cases r with
    | sequence os => exact congrArg Value.seq (toValues_zipWith S items os)
    | _ => rfl
  | record ⟨name, fs⟩, _ => by
    cases r with
    | record r =>
      obtain ⟨_, os⟩ := r
      rw [refill, toValue, toValue, Value.refill, toValueFields_fillFields S fs os]
    | _ => rfl
  | dynamic _, _ => rfl

/-! ## The same walk -/

/-- The result of a walk of linked data, described as a dynamic value. -/
def described {σ ε : Type} : EStateM.Result (Failure ε) (σ × Heap) Linked →
    EStateM.Result (Failure ε) σ Value
  | .ok y s => .ok (toValue S (Heap.contents s.2 y)) s.1
  | .error e s => .error e s.1

section

variable {σ ε : Type} (p : Pass σ ε)

theorem transform_toValue_plain {x : Plain} (hx : x.isBare = false) :
    transform p (toValue S x) = toValue S <$> transform p x :=
  transform_map p (toValue S) x (root_toValue S x hx) fun r ↦ (toValue_refill S r x hx).symm

theorem transform_toValue_linked {heap : Heap} {x : Linked}
    (hx : (Heap.contents heap x).isBare = false) (s : σ) :
    transform p (toValue S (Heap.contents heap x)) s =
      described S (Heap.transform p x (s, heap)) := by
  have hwritten := Heap.writtenOut_transform p x s heap
  rw [transform_toValue_plain S p hx, map_eq_pure_bind]
  cases h : Heap.transform p x (s, heap) with
  | ok y s₁ =>
    rw [h] at hwritten
    exact bind_of_ok hwritten.symm
  | error e s₁ =>
    rw [h] at hwritten
    exact bind_of_error hwritten.symm

/-- **Declared data is walked as the dynamic value that describes it.**  Whatever the key, the
marker and the leaf are: a walk of the description ends as the walk of the data, with the description
of its result or with the very same failure, and in the same state of the leaf.  So it is with a
record of the calls, which are therefore the same.  The data may be plain, or linked to targets that
others hold too; only a scalar or a map by itself is no start of a walk. -/
theorem transform_toValue :
    (∀ x : Plain, x.isBare = false →
      transform p (toValue S x) = toValue S <$> transform p x ∧
      transform p.recorded (toValue S x) = toValue S <$> transform p.recorded x) ∧
    ∀ (heap : Heap) (x : Linked), (Heap.contents heap x).isBare = false → ∀ s : σ,
      transform p (toValue S (Heap.contents heap x)) s =
        described S (Heap.transform p x (s, heap)) ∧
      ∀ made : List (String × String),
        transform p.recorded (toValue S (Heap.contents heap x)) (s, made) =
          described S (Heap.transform p.recorded x ((s, made), heap)) :=
  ⟨fun _ hx ↦ ⟨transform_toValue_plain S p hx, transform_toValue_plain S p.recorded hx⟩,
    fun _ _ hx s ↦ ⟨transform_toValue_linked S p hx s,
      fun made ↦ transform_toValue_linked S p.recorded hx (s, made)⟩⟩

end

/-- Scalars are described by references to nothing, maps by empty sequences. -/
def nothings : StandIns := ⟨fun _ ↦ .null, fun _ ↦ .seq [], fun _ ↦ rfl, fun _ ↦ rfl⟩

/-- A pass whose leaf counts its calls and refuses the third. -/
def tiring : Pass Nat Unit := ⟨"k", .standard, fun t _ n ↦
  if n < 2 then .ok (t ++ "!") (n + 1) else .error () (n + 1)⟩

/-- A record with two pointers to one target, whose selected text is met behind both of them; a
number and an absent value are annotated too, and one text has two annotations of one key. -/
def twins (rest : List (Field (List Tag) Linked)) : Linked :=
  .record ⟨"Pair", [⟨"a", [], .present (.pointer 0)⟩, ⟨"b", [("log", "encrypt")], .pointer 0⟩,
    ⟨"n", [("log", "encrypt")], .scalar (.int 3)⟩, ⟨"o", [("log", "encrypt")], .absent⟩,
    ⟨"t", [("log", "plain"), ("log", "encrypt")], .text "kept"⟩] ++ rest⟩

/-- The target of both, held by both. -/
def shared : Heap := [⟨2, .record ⟨"Place", [⟨"street", [("log", "encrypt")], .text "x"⟩]⟩⟩]

/-- The description of the pair after a walk that succeeded, with the texts it has then. -/
def describedTwins (x y : String) : Value :=
  let place (s : String) : Value :=
    .ref (.record ⟨"Place", [.tagged "street" (.text s) [("log", "encrypt")]]⟩)
  .record ⟨"Pair", [.tagged "a" (.ref (place x)) [], .tagged "b" (place y) [("log", "encrypt")],
    .tagged "n" .null [("log", "encrypt")], .tagged "o" .null [("log", "encrypt")],
    .tagged "t" (.text "kept") [("log", "plain")]]⟩

/-- Both targets of the duplicate are walked, each once; a third text is refused under its path, in
the linked data as in its description. -/
theorem transform_toValue_twins :
    described nothings (Heap.transform tiring.recorded (twins []) ((0, []), shared)) =
      .ok (describedTwins "x!" "x!") (2, [("x", "k"), ("x", "k")]) ∧
    described nothings (Heap.transform tiring
      (twins [⟨"c", [("log", "encrypt")], .owned (.text "z")⟩]) (0, shared)) =
      .error (.leaf "c" ()) 3 := by
  have hok := ((transform_toValue nothings tiring).2 shared (twins []) rfl 0).2 []
  have herror := ((transform_toValue nothings tiring).2 shared
    (twins [⟨"c", [("log", "encrypt")], .owned (.text "z")⟩]) rfl 0).1
  exact ⟨hok.symm.trans rfl, herror.symm.trans rfl⟩

end Declared

end Shroud
