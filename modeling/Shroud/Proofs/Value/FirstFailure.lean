import Shroud.Proofs.Outline.Calls
import Shroud.Proofs.Value.Trail

/-!
# How a transformation ends

`transform_firstFailure` is the main statement: what occurs in a value, in the order of a walk,
decides how its transformation ends and which calls of the leaf it has made by then.  The first
event that fails is the last that counts; when none fails there is a result.
-/

set_option autoImplicit false

namespace Shroud.Value

variable {σ ε : Type} {p : Pass σ ε} {v : Value} {s s₁ : σ}

/-- The events of a value in the order of a walk. -/
structure IsTrail (m : Marker) (v : Value) (tr : List (Place × Event)) : Prop where
  /-- The first of two events is at the place that is before the other. -/
  inOrder : InOrder tr
  /-- The events are those that occur in the value. -/
  mem_iff : ∀ q e, (q, e) ∈ tr ↔ Occurs m v q e

/-! ## What an end makes of a transformation -/

theorem transform_of_passes (hkey : p.key ≠ "") {as : List String}
    (h : p.Passes s ((root v).events p.marker) as s₁) :
    transform p.recorded v (s, []) =
      .ok (refill v ((root v).put p.marker as))
        (s₁, p.calls (contents ((root v).events p.marker))) := by
  rw [transform_eq p.recorded v hkey, map_eq_pure_bind]
  exact bind_of_ok (h.recorded []).run

/-- A failure after events that pass is the end. -/
theorem transform_of_failure (hkey : p.key ≠ "") {front back : List Event} {as : List String}
    {made : List (String × String)} {s₂ : σ} {f : Failure ε}
    (hevents : (root v).events p.marker = front ++ back) (h : p.Passes s front as s₁)
    (hf : p.recorded.run back (s₁, p.calls (contents front)) = .error f (s₂, made)) :
    transform p.recorded v (s, []) = .error f (s₂, made) := by
  rw [transform_eq p.recorded v hkey, map_eq_pure_bind]
  refine bind_of_error ?_
  have hrun := (h.recorded []).run_append hf
  rwa [← hevents] at hrun

theorem transform_of_refusal (hkey : p.key ≠ "") {front back : List Event} {as : List String}
    {path t : String} {e : ε} {s₂ : σ}
    (hevents : (root v).events p.marker = front ++ .text path t :: back)
    (h : p.Passes s front as s₁) (he : p.leaf t p.key s₁ = .error e s₂) :
    transform p.recorded v (s, []) =
      .error (.leaf path e) (s₂, p.calls (contents front ++ [t])) := by
  refine transform_of_failure hkey hevents h ?_
  rw [Pass.run, Pass.calls_append]
  exact bind_of_error (Pass.replace_of_error (Pass.recorded_leaf_of_error he _) path)

theorem transform_of_tooDeep (hkey : p.key ≠ "") {front back : List Event} {as : List String}
    (hevents : (root v).events p.marker = front ++ .tooDeep :: back)
    (h : p.Passes s front as s₁) :
    transform p.recorded v (s, []) = .error (.tooDeep 128) (s₁, p.calls (contents front)) :=
  transform_of_failure hkey hevents h rfl

theorem transform_of_not_walkable (hkey : p.key ≠ "") (hwalk : ¬ Walkable v) :
    ∃ found, transform p.recorded v (s, []) = .error (.unsupportedShape found) (s, []) := by
  obtain ⟨found, hroot⟩ := root_of_not_walkable v hwalk
  have hevents : (root v).events p.marker = [] ++ [.unsupported found] := by
    rw [hroot, Root.events, List.nil_append]
  have hpasses : p.Passes s [] [] s := ⟨fun _ he ↦ absurd he List.not_mem_nil, rfl⟩
  exact ⟨found, transform_of_failure hkey hevents hpasses rfl⟩

/-! ## The first failure -/

/-- A value has one trail. -/
theorem isTrail_iff {m : Marker} {tr : List (Place × Event)} :
    IsTrail m v tr ↔ tr = rootTrail m v := by
  constructor
  · rintro ⟨horder, hmem⟩
    have hperm : tr.Perm (rootTrail m v) := by
      refine (List.perm_ext_iff_of_nodup (nodup_of_inOrder horder)
        (nodup_of_inOrder (inOrder_rootTrail v))).mpr fun x ↦ ?_
      exact (hmem x.1 x.2).trans mem_rootTrail_iff.symm
    refine hperm.eq_of_pairwise (fun x y _ _ hxy hyx ↦ ?_) horder (inOrder_rootTrail v)
    exact absurd hyx (List.lt_asymm hxy)
  · rintro rfl
    exact ⟨inOrder_rootTrail v, fun _ _ ↦ mem_rootTrail_iff⟩

/-- A split of the events of a walk is a split of its trail. -/
theorem exists_trail_of_events {m : Marker} (hwalk : Walkable v) {front back : List Event}
    {e : Event} (h : (root v).events m = front ++ e :: back) :
    ∃ pre q post, rootTrail m v = pre ++ (q, e) :: post ∧ pre.map Prod.snd = front := by
  rw [← snd_rootTrail hwalk] at h
  obtain ⟨pre, rest, htrail, hpre, hrest⟩ := List.map_eq_append_iff.mp h
  obtain ⟨⟨q, e'⟩, post, rfl, he, -⟩ := List.map_eq_cons_iff.mp hrest
  obtain rfl : e' = e := he
  exact ⟨pre, q, post, htrail, hpre⟩

/-- **How a walk from a walkable value ends**: with a result, at a text that the leaf refuses, or at
a record too deep. -/
theorem transform_cases (hkey : p.key ≠ "") (hwalk : Walkable v) (s : σ) :
    (∃ as s₁ w, p.Passes s ((rootTrail p.marker v).map Prod.snd) as s₁ ∧
      transform p.recorded v (s, []) =
        .ok w (s₁, p.calls (contents ((rootTrail p.marker v).map Prod.snd)))) ∨
    (∃ pre q path t post as s₁ e s₂, rootTrail p.marker v = pre ++ (q, .text path t) :: post ∧
      p.Passes s (pre.map Prod.snd) as s₁ ∧ p.leaf t p.key s₁ = .error e s₂ ∧
      transform p.recorded v (s, []) =
        .error (.leaf path e) (s₂, p.calls (contents (pre.map Prod.snd) ++ [t]))) ∨
    (∃ pre q post as s₁, rootTrail p.marker v = pre ++ (q, .tooDeep) :: post ∧
      p.Passes s (pre.map Prod.snd) as s₁ ∧
      transform p.recorded v (s, []) =
        .error (.tooDeep 128) (s₁, p.calls (contents (pre.map Prod.snd)))) := by
  rcases p.run_cases ((root v).events p.marker) s with ⟨as, s₁, h⟩ |
    ⟨front, path, t, back, as, s₁, e, s₂, hevents, h, he⟩ | ⟨front, e, back, as, s₁, hevents, h, he⟩
  · rw [snd_rootTrail hwalk]
    exact Or.inl ⟨as, s₁, _, h, transform_of_passes hkey h⟩
  · obtain ⟨pre, q, post, htrail, rfl⟩ := exists_trail_of_events hwalk hevents
    exact Or.inr (Or.inl ⟨pre, q, path, t, post, as, s₁, e, s₂, htrail, h, he,
      transform_of_refusal hkey hevents h he⟩)
  · obtain ⟨pre, q, post, htrail, rfl⟩ := exists_trail_of_events hwalk hevents
    have hmem : (q, e) ∈ rootTrail p.marker v := htrail ▸ List.mem_append_right _ List.mem_cons_self
    cases mem_rootTrail_iff.mp hmem with
    | text _ => exact absurd rfl (he _ _)
    | tooDeep _ _ =>
      exact Or.inr (Or.inr ⟨pre, q, post, as, s₁, htrail, h, transform_of_tooDeep hkey hevents h⟩)

theorem events_of_trail {m : Marker} (hwalk : Walkable v) {pre post : List (Place × Event)}
    {q : Place} {e : Event} (h : rootTrail m v = pre ++ (q, e) :: post) :
    (root v).events m = pre.map Prod.snd ++ e :: post.map Prod.snd := by
  rw [← snd_rootTrail hwalk, h, List.map_append, List.map_cons]

section Ends

variable (hkey : p.key ≠ "") (hwalk : Walkable v)
include hkey hwalk

theorem not_unsupported {found : Kind} {st : σ × List (String × String)} :
    transform p.recorded v (s, []) ≠ .error (.unsupportedShape found) st := by
  intro h
  rcases transform_cases hkey hwalk s with ⟨_, _, _, -, h'⟩ |
    ⟨_, _, _, _, _, _, _, _, _, -, -, -, h'⟩ | ⟨_, _, _, _, _, -, -, h'⟩
  all_goals
    rw [h'] at h
    cases h

/-- A transformation ends with a refusal just when the leaf refuses the first text that fails. -/
theorem transform_eq_leaf_iff {path : String} {e : ε} {st : σ × List (String × String)} :
    transform p.recorded v (s, []) = .error (.leaf path e) st ↔
      ∃ pre q t post as s₁ s₂, rootTrail p.marker v = pre ++ (q, .text path t) :: post ∧
        p.Passes s (pre.map Prod.snd) as s₁ ∧ p.leaf t p.key s₁ = .error e s₂ ∧
        st = (s₂, p.calls (contents (pre.map Prod.snd) ++ [t])) := by
  constructor
  · intro h
    rcases transform_cases hkey hwalk s with ⟨_, _, _, -, h'⟩ |
      ⟨pre, q, _, t, post, as, s₁, _, s₂, htrail, hpass, he, h'⟩ | ⟨_, _, _, _, _, -, -, h'⟩
    · rw [h'] at h
      cases h
    · rw [h'] at h
      cases h
      exact ⟨pre, q, t, post, as, s₁, s₂, htrail, hpass, he, rfl⟩
    · rw [h'] at h
      cases h
  · rintro ⟨pre, q, t, post, as, s₁, s₂, htrail, hpass, he, rfl⟩
    exact transform_of_refusal hkey (events_of_trail hwalk htrail) hpass he

/-- A transformation ends at a record too deep just when nothing fails before that record. -/
theorem transform_eq_tooDeep_iff {limit : Nat} {st : σ × List (String × String)} :
    transform p.recorded v (s, []) = .error (.tooDeep limit) st ↔
      limit = 128 ∧ ∃ pre q post as s₁, rootTrail p.marker v = pre ++ (q, .tooDeep) :: post ∧
        p.Passes s (pre.map Prod.snd) as s₁ ∧
        st = (s₁, p.calls (contents (pre.map Prod.snd))) := by
  constructor
  · intro h
    rcases transform_cases hkey hwalk s with ⟨_, _, _, -, h'⟩ |
      ⟨_, _, _, _, _, _, _, _, _, -, -, -, h'⟩ | ⟨pre, q, post, as, s₁, htrail, hpass, h'⟩
    · rw [h'] at h
      cases h
    · rw [h'] at h
      cases h
    · rw [h'] at h
      cases h
      exact ⟨rfl, pre, q, post, as, s₁, htrail, hpass, rfl⟩
  · rintro ⟨rfl, pre, q, post, as, s₁, htrail, hpass, rfl⟩
    exact transform_of_tooDeep hkey (events_of_trail hwalk htrail) hpass

/-- A transformation has a result just when nothing fails. -/
theorem transform_eq_ok_iff {st : σ × List (String × String)} :
    (∃ w, transform p.recorded v (s, []) = .ok w st) ↔
      ∃ as s₁, p.Passes s ((rootTrail p.marker v).map Prod.snd) as s₁ ∧
        st = (s₁, p.calls (contents ((rootTrail p.marker v).map Prod.snd))) := by
  constructor
  · rintro ⟨w, h⟩
    rcases transform_cases hkey hwalk s with ⟨as, s₁, _, hpass, h'⟩ |
      ⟨_, _, _, _, _, _, _, _, _, -, -, -, h'⟩ | ⟨_, _, _, _, _, -, -, h'⟩
    · rw [h'] at h
      cases h
      exact ⟨as, s₁, hpass, rfl⟩
    · rw [h'] at h
      cases h
    · rw [h'] at h
      cases h
  · rintro ⟨as, s₁, hpass, rfl⟩
    rw [snd_rootTrail hwalk] at hpass ⊢
    exact ⟨_, transform_of_passes hkey hpass⟩

end Ends

/-- **The first failure decides.**  A transformation refuses the shape of a value, without a call of
the leaf, when there is neither a record nor a sequence behind the references of the value.  Else
the events of the value, taken in the order of a walk, tell how it ends and which calls it has made:
with the refusal of the leaf at the first text that is refused, after the calls up to this text;
with a record too deep, after the calls before the record; and with a result, after all calls, when
nothing fails. -/
theorem transform_firstFailure (p : Pass σ ε) (v : Value) (s : σ) (hkey : p.key ≠ "") :
    ((∃ found st, transform p.recorded v (s, []) = .error (.unsupportedShape found) st) ↔
      ¬ Walkable v) ∧
    (∀ found st, transform p.recorded v (s, []) = .error (.unsupportedShape found) st →
      st = (s, [])) ∧
    (Walkable v → ∃ tr, (∀ tr', IsTrail p.marker v tr' ↔ tr' = tr) ∧
      (∀ path e st, transform p.recorded v (s, []) = .error (.leaf path e) st ↔
        ∃ pre q t post as s₁ s₂, tr = pre ++ (q, .text path t) :: post ∧
          p.Passes s (pre.map Prod.snd) as s₁ ∧ p.leaf t p.key s₁ = .error e s₂ ∧
          st = (s₂, p.calls (contents (pre.map Prod.snd) ++ [t]))) ∧
      (∀ limit st, transform p.recorded v (s, []) = .error (.tooDeep limit) st ↔
        limit = 128 ∧ ∃ pre q post as s₁, tr = pre ++ (q, .tooDeep) :: post ∧
          p.Passes s (pre.map Prod.snd) as s₁ ∧
          st = (s₁, p.calls (contents (pre.map Prod.snd)))) ∧
      (∀ st, (∃ w, transform p.recorded v (s, []) = .ok w st) ↔
        ∃ as s₁, p.Passes s (tr.map Prod.snd) as s₁ ∧
          st = (s₁, p.calls (contents (tr.map Prod.snd))))) ∧
    Pass.forget (transform p.recorded v (s, [])) = transform p v s := by
  refine ⟨⟨?_, fun hwalk ↦ ?_⟩, fun found st h ↦ ?_, fun hwalk ↦ ?_, Pass.forget_transform v s []⟩
  · rintro ⟨found, st, h⟩ hwalk
    exact not_unsupported hkey hwalk h
  · obtain ⟨found, h⟩ := transform_of_not_walkable hkey hwalk
    exact ⟨found, (s, []), h⟩
  · have hwalk : ¬ Walkable v := fun hwalk ↦ not_unsupported hkey hwalk h
    obtain ⟨found', h'⟩ := transform_of_not_walkable hkey hwalk
    rw [h'] at h
    cases h
    rfl
  · exact ⟨rootTrail p.marker v, fun tr ↦ isTrail_iff,
      fun path e st ↦ transform_eq_leaf_iff hkey hwalk,
      fun limit st ↦ transform_eq_tooDeep_iff hkey hwalk,
      fun st ↦ transform_eq_ok_iff hkey hwalk⟩

/-- A pass whose leaf refuses one text and keeps the others, and counts its calls. -/
def stubborn : Pass Nat Unit := ⟨"k", .standard, fun t _ n ↦
  if t = "two" then .error () (n + 1) else .ok t (n + 1)⟩

/-- A record with two selected texts, the second of which is refused, and with records below them
that lie too deep. -/
def refusedThenDeep : Value :=
  .record ⟨"A", [.tagged "a" (.text "one") [("log", "encrypt")],
    .tagged "b" (.ref (.text "two")) [("log", "encrypt")],
    .tagged "c" (nested "N" "n" 128 .null) []]⟩

section

-- a walk through 129 records is evaluated
set_option maxRecDepth 4000

/-- There is nothing to walk behind references to nothing; a refusal counts before a record too deep
that comes after it; and of 129 records inside one another the last is too deep, even without a text
in any of them. -/
theorem transform_firstFailure_stubborn :
    (∃ found st, transform stubborn.recorded (Value.ref (.ref .null)) (0, []) =
      .error (.unsupportedShape found) st) ∧
    (∃ tr pre q t post, IsTrail .standard refusedThenDeep tr ∧
      tr = pre ++ (q, .text "b" t) :: post ∧
      stubborn.calls (contents (pre.map Prod.snd) ++ [t]) = [("one", "k"), ("two", "k")]) ∧
    (∃ tr pre q post, IsTrail .standard (nested "N" "n" 129 .null) tr ∧
      tr = pre ++ (q, .tooDeep) :: post ∧ contents (pre.map Prod.snd) = []) := by
  have hkey : stubborn.key ≠ "" := by decide
  refine ⟨?_, ?_, ?_⟩
  · refine (transform_firstFailure stubborn _ 0 hkey).1.mpr fun hwalk ↦ ?_
    cases hwalk with
    | ref h =>
      cases h with
      | ref h => cases h
  · have hrun : transform stubborn.recorded refusedThenDeep (0, []) =
        .error (.leaf "b" ()) (2, [("one", "k"), ("two", "k")]) := rfl
    obtain ⟨tr, htrail, hleaf, -⟩ :=
      (transform_firstFailure stubborn refusedThenDeep 0 hkey).2.2.1 (.record _)
    obtain ⟨pre, q, t, post, as, s₁, s₂, htr, -, -, hst⟩ := (hleaf _ _ _).mp hrun
    obtain ⟨-, hcalls⟩ := Prod.mk.inj hst
    exact ⟨tr, pre, q, t, post, (htrail tr).mpr rfl, htr, hcalls.symm⟩
  · have hrun : transform stubborn.recorded (nested "N" "n" 129 .null) (0, []) =
        .error (.tooDeep 128) (0, []) := rfl
    obtain ⟨tr, htrail, -, hdeep, -⟩ :=
      (transform_firstFailure stubborn (nested "N" "n" 129 .null) 0 hkey).2.2.1 (.record _)
    obtain ⟨-, pre, q, post, as, s₁, htr, -, hst⟩ := (hdeep _ _).mp hrun
    obtain ⟨-, hcalls⟩ := Prod.mk.inj hst
    exact ⟨tr, pre, q, post, (htrail tr).mpr rfl, htr, List.map_eq_nil_iff.mp hcalls.symm⟩

end

end Shroud.Value
