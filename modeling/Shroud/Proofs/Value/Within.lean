import Shroud.Proofs.Value.Names
import Shroud.Proofs.Value.Restorable
import Shroud.Proofs.Value.Selection

/-!
# A record inside something else

A record may be walked alone, or as the only field of another record, or as the only record among
the elements of a sequence.  The calls of the leaf are the same and so is the end: the same result,
with the same things around it, or the same refusal.  What differs is the path that is told
(`transform_within`).

Names that lead to a field from the record lead to it from outside as well, put behind the path of
the record.  But a walk takes an empty path for the path of the root, so names that are empty leave
no trace at the start of a path, while further on each of them leaves a dot.  Hence the path from
outside is the name, a dot and the path from the record only if the name is not empty, and no record
inside is in a field with the empty name (`empty_name_untold`).
-/

set_option autoImplicit false

namespace Shroud

variable {σ ε : Type}

/-! ## Texts that are told under two paths -/

/-- Runs of the same texts under different paths: both succeed with the same replacements, or in
both the leaf refuses the same text. -/
theorem Pass.run_retitled {α : Type} (p : Pass σ ε) (content path path' : α → String)
    (xs : List α) (s : σ) :
    (∃ as s₁, p.run (xs.map fun x ↦ .text (path x) (content x)) s = .ok as s₁ ∧
      p.run (xs.map fun x ↦ .text (path' x) (content x)) s = .ok as s₁) ∨
    ∃ x ∈ xs, ∃ e s₁,
      p.run (xs.map fun x ↦ .text (path x) (content x)) s = .error (.leaf (path x) e) s₁ ∧
      p.run (xs.map fun x ↦ .text (path' x) (content x)) s = .error (.leaf (path' x) e) s₁ := by
  induction xs generalizing s with
  | nil => exact .inl ⟨[], s, rfl, rfl⟩
  | cons x xs ih =>
    rw [List.map_cons, List.map_cons, run, run]
    cases hx : p.leaf (content x) p.key s with
    | error e s₁ =>
      exact .inr ⟨x, List.mem_cons_self, e, s₁, bind_of_error (replace_of_error hx _),
        bind_of_error (replace_of_error hx _)⟩
    | ok a s₁ =>
      rw [bind_of_ok (replace_of_ok hx (path x)), bind_of_ok (replace_of_ok hx (path' x))]
      rcases ih s₁ with ⟨as, s₂, h, h'⟩ | ⟨y, hy, e, s₂, h, h'⟩
      · exact .inl ⟨a :: as, s₂, bind_of_ok h, bind_of_ok h'⟩
      · exact .inr ⟨y, List.mem_cons_of_mem x hy, e, s₂, bind_of_error h, bind_of_error h'⟩

namespace Value

variable {m : Marker}

/-! ## The texts of a record, from inside and from outside -/

mutual

/-- Which texts are met where does not depend on the path and on what is around. -/
theorem spots_trail (path path' : String) (depth depth' : Nat) (chosen : Bool) :
    ∀ v : Value, spots (trail m path depth chosen v) = spots (trail m path' depth' chosen v)
  | text s => by cases chosen <;> rfl
  | record ⟨name, fs⟩ => by
    have hdeep (d : Nat) : spots (if depthLimit ≤ d then [([], .tooDeep)] else []) = [] := by
      split <;> rfl
    rw [trail, trail, spots_append, spots_append, hdeep, hdeep,
      spots_fieldTrail path path' (depth + 1) (depth' + 1) 0 fs]
  | ref v => by
    rw [trail, trail, spots_under, spots_under, spots_trail path path' depth depth' chosen v]
  | bool _ => rfl
  | int _ => rfl
  | float _ => rfl
  | timestamp _ => rfl
  | null => rfl
  | seq _ => rfl

theorem spots_fieldTrail (path path' : String) (depth depth' index : Nat) :
    ∀ fs : List (Field TagMap Value), spots (fieldTrail m path depth index fs) =
      spots (fieldTrail m path' depth' index fs)
  | [] => rfl
  | ⟨name, tags, v⟩ :: rest => by
    rw [fieldTrail, fieldTrail, spots_append, spots_append, spots_under, spots_under,
      spots_trail (joinPath path name) (joinPath path' name) depth depth' _ v,
      spots_fieldTrail path path' depth depth' (index + 1) rest]

end

/-- A trail that holds nothing but texts consists of its texts. -/
theorem snd_eq_of_texts (path : Place → String) {tr : List (Place × Event)}
    (h : ∀ x ∈ tr, ∃ s, x.2 = .text (path x.1) s) :
    tr.map Prod.snd = (spots tr).map fun x ↦ .text (path x.1) x.2 := by
  induction tr with
  | nil => rfl
  | cons x tr ih =>
    obtain ⟨⟨s, hs⟩, htr⟩ := List.forall_mem_cons.mp h
    have hspots : spots (x :: tr) = (x.1, s) :: spots tr :=
      List.filterMap_cons_some (by rw [hs]; rfl)
    rw [List.map_cons, hspots, List.map_cons, ih htr, hs]

/-- **What is met in a value that is not too deep are its texts**, each under the path that leads to
it from the path of the value. -/
theorem events_outline {v : Value} (depth : Nat)
    (hdepth : ∀ q r, Reaches v q r → depth + q.depth < 128) (path : String) (chosen : Bool) :
    v.outline.events m path depth chosen =
      (spots (trail m "" 0 chosen v)).map fun x ↦ .text (pathFrom path x.1 v) x.2 := by
  rw [← snd_trail, spots_trail "" path 0 depth]
  refine snd_eq_of_texts (fun q ↦ pathFrom path q v) fun x hx ↦ ?_
  rcases of_mem_trail hx with ⟨s, hs, -⟩ | ⟨-, r, hr, hdeep⟩
  · exact ⟨s, hs⟩
  · exact absurd (hdepth _ _ hr) (Nat.not_lt.mpr hdeep)

/-- `Retitled v parent path path'`: names lead to a field from `v`; from the root on they make the
path `path`, and behind `parent` they make the path `path'`. -/
def Retitled (v : Value) (parent path path' : String) : Prop :=
  ∃ ns q f, Names v ns q f ∧ path = joinPaths "" ns ∧ path' = joinPaths parent ns

theorem retitled_of_mem_spots {v : Value} {path : String} {depth : Nat} {x : Place × String}
    (hx : x ∈ spots (trail m path depth false v)) (parent : String) :
    Retitled v parent (pathFrom "" x.1 v) (pathFrom parent x.1 v) := by
  obtain ⟨q, t⟩ := x
  obtain ⟨path', hmem⟩ := mem_spots.mp hx
  rcases of_mem_trail hmem with ⟨s, -, ⟨hfalse, -⟩ | hinside⟩ | ⟨htext, -⟩
  · cases hfalse
  · obtain ⟨q₀, r, i, f, q₁, rfl, hr, hf, -, hs⟩ := exists_of_inside hinside
    obtain ⟨ns, hns, hpath⟩ := exists_names_of_reaches hr hf hs
    exact ⟨ns, _, f, hns, hpath "", hpath parent⟩
  · cases htext

/-! ## Paths that get longer at the front -/

theorem Names.isSome_asRecord? {v : Value} {ns : List String} {q : Place} {f : Field TagMap Value}
    (h : Names v ns q f) : v.asRecord?.isSome := by
  induction h with
  | here _ => rfl
  | field _ _ _ => rfl
  | ref _ ih => exact ih

/-- The first name is that of a field of the record, and the field holds a record if the names go
on. -/
theorem Names.exists_head {v : Value} {ns : List String} {q : Place} {g : Field TagMap Value}
    {r : Record TagMap Value} (h : Names v ns q g) (hv : v.asRecord? = some r) :
    ∃ f ∈ r.fields, ∃ rest, ns = f.name :: rest ∧ (rest ≠ [] → f.value.asRecord?.isSome) := by
  induction h with
  | here hf =>
    obtain rfl := Option.some.inj hv
    exact ⟨_, List.mem_of_getElem? hf, [], rfl, fun h ↦ absurd rfl h⟩
  | field hf h _ =>
    obtain rfl := Option.some.inj hv
    exact ⟨_, List.mem_of_getElem? hf, _, rfl, fun _ ↦ h.isSome_asRecord?⟩
  | ref _ ih => exact ih hv

/-- **The path from outside is the path from the record with what leads to the record in front**,
unless an empty name stands at the start of either. -/
theorem Retitled.eq_append {v : Value} {r : Record TagMap Value} {parent path path' : String}
    (h : Retitled v parent path path') (hparent : parent ≠ "") (hv : v.asRecord? = some r)
    (hnames : ∀ f ∈ r.fields, f.name = "" → f.value.asRecord? = none) :
    path' = parent ++ "." ++ path := by
  obtain ⟨ns, q, g, hns, rfl, rfl⟩ := h
  obtain ⟨f, hf, rest, rfl, hrest⟩ := hns.exists_head hv
  rcases rest with _ | ⟨n, rest⟩
  · exact joinPath_of_ne hparent f.name
  · have hname : f.name ≠ "" := by
      intro hname
      have hsome := hrest (List.cons_ne_nil n rest)
      rw [hnames f hf hname] at hsome
      cases hsome
    rw [joinPaths_of_ne hparent, joinPaths_root hname, String.intercalate_cons_cons]

/-! ## A record as the only one that is walked -/

/-- How a walk of a record ends when there is something around it: with the same result, which has
the same things around it, or with the same refusal, which is told under another path. -/
inductive Carried (around : Value → Value) (title : String → String → Prop) :
    EStateM.Result (Failure ε) σ Value → EStateM.Result (Failure ε) σ Value → Prop
  | ok (u : Value) (s : σ) : Carried around title (.ok u s) (.ok (around u) s)
  | leaf {path path' : String} (h : title path path') (e : ε) (s : σ) :
      Carried around title (.error (.leaf path e) s) (.error (.leaf path' e) s)

theorem Carried.imp {around : Value → Value} {title title' : String → String → Prop}
    {x y : EStateM.Result (Failure ε) σ Value} (h : Carried around title x y)
    (htitle : ∀ path path', title path path' → title' path path') : Carried around title' x y := by
  cases h with
  | ok u s => exact .ok u s
  | leaf h e s => exact .leaf (htitle _ _ h) e s

/-- What is a record behind its references is walked as a record, from its start and in the place of
a field alike. -/
theorem exists_outline_of_asRecord? {r : Record TagMap Value} :
    ∀ v : Value, v.asRecord? = some r →
      (∃ o, v.outline = .record o ∧ v.root = .record o) ∧
      ∀ o, v.refill (.record o) = v.fill (.record o)
  | record _, _ => ⟨⟨_, rfl, rfl⟩, fun _ ↦ rfl⟩
  | ref v, h => by
    obtain ⟨houtline, hrefill⟩ := exists_outline_of_asRecord? v h
    exact ⟨houtline, fun o ↦ congrArg ref (hrefill o)⟩
  | bool _, h => nomatch h
  | int _, h => nomatch h
  | float _, h => nomatch h
  | text _, h => nomatch h
  | timestamp _, h => nomatch h
  | null, h => nomatch h
  | seq _, h => nomatch h

/-- What surrounds a record is not seen by a walk, when all that is met are the texts of the
record. -/
theorem carried_of_events (p : Pass σ ε) {v : Value} {r : Record TagMap Value}
    (hv : v.asRecord? = some r) (hdepth : ∀ q r, Reaches v q r → q.depth < 128)
    {around : Value → Value} {parent : String}
    (hevents : (around v).root.events p.marker =
      (spots (trail p.marker "" 0 false v)).map fun x ↦ .text (pathFrom parent x.1 v) x.2)
    (hrefill : ∀ ts, (around v).refill ((around v).root.put p.marker ts) =
      around (v.refill (v.root.put p.marker ts))) (s : σ) :
    Carried around (Retitled v parent) (transform p v s) (transform p (around v) s) := by
  by_cases hkey : p.key = ""
  · have hempty : p.key.isEmpty = true := by simpa using hkey
    rw [transform, transform, if_pos hempty, if_pos hempty]
    exact .ok v s
  · obtain ⟨⟨o, houtline, hroot⟩, -⟩ := exists_outline_of_asRecord? v hv
    have hinside : v.root.events p.marker =
        (spots (trail p.marker "" 0 false v)).map fun x ↦ .text (pathFrom "" x.1 v) x.2 := by
      have hdepth' : ∀ q r, Reaches v q r → 0 + q.depth < 128 := by simpa using hdepth
      rw [← events_outline 0 hdepth' "" false, hroot, houtline, Root.events, Outline.events]
    rw [transform_eq p v hkey, transform_eq p (around v) hkey]
    show Carried around (Retitled v parent)
      (((fun ts ↦ v.refill (v.root.put p.marker ts)) <$> p.run (v.root.events p.marker)) s)
      (((fun ts ↦ (around v).refill ((around v).root.put p.marker ts)) <$>
        p.run ((around v).root.events p.marker)) s)
    rw [hinside, hevents]
    rcases p.run_retitled Prod.snd (fun x ↦ pathFrom "" x.1 v) (fun x ↦ pathFrom parent x.1 v)
      (spots (trail p.marker "" 0 false v)) s with ⟨as, s₁, h, h'⟩ | ⟨x, hx, e, s₁, h, h'⟩
    · rw [map_of_ok h, map_of_ok h', hrefill]
      exact .ok _ s₁
    · rw [map_of_error h, map_of_error h']
      exact .leaf (retitled_of_mem_spots hx parent) e s₁

/-! ### As the only field of a record -/

/-- The record with a single field. -/
def single (typeName name : String) (tags : TagMap) (v : Value) : Value :=
  record ⟨typeName, [⟨name, tags, v⟩]⟩

theorem carried_single (p : Pass σ ε) {v : Value} {r : Record TagMap Value}
    (hv : v.asRecord? = some r) (hdepth : ∀ q r, Reaches v q r → q.depth < 127)
    (typeName name : String) (tags : TagMap) (s : σ) :
    Carried (single typeName name tags) (Retitled v name) (transform p v s)
      (transform p (single typeName name tags v) s) := by
  obtain ⟨⟨o, houtline, hroot⟩, hrefill⟩ := exists_outline_of_asRecord? v hv
  refine carried_of_events p hv (fun q r hr ↦ Nat.lt_succ_of_lt (hdepth q r hr)) ?_
    (fun ts ↦ ?_) s
  · have hdepth' : ∀ q r, Reaches v q r → 1 + q.depth < 128 := fun q r hr ↦ by
      have := hdepth q r hr
      omega
    rw [← events_outline 1 hdepth' name false, single, root, Root.events, Outline.recordEvents,
      if_neg (by decide), outlineFields, Outline.fieldEvents, outlineFields, Outline.fieldEvents,
      houtline]
    simp [Outline.events, joinPath_empty]
  · rw [hroot, single, root, Root.put, Outline.putRecord, outlineFields, Outline.putFields,
      houtline, refill, fillFields, Root.put, hrefill, Outline.put]
    rfl

/-! ### As the only record of a sequence -/

/-- An element that is no record is passed over: it has no annotations, so no marker selects it. -/
theorem element_passed {w : Value} (hw : w.asRecord? = none) :
    (∀ path depth, w.outline.events m path depth false = []) ∧
      ∀ ts, w.outline.put m false ts = (w.outline, ts) :=
  passed_over false w hw (absurd · Bool.false_ne_true)

section

variable {front : List Value} (hfront : ∀ w ∈ front, w.asRecord? = none)

include hfront

theorem elementEvents_passed (index : Nat) (os : List Outline) :
    Outline.elementEvents m index (front.map outline ++ os) =
      Outline.elementEvents m (index + front.length) os := by
  induction front generalizing index with
  | nil => rfl
  | cons w front ih =>
    obtain ⟨hw, hfront⟩ := List.forall_mem_cons.mp hfront
    rw [List.map_cons, List.cons_append, Outline.elementEvents,
      (element_passed hw).1, List.nil_append, ih hfront, List.length_cons,
      Nat.add_right_comm, Nat.add_assoc]

theorem fillEach_passed (items : List Value) (ts : List String) :
    fillEach (front ++ items) (Outline.putElements m ((front ++ items).map outline) ts).1 =
      front ++ fillEach items (Outline.putElements m (items.map outline) ts).1 := by
  induction front with
  | nil => rfl
  | cons w front ih =>
    obtain ⟨hw, hfront⟩ := List.forall_mem_cons.mp hfront
    rw [List.cons_append, List.map_cons, Outline.putElements, (element_passed hw).2]
    show w.fill w.outline :: fillEach (front ++ items) _ = _
    rw [fill_outline, ih hfront, List.cons_append]

end

/-- The sequence with some elements before and some after. -/
def among (front back : List Value) (v : Value) : Value := seq (front ++ v :: back)

theorem carried_among (p : Pass σ ε) {v : Value} {r : Record TagMap Value}
    (hv : v.asRecord? = some r) (hdepth : ∀ q r, Reaches v q r → q.depth < 128)
    {front back : List Value} (hfront : ∀ w ∈ front, w.asRecord? = none)
    (hback : ∀ w ∈ back, w.asRecord? = none) (s : σ) :
    Carried (among front back) (Retitled v (elementPath front.length)) (transform p v s)
      (transform p (among front back v) s) := by
  obtain ⟨⟨o, houtline, hroot⟩, hrefill⟩ := exists_outline_of_asRecord? v hv
  refine carried_of_events p hv hdepth ?_ (fun ts ↦ ?_) s
  · have hdepth' : ∀ q r, Reaches v q r → 0 + q.depth < 128 := by simpa using hdepth
    have hnone := elementEvents_passed (m := p.marker) hback (0 + front.length + 1) []
    rw [List.append_nil, Outline.elementEvents] at hnone
    rw [← events_outline 0 hdepth', among, root, Root.events, List.map_append,
      elementEvents_passed hfront, List.map_cons, Outline.elementEvents, hnone, List.append_nil,
      Nat.zero_add]
  · have hnone := fillEach_passed (m := p.marker) hback [] (Outline.putRecord p.marker o ts).2
    rw [List.append_nil] at hnone
    show seq (fillEach (front ++ v :: back)
      (Outline.putElements p.marker ((front ++ v :: back).map outline) ts).1) = _
    rw [fillEach_passed hfront, List.map_cons, Outline.putElements, houtline, Outline.put, hroot,
      Root.put, hrefill, among]
    exact congrArg (fun back' ↦ seq (front ++ v.fill _ :: back')) (hnone.trans (List.append_nil _))

/-! ## The law of contexts -/

/-- **A record is walked inside something else as it is walked alone.**  As the only field of
another record, or as the only record of a sequence, a record that goes no deeper than 127 levels
gets the same calls and comes to the same end: the same result, with the same things around it, or
the same refusal.  The path that is told consists of the same names, put behind what leads to the
record.

So the path is what leads to the record, a dot and the path from the record, if the name of the
other field is not empty and no field of the record with the empty name holds a record. -/
theorem transform_within (p : Pass σ ε) {v : Value} {r : Record TagMap Value}
    (hv : v.asRecord? = some r) (hdepth : ∀ q r, Reaches v q r → q.depth < 127) (s : σ) :
    (∀ typeName name tags,
      Carried (single typeName name tags) (Retitled v name) (transform p.recorded v (s, []))
        (transform p.recorded (single typeName name tags v) (s, []))) ∧
    (∀ front back, (∀ w ∈ front, w.asRecord? = none) → (∀ w ∈ back, w.asRecord? = none) →
      Carried (among front back) (Retitled v (elementPath front.length))
        (transform p.recorded v (s, [])) (transform p.recorded (among front back v) (s, []))) ∧
    ((∀ f ∈ r.fields, f.name = "" → f.value.asRecord? = none) →
      (∀ typeName name tags, name ≠ "" →
        Carried (single typeName name tags) (fun path path' ↦ path' = name ++ "." ++ path)
          (transform p.recorded v (s, []))
          (transform p.recorded (single typeName name tags v) (s, []))) ∧
      ∀ front back, (∀ w ∈ front, w.asRecord? = none) → (∀ w ∈ back, w.asRecord? = none) →
        Carried (among front back)
          (fun path path' ↦ path' = "[" ++ toString front.length ++ "]" ++ "." ++ path)
          (transform p.recorded v (s, []))
          (transform p.recorded (among front back v) (s, []))) := by
  have hsingle := fun typeName name tags ↦
    carried_single p.recorded hv hdepth typeName name tags (s, [])
  have hamong := fun (front back : List Value) (hfront : ∀ w ∈ front, w.asRecord? = none)
    (hback : ∀ w ∈ back, w.asRecord? = none) ↦ carried_among p.recorded hv
      (fun q r hr ↦ Nat.lt_succ_of_lt (hdepth q r hr)) hfront hback (s, [])
  refine ⟨hsingle, hamong, fun hnames ↦ ⟨fun typeName name tags hname ↦ ?_,
    fun front back hfront hback ↦ ?_⟩⟩
  · exact (hsingle typeName name tags).imp fun path path' h ↦ h.eq_append hname hv hnames
  · exact (hamong front back hfront hback).imp fun path path' h ↦
      h.eq_append (elementPath_ne front.length) hv hnames

/-- A guest behind a reference, whose name is refused, as a field and as an element. -/
theorem transform_within_guest :
    Carried (single "Visit" "guest" .empty) (fun path path' ↦ path' = "guest" ++ "." ++ path)
      (.error (.leaf "name" ()) (1, [("two", "k")]))
      (transform stubborn.recorded (single "Visit" "guest" .empty (.ref (.record guest))) (0, [])) ∧
    Carried (among [.text "beside"] [.null])
      (fun path path' ↦ path' = "[" ++ toString 1 ++ "]" ++ "." ++ path)
      (.error (.leaf "name" ()) (1, [("two", "k")]))
      (transform stubborn.recorded (among [.text "beside"] [.null] (.ref (.record guest)))
        (0, [])) := by
  have hdepth : ∀ q r, Reaches (.ref (.record guest)) q r → q.depth < 127 := by
    intro q r h
    cases h with
    | ref h =>
      cases h with
      | here _ => decide
      | field hf h =>
        rw [List.mem_singleton.mp (List.mem_of_getElem? hf)] at h
        cases h
  obtain ⟨-, -, hplain⟩ := transform_within stubborn (v := .ref (.record guest)) rfl hdepth 0
  obtain ⟨hsingle, hamong⟩ := hplain (by decide)
  exact ⟨hsingle "Visit" "guest" .empty (by decide),
    hamong [.text "beside"] [.null] (by decide) (by decide)⟩

/-- **An empty name leaves no trace at the start of a path.**  So the path from outside lacks a part
when the record is in a field with the empty name, and the path from the record does when the
refused text lies in such a field. -/
theorem empty_name_untold :
    ¬ Carried (single "Visit" "" .empty) (fun path path' ↦ path' = "" ++ "." ++ path)
      (transform stubborn.recorded (Value.record guest) (0, []))
      (transform stubborn.recorded (single "Visit" "" .empty (.record guest)) (0, [])) ∧
    ¬ Carried (single "Visit" "a" .empty) (fun path path' ↦ path' = "a" ++ "." ++ path)
      (transform stubborn.recorded (single "Group" "" .empty (.record guest)) (0, []))
      (transform stubborn.recorded
        (single "Visit" "a" .empty (single "Group" "" .empty (.record guest))) (0, [])) := by
  have halone : transform stubborn.recorded (Value.record guest) (0, []) =
      .error (.leaf "name" ()) (1, [("two", "k")]) := rfl
  have hgroup (typeName : String) :
      transform stubborn.recorded (single typeName "" .empty (.record guest)) (0, []) =
        .error (.leaf "name" ()) (1, [("two", "k")]) := rfl
  have hvisit : transform stubborn.recorded
      (single "Visit" "a" .empty (single "Group" "" .empty (.record guest))) (0, []) =
      .error (.leaf "a..name" ()) (1, [("two", "k")]) := rfl
  refine ⟨?_, ?_⟩
  · rw [halone, hgroup]
    intro h
    cases h with
    | leaf h _ _ => exact absurd h (by decide)
  · rw [hgroup, hvisit]
    intro h
    cases h with
    | leaf h _ _ => exact absurd h (by decide)

end Value

end Shroud
