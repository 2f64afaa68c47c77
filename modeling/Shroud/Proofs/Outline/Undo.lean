import Shroud.Proofs.Outline.Calls

/-!
# A walk that undoes a walk

After a walk has replaced the selected texts of a value, a second walk with the same marker meets
the same events with the replacements for texts (`Root.events_put`).  So if the leaf of the second
walk takes every replacement back, the second walk ends with the texts of the first value, and
putting these in place of the replacements gives the first value again
(`transform_of_transform`).

The value must be `Restorable` for this: what is put into its root must be found in the root of the
copy, and its own root must give it back.
-/

set_option autoImplicit false

namespace Shroud

/-! ## Events with other texts -/

/-- Events whose texts are replaced by others, in order. -/
def exchange : List Event → List String → List Event
  | .text path _ :: es, t :: ts => .text path t :: exchange es ts
  | e :: es, ts => e :: exchange es ts
  | [], _ => []

theorem exchange_append {es : List Event} {ts : List String}
    (h : ts.length = (contents es).length) (fs : List Event) (us : List String) :
    exchange (es ++ fs) (ts ++ us) = exchange es ts ++ exchange fs us := by
  induction es generalizing ts with
  | nil =>
    obtain rfl : ts = [] := List.eq_nil_of_length_eq_zero h
    rfl
  | cons e es ih =>
    cases e with
    | unsupported found => simp only [List.cons_append, exchange, ih h]
    | tooDeep => simp only [List.cons_append, exchange, ih h]
    | text path s =>
      match ts, h with
      | t :: ts, h => simp only [List.cons_append, exchange, ih (Nat.succ.inj h)]

theorem contents_exchange {es : List Event} {ts : List String}
    (h : ts.length = (contents es).length) : contents (exchange es ts) = ts := by
  induction es generalizing ts with
  | nil =>
    obtain rfl : ts = [] := List.eq_nil_of_length_eq_zero h
    rfl
  | cons e es ih =>
    cases e with
    | unsupported found => rw [exchange, contents_unsupported, ih h]; nofun
    | tooDeep => rw [exchange, contents_tooDeep, ih h]; nofun
    | text path s =>
      match ts, h with
      | t :: ts, h => rw [exchange, contents_text, ih (Nat.succ.inj h)]

/-! ## Texts put into an outline are met in it -/

namespace Outline

variable {m : Marker}

theorem contents_recordEvents (path : String) (depth : Nat) (name : String)
    (fs : List (Field Lookup Outline)) :
    contents (recordEvents m path depth ⟨name, fs⟩) =
      contents (fieldEvents m path (depth + 1) fs) := by
  rw [recordEvents]
  split <;> rfl

mutual

theorem events_put (path : String) (depth : Nat) (chosen : Bool) :
    ∀ (o : Outline) (ts : List String),
      ts.length = (contents (o.events m path depth chosen)).length →
      (o.put m chosen ts).1.events m path depth chosen =
        exchange (o.events m path depth chosen) ts
  | .text s, ts, h => by
    cases chosen with
    | false => rfl
    | true =>
      match ts, h with
      | [t], _ => rfl
  | .record r, ts, h => by rw [put, events, recordEvents_put path depth r ts h, events]
  | .timestamp, _, _ => rfl
  | .other, _, _ => rfl

theorem recordEvents_put (path : String) (depth : Nat) :
    ∀ (r : Record Lookup Outline) (ts : List String),
      ts.length = (contents (recordEvents m path depth r)).length →
      recordEvents m path depth (putRecord m r ts).1 = exchange (recordEvents m path depth r) ts
  | ⟨name, fs⟩, ts, h => by
    rw [contents_recordEvents] at h
    rw [putRecord, recordEvents, recordEvents, fieldEvents_put path (depth + 1) fs ts h]
    split <;> rfl

theorem fieldEvents_put (path : String) (depth : Nat) :
    ∀ (fs : List (Field Lookup Outline)) (ts : List String),
      ts.length = (contents (fieldEvents m path depth fs)).length →
      fieldEvents m path depth (putFields m fs ts).1 = exchange (fieldEvents m path depth fs) ts
  | [], _, _ => rfl
  | ⟨name, tags, value⟩ :: rest, ts, h => by
    rw [fieldEvents, contents_append, List.length_append] at h
    obtain ⟨front, back, rfl, hfront, hback⟩ := exists_append_of_length_eq h
    rw [putFields, put_append _ _ _ value front back hfront, fieldEvents, fieldEvents,
      events_put _ depth _ value front hfront, fieldEvents_put path depth rest back hback,
      exchange_append hfront]

end

theorem elementEvents_put (index : Nat) (items : List Outline) (ts : List String)
    (h : ts.length = (contents (elementEvents m index items)).length) :
    elementEvents m index (putElements m items ts).1 =
      exchange (elementEvents m index items) ts := by
  induction items generalizing index ts with
  | nil => rfl
  | cons o rest ih =>
    rw [elementEvents, contents_append, List.length_append] at h
    obtain ⟨front, back, rfl, hfront, hback⟩ := exists_append_of_length_eq h
    rw [putElements, put_append _ _ _ o front back hfront, elementEvents, elementEvents,
      events_put _ 0 _ o front hfront, ih (index + 1) back hback, exchange_append hfront]

/-! ## Texts put in place of others -/

/-- As many texts are met after a replacement as before. -/
theorem length_contents_events_put (path : String) {depth : Nat} {chosen : Bool} {o : Outline}
    {ts : List String} (h : ts.length = (contents (o.events m path depth chosen)).length) :
    ts.length = (contents ((o.put m chosen ts).1.events m path depth chosen)).length := by
  rw [events_put path depth chosen o ts h, contents_exchange h]

mutual

/-- The last texts put into an outline count. -/
theorem put_put (path : String) (depth : Nat) (chosen : Bool) :
    ∀ (o : Outline) (ts us : List String),
      ts.length = (contents (o.events m path depth chosen)).length → us.length = ts.length →
      ((o.put m chosen ts).1.put m chosen us).1 = (o.put m chosen us).1
  | .text s, ts, us, h, hus => by
    cases chosen with
    | false => rfl
    | true =>
      match ts, us, h, hus with
      | [t], [u], _, _ => rfl
  | .record r, ts, us, h, hus => by
    rw [put, put, put, putRecord_putRecord path depth r ts us h hus]
  | .timestamp, _, _, _, _ => rfl
  | .other, _, _, _, _ => rfl

theorem putRecord_putRecord (path : String) (depth : Nat) :
    ∀ (r : Record Lookup Outline) (ts us : List String),
      ts.length = (contents (recordEvents m path depth r)).length → us.length = ts.length →
      (putRecord m (putRecord m r ts).1 us).1 = (putRecord m r us).1
  | ⟨name, fs⟩, ts, us, h, hus => by
    rw [contents_recordEvents] at h
    rw [putRecord, putRecord, putRecord, putFields_putFields path (depth + 1) fs ts us h hus]

theorem putFields_putFields (path : String) (depth : Nat) :
    ∀ (fs : List (Field Lookup Outline)) (ts us : List String),
      ts.length = (contents (fieldEvents m path depth fs)).length → us.length = ts.length →
      (putFields m (putFields m fs ts).1 us).1 = (putFields m fs us).1
  | [], _, _, _, _ => rfl
  | ⟨name, tags, value⟩ :: rest, ts, us, h, hus => by
    rw [fieldEvents, contents_append, List.length_append] at h
    obtain ⟨front, back, rfl, hfront, hback⟩ := exists_append_of_length_eq h
    rw [List.length_append] at hus
    obtain ⟨front', back', rfl, hfront', hback'⟩ := exists_append_of_length_eq hus
    have hvalue := length_contents_events_put (joinPath path name) hfront
    rw [putFields, put_append _ _ _ value front back hfront, putFields,
      put_append (joinPath path name) depth _ _ front' back' (hfront'.trans hvalue),
      put_put _ depth _ value front front' hfront hfront',
      putFields_putFields path depth rest back back' hback hback', putFields,
      put_append (joinPath path name) depth _ value front' back' (hfront'.trans hfront)]

end

theorem putElements_putElements (index : Nat) (items : List Outline) (ts us : List String)
    (h : ts.length = (contents (elementEvents m index items)).length)
    (hus : us.length = ts.length) :
    (putElements m (putElements m items ts).1 us).1 = (putElements m items us).1 := by
  induction items generalizing index ts us with
  | nil => rfl
  | cons o rest ih =>
    rw [elementEvents, contents_append, List.length_append] at h
    obtain ⟨front, back, rfl, hfront, hback⟩ := exists_append_of_length_eq h
    rw [List.length_append] at hus
    obtain ⟨front', back', rfl, hfront', hback'⟩ := exists_append_of_length_eq hus
    have ho := length_contents_events_put (elementPath index) hfront
    rw [putElements, put_append _ _ _ o front back hfront, putElements,
      put_append (elementPath index) 0 _ _ front' back' (hfront'.trans ho),
      put_put _ 0 _ o front front' hfront hfront', ih (index + 1) back back' hback hback',
      putElements, put_append (elementPath index) 0 _ o front' back' (hfront'.trans hfront)]

mutual

/-- An outline that gets its own texts stays as it is. -/
theorem put_contents (path : String) (depth : Nat) (chosen : Bool) :
    ∀ o : Outline, (o.put m chosen (contents (o.events m path depth chosen))).1 = o
  | .text s => by cases chosen <;> rfl
  | .record r => by rw [events, put, putRecord_contents path depth r]
  | .timestamp => rfl
  | .other => rfl

theorem putRecord_contents (path : String) (depth : Nat) :
    ∀ r : Record Lookup Outline, (putRecord m r (contents (recordEvents m path depth r))).1 = r
  | ⟨name, fs⟩ => by
    rw [contents_recordEvents, putRecord, putFields_contents path (depth + 1) fs]

theorem putFields_contents (path : String) (depth : Nat) :
    ∀ fs : List (Field Lookup Outline),
      (putFields m fs (contents (fieldEvents m path depth fs))).1 = fs
  | [] => rfl
  | ⟨name, tags, value⟩ :: rest => by
    rw [fieldEvents, contents_append, putFields, put_append _ _ _ value _ _ rfl,
      put_contents _ depth _ value, putFields_contents path depth rest]

end

theorem putElements_contents (index : Nat) (items : List Outline) :
    (putElements m items (contents (elementEvents m index items))).1 = items := by
  induction items generalizing index with
  | nil => rfl
  | cons o rest ih =>
    rw [elementEvents, contents_append, putElements, put_append _ _ _ o _ _ rfl,
      put_contents _ 0 _ o, ih (index + 1)]

end Outline

namespace Root

variable {m : Marker} {r : Root} {ts us : List String}

theorem events_put (h : ts.length = (contents (r.events m)).length) :
    (r.put m ts).events m = exchange (r.events m) ts := by
  cases r with
  | record r => exact Outline.recordEvents_put "" 0 r ts h
  | sequence items => exact Outline.elementEvents_put 0 items ts h
  | unsupported found => rfl

theorem put_put (h : ts.length = (contents (r.events m)).length) (hus : us.length = ts.length) :
    (r.put m ts).put m us = r.put m us := by
  cases r with
  | record r => exact congrArg record (Outline.putRecord_putRecord "" 0 r ts us h hus)
  | sequence items => exact congrArg sequence (Outline.putElements_putElements 0 items ts us h hus)
  | unsupported found => rfl

theorem put_contents (r : Root) : r.put m (contents (r.events m)) = r := by
  cases r with
  | record r => exact congrArg record (Outline.putRecord_contents "" 0 r)
  | sequence items => exact congrArg sequence (Outline.putElements_contents 0 items)
  | unsupported found => rfl

end Root

/-! ## Values that can be restored -/

/-- A value in the place of a field: what is put into its outline is found in the outline of the
copy, and its own outline gives it back. -/
structure RestorableField (m : Marker) {α : Type} [HasOutline α] (x : α) : Prop where
  outline_fill : ∀ (chosen : Bool) (ts : List String),
    HasOutline.outline (HasOutline.fill x ((HasOutline.outline x).put m chosen ts).1) =
      ((HasOutline.outline x).put m chosen ts).1
  fill_outline : ∀ (chosen : Bool) (ts : List String),
    HasOutline.fill (HasOutline.fill x ((HasOutline.outline x).put m chosen ts).1)
      (HasOutline.outline x) = x

/-- A value from which a walk can start: what is put into its root is found in the root of the copy,
and its own root gives it back. -/
structure Restorable (m : Marker) {α : Type} [HasRoot α] (x : α) : Prop where
  root_refill : ∀ ts : List String,
    HasRoot.root (HasRoot.refill x ((HasRoot.root x).put m ts)) = (HasRoot.root x).put m ts
  refill_root : ∀ ts : List String,
    HasRoot.refill (HasRoot.refill x ((HasRoot.root x).put m ts)) (HasRoot.root x) = x

theorem restorableField_text (m : Marker) (s : String) : RestorableField m s where
  outline_fill chosen ts := by
    cases chosen with
    | false => rfl
    | true => cases ts <;> rfl
  fill_outline chosen ts := by
    cases chosen with
    | false => rfl
    | true => cases ts <;> rfl

theorem restorableField_option {m : Marker} {α : Type} [HasOutline α]
    (h : ∀ x : α, RestorableField m x) (o : Option α) : RestorableField m o := by
  cases o with
  | none => exact ⟨fun _ _ ↦ rfl, fun _ _ ↦ rfl⟩
  | some x =>
    exact ⟨(h x).outline_fill, fun chosen ts ↦ congrArg some ((h x).fill_outline chosen ts)⟩

/-! ## The second walk -/

section

variable {σ τ ε δ : Type} {p : Pass σ ε} {q : Pass τ δ}

/-- The leaf of `q` takes back what the leaf of `p` answers, in every state. -/
def Pass.TakenBack (p : Pass σ ε) (q : Pass τ δ) : Prop :=
  ∀ t a s s₁, p.leaf t p.key s = .ok a s₁ → ∀ s₂, ∃ s₃, q.leaf a q.key s₂ = .ok t s₃

theorem Pass.run_exchange (hback : p.TakenBack q) {es : List Event} {as : List String} {s s₁ : σ}
    (h : p.run es s = .ok as s₁) (s₂ : τ) :
    ∃ s₃, q.run (exchange es as) s₂ = .ok (contents es) s₃ := by
  induction es generalizing s as s₂ with
  | nil => exact ⟨s₂, rfl⟩
  | cons e es ih =>
    cases e with
    | unsupported found => cases h
    | tooDeep => cases h
    | text path t =>
      rw [run] at h
      obtain ⟨a, s', ha, h⟩ := bind_eq_ok h
      obtain ⟨bs, s'', hbs, h⟩ := bind_eq_ok h
      obtain ⟨rfl, rfl⟩ := EStateM.Result.ok.inj h
      cases hleaf : p.leaf t p.key s with
      | error e s₄ =>
        rw [replace_of_error hleaf path] at ha
        cases ha
      | ok a' s₄ =>
        rw [replace_of_ok hleaf path] at ha
        obtain ⟨rfl, rfl⟩ := EStateM.Result.ok.inj ha
        obtain ⟨s₅, ht⟩ := hback t a' s s₄ hleaf s₂
        obtain ⟨s₆, hrest⟩ := ih hbs s₅
        refine ⟨s₆, ?_⟩
        rw [exchange, run, bind_of_ok (replace_of_ok ht path)]
        exact bind_of_ok hrest

/-- **A transformation is undone by one that takes every replacement back.** -/
theorem transform_of_transform {α : Type} [HasRoot α] {x y : α} (hp : p.key ≠ "")
    (hq : q.key ≠ "") (hmarker : q.marker = p.marker) (hback : p.TakenBack q)
    (hx : Restorable p.marker x) {s s₁ : σ} (h : transform p x s = .ok y s₁) (s₂ : τ) :
    ∃ s₃, transform q y s₂ = .ok x s₃ := by
  rw [transform_eq p x hp, map_eq_pure_bind] at h
  obtain ⟨as, s', hrun, h⟩ := bind_eq_ok h
  obtain ⟨rfl, rfl⟩ := EStateM.Result.ok.inj h
  have hlength := p.length_of_run hrun
  obtain ⟨s₃, hundo⟩ := Pass.run_exchange hback hrun s₂
  refine ⟨s₃, ?_⟩
  rw [transform_eq q _ hq, map_eq_pure_bind, hmarker, hx.root_refill, Root.events_put hlength]
  rw [bind_of_ok hundo, Root.put_put hlength hlength.symm, Root.put_contents]
  exact congrArg (EStateM.Result.ok · s₃) (hx.refill_root as)

end

end Shroud
