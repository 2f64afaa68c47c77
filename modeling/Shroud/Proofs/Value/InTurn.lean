import Shroud.Proofs.Outline.Alike
import Shroud.Proofs.Value.Selection

/-!
# Two passes in turn

Two passes that select no text in common do not disturb one another.  Each of them changes texts at
places where the other one has nothing to do, and nothing else, so the second pass meets what it
would have met as the first: the same texts under the same paths.  If the answers of both leaves
depend on the text and the key alone, it does not matter which of the passes comes first
(`transform_inTurn`).
-/

set_option autoImplicit false

namespace Shroud

/-! ## Leaves that follow a rule -/

namespace Pass

variable {σ ε : Type}

/-- The calls of the leaf during a transformation, in their order: text and key of each. -/
def made {α : Type} [HasRoot α] (p : Pass σ ε) (x : α) (s : σ) : List (String × String) :=
  recordOf (transform p.recorded x (s, []))

/-- Whatever its state, the leaf answers a text as the rule says. -/
def Follows (p : Pass σ ε) (rule : String → Except ε String) : Prop :=
  ∀ text s, outcome (p.leaf text p.key s) = rule text

variable {p : Pass σ ε} {rule : String → Except ε String}

theorem Follows.leaf_cases (h : p.Follows rule) (text : String) (s s' : σ) :
    (∃ a s₁ s₁', p.leaf text p.key s = .ok a s₁ ∧ p.leaf text p.key s' = .ok a s₁') ∨
    ∃ e s₁ s₁', p.leaf text p.key s = .error e s₁ ∧ p.leaf text p.key s' = .error e s₁' := by
  have heq : outcome (p.leaf text p.key s) = outcome (p.leaf text p.key s') :=
    (h text s).trans (h text s').symm
  cases hs : p.leaf text p.key s with
  | ok a s₁ =>
    cases hs' : p.leaf text p.key s' with
    | ok a' s₁' =>
      rw [hs, hs'] at heq
      obtain rfl := Except.ok.inj heq
      exact .inl ⟨a, s₁, s₁', rfl, rfl⟩
    | error e' s₁' =>
      rw [hs, hs'] at heq
      cases heq
  | error e s₁ =>
    cases hs' : p.leaf text p.key s' with
    | ok a' s₁' =>
      rw [hs, hs'] at heq
      cases heq
    | error e' s₁' =>
      rw [hs, hs'] at heq
      obtain rfl := Except.error.inj heq
      exact .inr ⟨e, s₁, s₁', rfl, rfl⟩

/-- **From every state a run comes to the same end**, when the leaf follows a rule. -/
theorem Follows.outcome_run (h : p.Follows rule) (es : List Event) (s s' : σ) :
    outcome (p.run es s) = outcome (p.run es s') := by
  induction es generalizing s s' with
  | nil => rfl
  | cons e es ih =>
    cases e with
    | unsupported found => rfl
    | tooDeep => rfl
    | text path t =>
      rw [run]
      rcases h.leaf_cases t s s' with ⟨a, s₁, s₁', hs, hs'⟩ | ⟨e, s₁, s₁', hs, hs'⟩
      · rw [bind_of_ok (replace_of_ok hs path), bind_of_ok (replace_of_ok hs' path),
          bind_pure_comp, outcome_map, outcome_map, ih s₁ s₁']
      · rw [bind_of_error (replace_of_error hs path), bind_of_error (replace_of_error hs' path)]
        rfl

/-- From every state a run makes the same calls, when the leaf follows a rule. -/
theorem Follows.recordOf_run (h : p.Follows rule) (es : List Event) (s s' : σ)
    (made : List (String × String)) :
    recordOf (p.recorded.run es (s, made)) = recordOf (p.recorded.run es (s', made)) := by
  induction es generalizing s s' made with
  | nil => rfl
  | cons e es ih =>
    cases e with
    | unsupported found => rfl
    | tooDeep => rfl
    | text path t =>
      rw [run]
      rcases h.leaf_cases t s s' with ⟨a, s₁, s₁', hs, hs'⟩ | ⟨e, s₁, s₁', hs, hs'⟩
      · rw [bind_of_ok (replace_of_ok (recorded_leaf_of_ok hs made) path),
          bind_of_ok (replace_of_ok (recorded_leaf_of_ok hs' made) path),
          bind_pure_comp, recordOf_map, recordOf_map, ih s₁ s₁']
      · rw [bind_of_error (replace_of_error (recorded_leaf_of_error hs made) path),
          bind_of_error (replace_of_error (recorded_leaf_of_error hs' made) path)]
        rfl

/-- The answers to some texts are those of the rule. -/
theorem Follows.answers_eq (h : p.Follows rule) {ts as : List String} {s s₁ : σ}
    (has : p.answers ts s = .ok as s₁) : as.map .ok = ts.map rule := by
  induction ts generalizing s s₁ as with
  | nil =>
    obtain ⟨rfl, -⟩ := EStateM.Result.ok.inj has
    rfl
  | cons t ts ih =>
    rw [answers, List.mapM_cons] at has
    obtain ⟨a, s₂, ha, has⟩ := bind_eq_ok has
    obtain ⟨bs, s₃, hbs, has⟩ := bind_eq_ok has
    obtain ⟨rfl, -⟩ := EStateM.Result.ok.inj has
    rw [List.map_cons, List.map_cons, ih hbs, ← h t s, ha]
    rfl

end Pass

namespace Value

variable {m n : Marker} {v u : Value} {change other : Place → String → String}

/-! ## Changed texts, change by change -/

mutual

theorem mapTexts_mapTexts (change other : Place → String → String) :
    ∀ v : Value, mapTexts other (mapTexts change v) = mapTexts (fun q s ↦ other q (change q s)) v
  | text s => rfl
  | ref v => by rw [mapTexts, mapTexts, mapTexts, mapTexts_mapTexts _ _ v]
  | seq items => by rw [mapTexts, mapTexts, mapTexts, mapItems_mapItems _ _ 0 items]
  | record ⟨name, fs⟩ => by rw [mapTexts, mapTexts, mapTexts, mapFields_mapFields _ _ 0 fs]
  | bool _ => rfl
  | int _ => rfl
  | float _ => rfl
  | timestamp _ => rfl
  | null => rfl

theorem mapItems_mapItems (change other : Place → String → String) (index : Nat) :
    ∀ items : List Value, mapItems other index (mapItems change index items) =
      mapItems (fun q s ↦ other q (change q s)) index items
  | [] => rfl
  | v :: rest => by
    rw [mapItems, mapItems, mapItems, mapTexts_mapTexts _ _ v,
      mapItems_mapItems change other (index + 1) rest]

theorem mapFields_mapFields (change other : Place → String → String) (index : Nat) :
    ∀ fs : List (Field TagMap Value), mapFields other index (mapFields change index fs) =
      mapFields (fun q s ↦ other q (change q s)) index fs
  | [] => rfl
  | ⟨name, tags, v⟩ :: rest => by
    rw [mapFields, mapFields, mapFields, mapTexts_mapTexts _ _ v,
      mapFields_mapFields change other (index + 1) rest]

end

/-! ## The trail of a value with changed texts -/

theorem Walkable.mapTexts (h : Walkable v) (change : Place → String → String) :
    Walkable (mapTexts change v) := by
  induction h generalizing change with
  | record r => exact .record _
  | seq items => exact .seq _
  | ref _ ih => exact .ref (ih _)

/-- An event with its text changed, if it is a text. -/
def retext (change : Place → String → String) : Place × Event → Place × Event
  | (q, .text path s) => (q, .text path (change q s))
  | x => x

theorem map_under_retext (h : Hop) (xs : List (Place × Event)) :
    (xs.map (retext fun q ↦ change (h :: q))).map (under h) =
      (xs.map (under h)).map (retext change) := by
  rw [List.map_map, List.map_map]
  refine List.map_congr_left fun ⟨q, e⟩ _ ↦ ?_
  cases e <;> rfl

mutual

/-- The trail of a value with changed texts is the trail of the value, with the texts changed. -/
theorem trail_mapTexts (path : String) (depth : Nat) (chosen : Bool) :
    ∀ (v : Value) (change : Place → String → String),
      trail m path depth chosen (mapTexts change v) =
        (trail m path depth chosen v).map (retext change)
  | text s, _ => by cases chosen <;> rfl
  | record ⟨name, fs⟩, change => by
    rw [mapTexts, trail, trail, List.map_append, fieldTrail_mapFields path (depth + 1) 0 fs]
    split <;> rfl
  | ref v, change => by
    rw [mapTexts, trail, trail, trail_mapTexts path depth chosen v, map_under_retext]
  | bool _, _ => rfl
  | int _, _ => rfl
  | float _, _ => rfl
  | timestamp _, _ => rfl
  | null, _ => rfl
  | seq _, _ => rfl

theorem fieldTrail_mapFields (path : String) (depth index : Nat) :
    ∀ (fs : List (Field TagMap Value)) (change : Place → String → String),
      fieldTrail m path depth index (mapFields change index fs) =
        (fieldTrail m path depth index fs).map (retext change)
  | [], _ => rfl
  | ⟨name, tags, v⟩ :: rest, change => by
    rw [mapFields, fieldTrail, fieldTrail, List.map_append,
      trail_mapTexts (joinPath path name) depth _ v, map_under_retext,
      fieldTrail_mapFields path depth (index + 1) rest]

end

theorem elementTrail_mapItems (index : Nat) (items : List Value)
    (change : Place → String → String) :
    elementTrail m index (mapItems change index items) =
      (elementTrail m index items).map (retext change) := by
  induction items generalizing index with
  | nil => rfl
  | cons v rest ih =>
    rw [mapItems, elementTrail, elementTrail, List.map_append,
      trail_mapTexts (elementPath index) 0 false v, map_under_retext, ih]

theorem rootTrail_mapTexts : ∀ (v : Value) (change : Place → String → String),
    rootTrail m (mapTexts change v) = (rootTrail m v).map (retext change)
  | record r, change => trail_mapTexts "" 0 false (record r) change
  | seq items, change => elementTrail_mapItems 0 items change
  | ref v, change => by
    rw [mapTexts, rootTrail, rootTrail, rootTrail_mapTexts v, map_under_retext]
  | text _, _ => rfl
  | bool _, _ => rfl
  | int _, _ => rfl
  | float _, _ => rfl
  | timestamp _, _ => rfl
  | null, _ => rfl

/-- **A change that keeps the selected texts keeps the trail.** -/
theorem rootTrail_of_keeps (h : ∀ q t, Selected m v q t → change q t = t) :
    rootTrail m (mapTexts change v) = rootTrail m v := by
  rw [rootTrail_mapTexts]
  refine (List.map_congr_left fun ⟨q, e⟩ hmem ↦ ?_).trans (List.map_id _)
  cases mem_rootTrail_iff.mp hmem with
  | text hsel => rw [retext, h _ _ hsel, id]
  | tooDeep _ _ => rfl

/-! ## The field around a text -/

/-- The text at a place and the annotations of the field that holds it; `tags` are those of the
field that the value is in. -/
def heldText? (tags : TagMap) : Place → Value → Option (TagMap × String)
  | [], text s => some (tags, s)
  | .target :: q, ref v => heldText? tags q v
  | .field i :: q, record r =>
    match r.fields[i]? with
    | some f => heldText? f.tags q f.value
    | none => none
  | .element i :: q, seq items =>
    match items[i]? with
    | some v => heldText? tags q v
    | none => none
  | _, _ => none

theorem Leads.heldText?_eq {q : Place} {s : String} (h : Leads v q u) (hu : u = .text s)
    (tags : TagMap) : heldText? tags q v = some (tags, s) := by
  induction h with
  | here v =>
    subst hu
    rfl
  | ref _ ih => exact ih hu

theorem Reaches.heldText?_eq {q q' : Place} {r : Record TagMap Value} {i : Nat}
    {f : Field TagMap Value} (h : Reaches v q r) (hf : r.fields[i]? = some f) (tags : TagMap) :
    heldText? tags (q ++ .field i :: q') v = heldText? f.tags q' f.value := by
  induction h generalizing tags with
  | here r => rw [List.nil_append, heldText?, hf]
  | ref _ ih => exact ih hf tags
  | field hg _ ih =>
    rw [List.cons_append, heldText?, hg]
    exact ih hf _

theorem Walked.heldText?_eq {q q' : Place} {r : Record TagMap Value} {i : Nat}
    {f : Field TagMap Value} (h : Walked v q r) (hf : r.fields[i]? = some f) (tags : TagMap) :
    heldText? tags (q ++ .field i :: q') v = heldText? f.tags q' f.value := by
  induction h with
  | record h => exact h.heldText?_eq hf tags
  | element hv h =>
    rw [List.cons_append, heldText?, hv]
    exact h.heldText?_eq hf tags
  | ref _ ih => exact ih hf

/-- A selected text is held by a field that the marker means. -/
theorem Selected.exists_tags {q : Place} {s : String} (h : Selected m v q s) :
    ∃ tags, heldText? .empty q v = some (tags, s) ∧ (tags.get? m.tag).getD "" = m.value := by
  obtain @⟨q, q', r, i, f, s, hr, hf, hm, hs⟩ := h
  exact ⟨f.tags, by rw [hr.heldText?_eq hf, hs.heldText?_eq rfl], hm⟩

/-! ## Markers without a text in common -/

/-- No text is selected by both markers. -/
def Apart (m n : Marker) (v : Value) : Prop := ∀ q t, Selected m v q t → ¬ Selected n v q t

theorem Apart.symm (h : Apart m n v) : Apart n m v := fun q t hn hm ↦ h q t hm hn

/-- Two values of one annotation are never found on the same field. -/
theorem apart_of_value_ne (htag : m.tag = n.tag) (hvalue : m.value ≠ n.value) (v : Value) :
    Apart m n v := by
  intro q t hm hn
  obtain ⟨tags, hheld, hm⟩ := hm.exists_tags
  obtain ⟨tags', hheld', hn⟩ := hn.exists_tags
  obtain ⟨rfl, -⟩ := Prod.mk.inj (Option.some.inj (hheld.symm.trans hheld'))
  exact hvalue (by rw [← hm, htag, hn])

/-- Where one marker selects a text, the other one selects no text whatever. -/
theorem Apart.not_selected (h : Apart m n v) {q : Place} {t : String} (ht : Selected m v q t)
    (t' : String) : ¬ Selected n v q t' := by
  intro ht'
  obtain ⟨tags, hheld, -⟩ := ht.exists_tags
  obtain ⟨tags', hheld', -⟩ := ht'.exists_tags
  obtain ⟨-, rfl⟩ := Prod.mk.inj (Option.some.inj (hheld.symm.trans hheld'))
  exact h q t ht ht'

/-! ## What one pass changes -/

section

variable {ε δ : Type}

/-- The texts that were found are replaced as the rule says, and the others stay. -/
def byRule (rule : String → Except ε String) (found : List (Place × String)) (q : Place)
    (t : String) : String :=
  if (q, t) ∈ found then (rule t).toOption.getD t else t

theorem exists_mem_zip {rule : String → Except ε String} {found : List (Place × String)}
    {as : List String} (h : as.map .ok = (found.map Prod.snd).map rule) {q : Place} {t : String}
    (ht : (q, t) ∈ found) : ∃ a, ((q, t), a) ∈ found.zip as ∧ rule t = .ok a := by
  induction found generalizing as with
  | nil => cases ht
  | cons x found ih =>
    rw [List.map_cons, List.map_cons] at h
    obtain ⟨a, as, rfl, ha, has⟩ := List.map_eq_cons_iff.mp h
    rcases List.mem_cons.mp ht with rfl | ht
    · exact ⟨a, List.mem_cons_self, ha.symm⟩
    · obtain ⟨b, hb, hrule⟩ := ih has ht
      exact ⟨b, List.mem_cons_of_mem _ hb, hrule⟩

theorem Replaced.eq_mapTexts {rule : String → Except ε String} {found : List (Place × String)}
    {as : List String} (h : Replaced v u found as)
    (has : as.map .ok = (found.map Prod.snd).map rule) : u = mapTexts (byRule rule found) v := by
  obtain ⟨change, hnew, hold, rfl⟩ := h
  refine congrArg (mapTexts · v) (funext fun q ↦ funext fun t ↦ ?_)
  by_cases ht : (q, t) ∈ found
  · obtain ⟨a, ha, hrule⟩ := exists_mem_zip has ht
    rw [hnew _ ha, byRule, if_pos ht, hrule]
    rfl
  · rw [hold q t ht, byRule, if_neg ht]

/-- **What a pass whose leaf follows a rule makes of a value.** -/
theorem transform_byRule {σ : Type} {p : Pass σ ε} {rule : String → Except ε String}
    (hkey : p.key ≠ "") (hp : p.Follows rule) {s s₁ : σ} (h : transform p v s = .ok u s₁) :
    Walkable v ∧ u = mapTexts (byRule rule (spots (rootTrail p.marker v))) v := by
  have hwalk := walkable_of_transform hkey h
  rw [transform_eq p v hkey] at h
  obtain ⟨as, hrun, rfl⟩ := map_eq_ok h
  have hanswers := hp.answers_eq (Pass.passes_of_run hrun).answered
  refine ⟨hwalk, (replaced_refill hwalk (p.length_of_run hrun)).eq_mapTexts ?_⟩
  rw [snd_spots, snd_rootTrail hwalk]
  exact hanswers

/-- What one pass changes, the other one does not. -/
theorem byRule_of_selected (h : Apart m n v) {q : Place} {t : String} (ht : Selected m v q t)
    (rule : String → Except ε String) (t' : String) :
    byRule rule (spots (rootTrail n v)) q t' = t' :=
  if_neg fun ht' ↦ h.not_selected ht t' (mem_spots_rootTrail.mp ht')

theorem byRule_of_not_selected {q : Place} {t : String} (ht : ¬ Selected m v q t)
    (rule : String → Except ε String) : byRule rule (spots (rootTrail m v)) q t = t :=
  if_neg fun ht' ↦ ht (mem_spots_rootTrail.mp ht')

/-- Changes at different places come to the same in either order. -/
theorem byRule_comm (h : Apart m n v) (f : String → Except ε String)
    (g : String → Except δ String) (q : Place) (t : String) :
    byRule g (spots (rootTrail n v)) q (byRule f (spots (rootTrail m v)) q t) =
      byRule f (spots (rootTrail m v)) q (byRule g (spots (rootTrail n v)) q t) := by
  by_cases hm : (q, t) ∈ spots (rootTrail m v)
  · have hm := mem_spots_rootTrail.mp hm
    rw [byRule_of_selected h hm, byRule_of_selected h hm]
  by_cases hn : (q, t) ∈ spots (rootTrail n v)
  · have hn := mem_spots_rootTrail.mp hn
    rw [byRule_of_selected h.symm hn, byRule_of_selected h.symm hn]
  · rw [byRule_of_not_selected fun h ↦ hm (mem_spots_rootTrail.mpr h),
      byRule_of_not_selected fun h ↦ hn (mem_spots_rootTrail.mpr h),
      byRule_of_not_selected fun h ↦ hm (mem_spots_rootTrail.mpr h)]

end

/-! ## One pass after the other -/

section

variable {σ τ ε δ : Type}

/-- Two transformations in turn succeed with `w`: one makes a copy of `v`, and the other makes `w`
of the copy. -/
def InTurn (p : Pass σ ε) (q : Pass τ δ) (v : Value) (s : σ) (t : τ) (w : Value) : Prop :=
  ∃ u s₁ t₁, transform p v s = .ok u s₁ ∧ transform q u t = .ok w t₁

/-- A pass does with two values the same: it makes the same calls, and fails alike if it fails. -/
structure Likewise (p : Pass σ ε) (v : Value) (s : σ) (v' : Value) (s' : σ) : Prop where
  made : p.made v s = p.made v' s'
  failure : ∀ e, outcome (transform p v s) = .error e ↔ outcome (transform p v' s') = .error e

variable {p : Pass σ ε} {q : Pass τ δ} {f : String → Except ε String}
  {g : String → Except δ String}

theorem Likewise.symm {v' : Value} {s s' : σ} (h : Likewise p v s v' s') : Likewise p v' s' v s :=
  ⟨h.made.symm, fun e ↦ (h.failure e).symm⟩

theorem except_map_eq_error {α β : Type} {k : α → β} {x : Except ε α} {e : ε} :
    x.map k = .error e ↔ x = .error e := by
  cases x with
  | ok a => exact ⟨nofun, nofun⟩
  | error e' => exact ⟨fun h ↦ by cases h; rfl, fun h ↦ by cases h; rfl⟩

theorem likewise_of_events (hkey : p.key ≠ "") (hp : p.Follows f) {v' : Value}
    (h : (root v).events p.marker = (root v').events p.marker) (s s' : σ) :
    Likewise p v s v' s' := by
  have hevents : (HasRoot.root v).events p.marker = (HasRoot.root v').events p.marker := h
  refine ⟨?_, fun e ↦ ?_⟩
  · rw [Pass.made, Pass.made, transform_eq p.recorded v hkey, transform_eq p.recorded v' hkey,
      recordOf_map, recordOf_map]
    exact (congrArg (fun es ↦ recordOf (p.recorded.run es (s, []))) hevents).trans
      (hp.recordOf_run _ s s' [])
  · rw [transform_eq p v hkey, transform_eq p v' hkey, outcome_map, outcome_map,
      except_map_eq_error, except_map_eq_error, hevents, hp.outcome_run _ s s']

theorem Likewise.exists_ok {v v' w : Value} {s s' s₁ : σ} (h : Likewise p v s v' s')
    (hok : transform p v s = .ok w s₁) : ∃ w' s₁', transform p v' s' = .ok w' s₁' := by
  cases h' : transform p v' s' with
  | ok w' s₁' => exact ⟨w', s₁', rfl⟩
  | error e s₁' =>
    have herror := (h.failure e).mpr (by rw [h']; rfl)
    rw [hok] at herror
    cases herror

variable (hp : p.key ≠ "") (hf : p.Follows f)

include hp hf

/-- After a pass with another marker the trail is as it was. -/
theorem rootTrail_after (h : Apart p.marker n v) {s s₁ : σ}
    (hu : transform p v s = .ok u s₁) : rootTrail n u = rootTrail n v := by
  obtain ⟨-, rfl⟩ := transform_byRule hp hf hu
  exact rootTrail_of_keeps fun q t ht ↦ byRule_of_not_selected (h.symm q t ht) f

variable (hq : q.key ≠ "") (hg : q.Follows g)

include hq hg

/-- **A pass does after another what it would do before it.** -/
theorem likewise_after (h : Apart p.marker q.marker v) {s s₁ : σ}
    (hu : transform p v s = .ok u s₁) (t t' : τ) : Likewise q u t v t' := by
  have htrail := rootTrail_after hp hf h hu
  obtain ⟨hwalk, hmap⟩ := transform_byRule hp hf hu
  refine likewise_of_events hq hg ?_ t t'
  rw [← snd_rootTrail hwalk, ← snd_rootTrail (hmap ▸ hwalk.mapTexts _), htrail]

/-- The other order succeeds too, with the same value. -/
theorem InTurn.swap (h : Apart p.marker q.marker v) {s : σ} {t : τ} {w : Value}
    (hw : InTurn p q v s t w) (s' : σ) (t' : τ) : InTurn q p v t' s' w := by
  obtain ⟨u, s₁, t₁, hu, hw⟩ := hw
  obtain ⟨u', t₁', hu'⟩ := (likewise_after hp hf hq hg h hu t t').exists_ok hw
  obtain ⟨w', s₁', hw'⟩ :=
    (likewise_after hq hg hp hf h.symm hu' s' s).symm.exists_ok hu
  have hsame : w' = w := by
    rw [(transform_byRule hp hf hw').2, (transform_byRule hq hg hw).2,
      rootTrail_after hq hg h.symm hu', rootTrail_after hp hf h hu, (transform_byRule hq hg hu').2,
      (transform_byRule hp hf hu).2, mapTexts_mapTexts, mapTexts_mapTexts]
    exact congrArg (mapTexts · v) (funext fun q ↦ funext fun t ↦ (byRule_comm h f g q t).symm)
  exact ⟨u', t₁', s₁', hu', hsame ▸ hw'⟩

end

/-- **Passes without a text in common may be swapped.**  Markers with one tag and different values
never select the same text.  Where no text is selected by both markers, and the answers of each leaf
depend on text and key alone, the two passes succeed in one order just when they do in the other,
and with the same value; and in either order each pass that comes to its turn makes the same calls,
those that it makes in the value as it was given, and fails there as it fails here. -/
theorem transform_inTurn {σ τ ε δ : Type} (p : Pass σ ε) (q : Pass τ δ) (v : Value)
    (f : String → Except ε String) (g : String → Except δ String) (hp : p.key ≠ "")
    (hq : q.key ≠ "") (hf : p.Follows f) (hg : q.Follows g) :
    (p.marker.tag = q.marker.tag → p.marker.value ≠ q.marker.value →
      Apart p.marker q.marker v) ∧
    (Apart p.marker q.marker v → ∀ (s s' : σ) (t t' : τ),
      (∀ w, InTurn p q v s t w ↔ InTurn q p v t' s' w) ∧
      (∀ u s₁, transform p v s = .ok u s₁ → Likewise q u t v t') ∧
      (∀ u t₁, transform q v t' = .ok u t₁ → Likewise p u s' v s)) := by
  refine ⟨fun htag hvalue ↦ apart_of_value_ne htag hvalue v, fun h s s' t t' ↦ ⟨fun w ↦ ?_, ?_, ?_⟩⟩
  · exact ⟨fun hw ↦ hw.swap hp hf hq hg h s' t', fun hw ↦ hw.swap hq hg hp hf h.symm t s⟩
  · exact fun u s₁ hu ↦ likewise_after hp hf hq hg h hu t t'
  · exact fun u t₁ hu ↦ likewise_after hq hg hp hf h.symm hu s' s

/-- A pass over the marked fields that puts a star behind each text, and counts its calls. -/
def starring : Pass Nat Empty := ⟨"k", .standard, fun t _ n ↦ .ok (t ++ "*") (n + 1)⟩

/-- A pass over the fields without the annotation that refuses the empty text and puts others in
brackets. -/
def bracing : Pass Unit Unit := ⟨"l", ⟨"log", ""⟩, fun t _ _ ↦
  if t = "" then .error () () else .ok ("<" ++ t ++ ">") ()⟩

/-- A letter with texts for either of two passes, and one for neither. -/
def letter (sender receiver : String) : Value :=
  .ref (.record ⟨"Letter", [.tagged "sender" (.text sender) [("log", "encrypt")],
    .tagged "stamp" (.text "blue") [("log", "plain")],
    .tagged "cover" (.record ⟨"Cover", [.tagged "receiver" (.ref (.text receiver)) []]⟩) []]⟩)

/-- A field without the annotation is one with the empty value of it, so the two markers differ in
their values alone. -/
theorem transform_inTurn_letter :
    InTurn starring bracing (letter "Ada" "Bob") 0 () (letter "Ada*" "<Bob>") ∧
    InTurn bracing starring (letter "Ada" "Bob") () 0 (letter "Ada*" "<Bob>") ∧
    bracing.made (letter "Ada*" "Bob") () = [("Bob", "l")] ∧
    starring.made (letter "Ada" "<Bob>") 0 = [("Ada", "k")] := by
  have hstarring : starring.Follows fun t ↦ .ok (t ++ "*") := fun t s ↦ rfl
  have hbracing : bracing.Follows fun t ↦ if t = "" then .error () else .ok ("<" ++ t ++ ">") := by
    intro t s
    by_cases h : t = "" <;> simp [bracing, h, outcome]
  obtain ⟨hvalues, hswap⟩ := transform_inTurn starring bracing (letter "Ada" "Bob") _ _
    (by decide) (by decide) hstarring hbracing
  obtain ⟨horders, hfirst, hsecond⟩ := hswap (hvalues rfl (by decide)) 0 0 () ()
  have hinTurn : InTurn starring bracing (letter "Ada" "Bob") 0 () (letter "Ada*" "<Bob>") :=
    ⟨letter "Ada*" "Bob", 1, (), rfl, rfl⟩
  refine ⟨hinTurn, (horders _).mp hinTurn, ?_, ?_⟩
  · exact (hfirst (letter "Ada*" "Bob") 1 rfl).made
  · exact (hsecond (letter "Ada" "<Bob>") () rfl).made

end Value

end Shroud
