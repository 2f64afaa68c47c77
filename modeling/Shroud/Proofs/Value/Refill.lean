import Shroud.Proofs.Value.Trail

/-!
# Texts put back into a value

The replacements of a walk are put back into the value one by one, as the walk has met the texts.
`refill_put` says what that comes to: the value with the texts at the places of the trail changed,
whatever function of place and text tells the new ones.
-/

set_option autoImplicit false

namespace Shroud.Value

variable {m : Marker}

/-! ## Texts put back into a value -/

/-- The texts of a trail with their places. -/
def spots (tr : List (Place × Event)) : List (Place × String) :=
  tr.filterMap fun x ↦ x.2.content?.map (x.1, ·)

@[simp] theorem spots_append (xs ys : List (Place × Event)) :
    spots (xs ++ ys) = spots xs ++ spots ys := List.filterMap_append

theorem spots_under (h : Hop) (xs : List (Place × Event)) :
    spots (xs.map (under h)) = (spots xs).map (under h) := by
  simp only [spots, List.filterMap_map, List.map_filterMap]
  refine congrArg (List.filterMap · xs) (funext fun ⟨q, e⟩ ↦ ?_)
  cases e <;> rfl

theorem snd_spots (xs : List (Place × Event)) :
    (spots xs).map Prod.snd = contents (xs.map Prod.snd) := by
  simp only [spots, contents, List.map_filterMap, List.filterMap_map]
  refine congrArg (List.filterMap · xs) (funext fun ⟨q, e⟩ ↦ ?_)
  cases e <;> rfl

mutual

/-- A change that keeps every text keeps the value. -/
theorem mapTexts_of_keeps (change : Place → String → String) (h : ∀ q s, change q s = s) :
    ∀ v : Value, mapTexts change v = v
  | text s => by rw [mapTexts, h]
  | ref v => by rw [mapTexts, mapTexts_of_keeps _ (fun q ↦ h (.target :: q)) v]
  | seq items => by rw [mapTexts, mapItems_of_keeps change h 0 items]
  | record ⟨name, fs⟩ => by rw [mapTexts, mapFields_of_keeps change h 0 fs]
  | bool _ => rfl
  | int _ => rfl
  | float _ => rfl
  | timestamp _ => rfl
  | null => rfl

theorem mapItems_of_keeps (change : Place → String → String) (h : ∀ q s, change q s = s)
    (index : Nat) : ∀ items : List Value, mapItems change index items = items
  | [] => rfl
  | v :: rest => by
    rw [mapItems, mapTexts_of_keeps _ (fun q ↦ h (.element index :: q)) v,
      mapItems_of_keeps change h (index + 1) rest]

theorem mapFields_of_keeps (change : Place → String → String) (h : ∀ q s, change q s = s)
    (index : Nat) : ∀ fs : List (Field TagMap Value), mapFields change index fs = fs
  | [] => rfl
  | ⟨name, tags, v⟩ :: rest => by
    rw [mapFields, mapTexts_of_keeps _ (fun q ↦ h (.field index :: q)) v,
      mapFields_of_keeps change h (index + 1) rest]

end

/-- The change gives the texts `ts` at the places of a trail that hold a text. -/
def Gives (change : Place → String → String) (tr : List (Place × Event)) (ts : List String) :
    Prop :=
  ∀ x ∈ (spots tr).zip ts, change x.1.1 x.1.2 = x.2

/-- A trail has a text at a place. -/
def HasText (tr : List (Place × Event)) (q : Place) : Prop := ∃ path s, (q, .text path s) ∈ tr

theorem gives_append {change : Place → String → String} {xs ys : List (Place × Event)} {h : Hop}
    {ts us : List String} (hlen : (contents (xs.map Prod.snd)).length = ts.length)
    (hg : Gives change (xs.map (under h) ++ ys) (ts ++ us)) :
    Gives (fun q ↦ change (h :: q)) xs ts ∧ Gives change ys us := by
  have hlen' : ((spots xs).map (under h)).length = ts.length := by
    rw [List.length_map, ← hlen, ← snd_spots, List.length_map]
  rw [Gives, spots_append, spots_under, List.zip_append hlen'] at hg
  refine ⟨fun x hx ↦ ?_, fun x hx ↦ hg x (List.mem_append_right _ hx)⟩
  have hmem : (under h x.1, x.2) ∈ ((spots xs).map (under h)).zip ts := by
    rw [List.zip_map_left]
    exact List.mem_map.mpr ⟨x, hx, rfl⟩
  exact hg _ (List.mem_append_left _ hmem)

theorem gives_under {change : Place → String → String} {xs : List (Place × Event)} {h : Hop}
    {ts : List String} (hg : Gives change (xs.map (under h)) ts) :
    Gives (fun q ↦ change (h :: q)) xs ts := by
  rw [Gives, spots_under, List.zip_map_left] at hg
  exact fun x hx ↦ hg _ (List.mem_map.mpr ⟨x, hx, rfl⟩)

theorem hasText_under {xs : List (Place × Event)} {h : Hop} {q : Place}
    (hq : HasText (xs.map (under h)) (h :: q)) : HasText xs q := by
  obtain ⟨path, s, hq⟩ := hq
  obtain ⟨_, heq, hq⟩ := mem_map_under.mp hq
  cases heq
  exact ⟨path, s, hq⟩

theorem hasText_fieldTrail_of_record {path : String} {depth : Nat} {chosen : Bool} {name : String}
    {fs : List (Field TagMap Value)} {q : Place}
    (hq : HasText (trail m path depth chosen (record ⟨name, fs⟩)) q) :
    HasText (fieldTrail m path (depth + 1) 0 fs) q := by
  obtain ⟨path', s, hq⟩ := hq
  rcases mem_recordTrail.mp hq with ⟨-, h, -⟩ | ⟨i, f, q', hf, rfl, h⟩
  · cases h
  · exact ⟨path', s, mem_fieldTrail.mpr ⟨i, f, q', hf, by rw [Nat.zero_add], h⟩⟩

/-- What is met below a step, when nothing after it is. -/
theorem hasText_of_append {xs ys : List (Place × Event)} {h : Hop} {q : Place}
    (hys : ∀ q e, (h :: q, e) ∉ ys) (hq : HasText (xs.map (under h) ++ ys) (h :: q)) :
    HasText xs q := by
  obtain ⟨path, s, hq⟩ := hq
  exact hasText_under ⟨path, s, (List.mem_append.mp hq).resolve_right (hys q _)⟩

/-- What is met after a step, when it is not below the step. -/
theorem hasText_of_append_of_ne {xs ys : List (Place × Event)} {h h' : Hop} {q : Place}
    (hne : h' ≠ h) (hq : HasText (xs.map (under h) ++ ys) (h' :: q)) : HasText ys (h' :: q) := by
  obtain ⟨path, s, hq⟩ := hq
  refine ⟨path, s, (List.mem_append.mp hq).resolve_left fun hx ↦ ?_⟩
  obtain ⟨_, heq, -⟩ := mem_map_under.mp hx
  exact hne (List.cons.inj heq).1

theorem not_mem_fieldTrail {path : String} {depth index i : Nat} {fs : List (Field TagMap Value)}
    (hi : i < index) (q : Place) (e : Event) :
    (.field i :: q, e) ∉ fieldTrail m path depth index fs := by
  intro hmem
  obtain ⟨j, _, _, -, heq, -⟩ := mem_fieldTrail.mp hmem
  have hj := Hop.field.inj (List.cons.inj heq).1
  omega

theorem not_mem_elementTrail {index i : Nat} {items : List Value} (hi : i < index) (q : Place)
    (e : Event) : (.element i :: q, e) ∉ elementTrail m index items := by
  intro hmem
  obtain ⟨j, _, _, -, heq, -⟩ := mem_elementTrail.mp hmem
  have hj := Hop.element.inj (List.cons.inj heq).1
  omega

mutual

theorem fill_put (path : String) (depth : Nat) (chosen : Bool) :
    ∀ (v : Value) (ts : List String) (change : Place → String → String),
      ts.length = (contents ((outline v).events m path depth chosen)).length →
      Gives change (trail m path depth chosen v) ts →
      (∀ q s, ¬ HasText (trail m path depth chosen v) q → change q s = s) →
      fill v ((outline v).put m chosen ts).1 = mapTexts change v
  | text s, ts, change, hlen, hnew, hold => by
    cases chosen with
    | false =>
      have hs : change [] s = s := hold [] s nofun
      rw [mapTexts, hs]
      rfl
    | true =>
      match ts, hlen with
      | [t], _ =>
        have hs : change [] s = t := hnew (([], s), t) List.mem_cons_self
        rw [mapTexts, hs]
        rfl
  | record ⟨name, fs⟩, ts, change, hlen, hnew, hold => by
    have hcontents : contents ((outline (record ⟨name, fs⟩)).events m path depth chosen) =
        contents (Outline.fieldEvents m path (depth + 1) (outlineFields fs)) := by
      rw [outline, Outline.events, Outline.recordEvents]
      split <;> rfl
    have hspots : spots (trail m path depth chosen (record ⟨name, fs⟩)) =
        spots (fieldTrail m path (depth + 1) 0 fs) := by
      rw [trail]
      split <;> rfl
    rw [hcontents] at hlen
    rw [Gives, hspots] at hnew
    have hfields := fillFields_put path (depth + 1) 0 fs ts change hlen hnew fun i q s _ hq ↦
      hold _ s fun htext ↦ hq (hasText_fieldTrail_of_record htext)
    rw [outline, Outline.put, Outline.putRecord, fill, mapTexts, hfields]
  | ref v, ts, change, hlen, hnew, hold => by
    have hv := fill_put path depth chosen v ts (fun q ↦ change (.target :: q)) hlen
      (gives_under hnew) fun q s hq ↦ hold _ s fun htext ↦ hq (hasText_under htext)
    rw [outline, fill, mapTexts, hv]
  | seq items, ts, change, hlen, hnew, hold => by
    rw [mapTexts_of_keeps change fun q s ↦ hold q s nofun]
    rfl
  | bool _, _, _, _, _, _ => rfl
  | int _, _, _, _, _, _ => rfl
  | float _, _, _, _, _, _ => rfl
  | timestamp _, _, _, _, _, _ => rfl
  | null, _, _, _, _, _ => rfl

theorem fillFields_put (path : String) (depth index : Nat) :
    ∀ (fs : List (Field TagMap Value)) (ts : List String) (change : Place → String → String),
      ts.length = (contents (Outline.fieldEvents m path depth (outlineFields fs))).length →
      Gives change (fieldTrail m path depth index fs) ts →
      (∀ i q s, index ≤ i → ¬ HasText (fieldTrail m path depth index fs) (.field i :: q) →
        change (.field i :: q) s = s) →
      fillFields fs (Outline.putFields m (outlineFields fs) ts).1 = mapFields change index fs
  | [], _, _, _, _, _ => rfl
  | ⟨name, tags, v⟩ :: rest, ts, change, hlen, hnew, hold => by
    rw [outlineFields, Outline.fieldEvents, contents_append, List.length_append] at hlen
    obtain ⟨front, back, rfl, hfront, hback⟩ := exists_append_of_length_eq hlen
    rw [fieldTrail] at hnew
    obtain ⟨hv, hrest⟩ := gives_append (by rw [snd_trail, hfront]) hnew
    have hvalue := fill_put (joinPath path name) depth _ v front _ hfront hv fun q s hq ↦
      hold index q s (Nat.le_refl _) fun htext ↦
        hq (hasText_of_append (not_mem_fieldTrail index.lt_succ_self) htext)
    have hfields := fillFields_put path depth (index + 1) rest back change hback hrest
      fun i q s hi hq ↦ hold i q s (Nat.le_of_succ_le hi) fun htext ↦
        hq (hasText_of_append_of_ne (fun h ↦ by have := Hop.field.inj h; omega) htext)
    rw [outlineFields, Outline.putFields, Outline.put_append _ _ _ _ _ _ hfront, fillFields,
      mapFields, hvalue, hfields]

end

theorem fillEach_put (index : Nat) (items : List Value) (ts : List String)
    (change : Place → String → String)
    (hlen : ts.length = (contents (Outline.elementEvents m index (items.map outline))).length)
    (hnew : Gives change (elementTrail m index items) ts)
    (hold : ∀ i q s, index ≤ i → ¬ HasText (elementTrail m index items) (.element i :: q) →
      change (.element i :: q) s = s) :
    fillEach items (Outline.putElements m (items.map outline) ts).1 =
      mapItems change index items := by
  induction items generalizing index ts with
  | nil => rfl
  | cons v rest ih =>
    rw [List.map_cons, Outline.elementEvents, contents_append, List.length_append] at hlen
    obtain ⟨front, back, rfl, hfront, hback⟩ := exists_append_of_length_eq hlen
    rw [elementTrail] at hnew
    obtain ⟨hv, hrest⟩ := gives_append (by rw [snd_trail, hfront]) hnew
    have hvalue := fill_put (elementPath index) 0 false v front _ hfront hv fun q s hq ↦
      hold index q s (Nat.le_refl _) fun htext ↦
        hq (hasText_of_append (not_mem_elementTrail index.lt_succ_self) htext)
    have hitems := ih (index + 1) back hback hrest fun i q s hi hq ↦
      hold i q s (Nat.le_of_succ_le hi) fun htext ↦
        hq (hasText_of_append_of_ne (fun h ↦ by have := Hop.element.inj h; omega) htext)
    rw [List.map_cons, Outline.putElements, Outline.put_append _ _ _ _ _ _ hfront, mapItems,
      ← hvalue, ← hitems]
    rfl

/-- **Texts put back into a value change it at the places of its trail**, and nowhere else. -/
theorem refill_put {v : Value} (hwalk : Walkable v) (ts : List String)
    (change : Place → String → String)
    (hlen : ts.length = (contents ((root v).events m)).length)
    (hnew : Gives change (rootTrail m v) ts)
    (hold : ∀ q s, ¬ HasText (rootTrail m v) q → change q s = s) :
    refill v ((root v).put m ts) = mapTexts change v := by
  induction hwalk generalizing change with
  | record r =>
    obtain ⟨name, fs⟩ := r
    have hfill := fill_put "" 0 false (record ⟨name, fs⟩) ts change hlen hnew hold
    rwa [outline, Outline.put, fill] at hfill
  | seq items =>
    have hitems := fillEach_put 0 items ts change hlen hnew fun i q s _ hq ↦ hold _ s hq
    rw [root, Root.put, refill, mapTexts, hitems]
  | @ref v hwalk ih =>
    have hv := ih (fun q ↦ change (.target :: q)) hlen (gives_under hnew)
      fun q s hq ↦ hold _ s fun htext ↦ hq (hasText_under htext)
    rw [root, refill, mapTexts, hv]

end Shroud.Value
