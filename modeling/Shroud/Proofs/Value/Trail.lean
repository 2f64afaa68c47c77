import Shroud.Proofs.Value.Place

/-!
# The trail of a walk

`rootTrail m v` lists what a walk from `v` meets, each event with its place.

* `snd_rootTrail`: without the places, these are the events of the walk.
* `inOrder_rootTrail`: they come in the order of their places.
* `mem_rootTrail_iff`: they are the events that `Occurs` tells of, which knows nothing of the walk.

The two last say which list the trail is: there is one list only that is in order and has these
members.
-/

set_option autoImplicit false

namespace Shroud.Value

/-! ## The events of a walk with their places -/

/-- A part below a step, with what was met there. -/
def under {α : Type} (h : Hop) (x : Place × α) : Place × α := (h :: x.1, x.2)

section Trail

variable (m : Marker)

mutual

/-- What a walk meets in the place of a field at `path`, which the marker selects or not, with
`depth` records around it; each event with its place. -/
def trail (path : String) (depth : Nat) (chosen : Bool) : Value → List (Place × Event)
  | text s => if chosen then [([], .text path s)] else []
  | record ⟨_, fs⟩ =>
    (if depthLimit ≤ depth then [([], .tooDeep)] else []) ++ fieldTrail path (depth + 1) 0 fs
  | ref v => (trail path depth chosen v).map (under .target)
  | _ => []

/-- What a walk meets in the fields from `index` on of the record at `path`. -/
def fieldTrail (path : String) (depth index : Nat) :
    List (Field TagMap Value) → List (Place × Event)
  | [] => []
  | ⟨name, tags, v⟩ :: rest =>
    (trail (joinPath path name) depth (m.selects tags.get?) v).map (under (.field index)) ++
      fieldTrail path depth (index + 1) rest

end

/-- What a walk meets in the elements from `index` on. -/
def elementTrail (index : Nat) : List Value → List (Place × Event)
  | [] => []
  | v :: rest =>
    (trail m (elementPath index) 0 false v).map (under (.element index)) ++
      elementTrail (index + 1) rest

/-- What a walk meets from its start on, each event with its place. -/
def rootTrail : Value → List (Place × Event)
  | record r => trail m "" 0 false (record r)
  | seq items => elementTrail m 0 items
  | ref v => (rootTrail v).map (under .target)
  | _ => []

end Trail

variable {m : Marker}

mutual

theorem snd_trail (path : String) (depth : Nat) (chosen : Bool) :
    ∀ v : Value, (trail m path depth chosen v).map Prod.snd =
      (outline v).events m path depth chosen
  | text s => by
    rw [trail, outline, Outline.events]
    split <;> rfl
  | record ⟨name, fs⟩ => by
    rw [trail, outline, Outline.events, Outline.recordEvents, List.map_append,
      snd_fieldTrail path (depth + 1) 0 fs]
    split <;> rfl
  | ref v => by
    rw [trail, outline, List.map_map, ← snd_trail path depth chosen v]
    rfl
  | bool _ => rfl
  | int _ => rfl
  | float _ => rfl
  | timestamp _ => rfl
  | null => rfl
  | seq _ => rfl

theorem snd_fieldTrail (path : String) (depth index : Nat) :
    ∀ fs : List (Field TagMap Value), (fieldTrail m path depth index fs).map Prod.snd =
      Outline.fieldEvents m path depth (outlineFields fs)
  | [] => rfl
  | ⟨name, tags, v⟩ :: rest => by
    rw [fieldTrail, outlineFields, Outline.fieldEvents, List.map_append, List.map_map,
      snd_fieldTrail path depth (index + 1) rest, ← snd_trail (joinPath path name) depth _ v]
    rfl

end

theorem snd_elementTrail (index : Nat) (items : List Value) :
    (elementTrail m index items).map Prod.snd =
      Outline.elementEvents m index (items.map outline) := by
  induction items generalizing index with
  | nil => rfl
  | cons v rest ih =>
    rw [elementTrail, List.map_cons, Outline.elementEvents, List.map_append, List.map_map, ih,
      ← snd_trail]
    rfl

/-- The events of a walk are those of its trail. -/
theorem snd_rootTrail {v : Value} (h : Walkable v) :
    (rootTrail m v).map Prod.snd = (root v).events m := by
  induction h with
  | record r => exact snd_trail "" 0 false (record r)
  | seq items => exact snd_elementTrail 0 items
  | @ref v h ih =>
    rw [rootTrail, root, List.map_map, ← ih]
    rfl

/-- A value from which no walk can start has a root that tells its kind. -/
theorem root_of_not_walkable :
    ∀ v : Value, ¬ Walkable v → ∃ found, root v = .unsupported found
  | record r, h => absurd (.record r) h
  | seq items, h => absurd (.seq items) h
  | ref v, h => root_of_not_walkable v fun hv ↦ h (.ref hv)
  | bool _, _ => ⟨_, rfl⟩
  | int _, _ => ⟨_, rfl⟩
  | float _, _ => ⟨_, rfl⟩
  | text _, _ => ⟨_, rfl⟩
  | timestamp _, _ => ⟨_, rfl⟩
  | null, _ => ⟨_, rfl⟩

/-- A transformation that succeeds has started from a value that can be walked. -/
theorem walkable_of_transform {σ ε : Type} {p : Pass σ ε} {v w : Value} {s s₁ : σ}
    (hkey : p.key ≠ "") (h : transform p v s = .ok w s₁) : Walkable v := by
  refine Classical.byContradiction fun hwalk ↦ ?_
  obtain ⟨found, hroot⟩ := root_of_not_walkable v hwalk
  rw [transform_eq p v hkey] at h
  obtain ⟨as, hrun, -⟩ := map_eq_ok h
  have hfail : p.run ((root v).events p.marker) s = .ok as s₁ := hrun
  rw [hroot] at hfail
  cases hfail

/-! ## The order of a trail -/

theorem mem_map_under {α : Type} {xs : List (Place × α)} {h : Hop} {q : Place} {a : α} :
    (q, a) ∈ xs.map (under h) ↔ ∃ q', q = h :: q' ∧ (q', a) ∈ xs := by
  constructor
  · intro hmem
    obtain ⟨⟨q', b⟩, hx, heq⟩ := List.mem_map.mp hmem
    obtain ⟨rfl, rfl⟩ := Prod.mk.inj heq
    exact ⟨q', rfl, hx⟩
  · rintro ⟨q', rfl, hx⟩
    exact List.mem_map.mpr ⟨(q', a), hx, rfl⟩

theorem mem_fieldTrail {path : String} {depth index : Nat} {fs : List (Field TagMap Value)}
    {q : Place} {e : Event} :
    (q, e) ∈ fieldTrail m path depth index fs ↔
      ∃ i f q', fs[i]? = some f ∧ q = .field (index + i) :: q' ∧
        (q', e) ∈ trail m (joinPath path f.name) depth (m.selects f.tags.get?) f.value := by
  induction fs generalizing index with
  | nil => simp [fieldTrail]
  | cons f rest ih =>
    obtain ⟨name, tags, v⟩ := f
    rw [fieldTrail, List.mem_append, ih]
    constructor
    · rintro (h | ⟨i, f, q', hf, rfl, h⟩)
      · obtain ⟨q', rfl, hmem⟩ := mem_map_under.mp h
        exact ⟨0, _, q', rfl, rfl, hmem⟩
      · exact ⟨i + 1, f, q', hf, by rw [Nat.add_assoc, Nat.add_comm 1 i], h⟩
    · rintro ⟨i, f, q', hf, rfl, h⟩
      cases i with
      | zero =>
        obtain rfl := Option.some.inj hf
        exact Or.inl (mem_map_under.mpr ⟨q', rfl, h⟩)
      | succ i => exact Or.inr ⟨i, f, q', hf, by rw [Nat.add_assoc, Nat.add_comm 1 i], h⟩

theorem mem_elementTrail {index : Nat} {items : List Value} {q : Place} {e : Event} :
    (q, e) ∈ elementTrail m index items ↔
      ∃ i v q', items[i]? = some v ∧ q = .element (index + i) :: q' ∧
        (q', e) ∈ trail m (elementPath (index + i)) 0 false v := by
  induction items generalizing index with
  | nil => simp [elementTrail]
  | cons v rest ih =>
    rw [elementTrail, List.mem_append, ih]
    constructor
    · rintro (h | ⟨i, u, q', hu, rfl, h⟩)
      · obtain ⟨q', rfl, hmem⟩ := mem_map_under.mp h
        exact ⟨0, _, q', rfl, rfl, hmem⟩
      · rw [Nat.add_assoc, Nat.add_comm 1 i] at h ⊢
        exact ⟨i + 1, u, q', hu, rfl, h⟩
    · rintro ⟨i, u, q', hu, rfl, h⟩
      cases i with
      | zero =>
        obtain rfl := Option.some.inj hu
        exact Or.inl (mem_map_under.mpr ⟨q', rfl, h⟩)
      | succ i =>
        rw [← Nat.add_assoc, Nat.add_right_comm] at h ⊢
        exact Or.inr ⟨i, u, q', hu, rfl, h⟩

/-- Of two events the one that is met first is at the place that is before the other. -/
def InOrder {α : Type} (xs : List (Place × α)) : Prop := xs.Pairwise fun x y ↦ x.1.Before y.1

theorem nodup_of_inOrder {α : Type} {l : List (Place × α)} (h : InOrder l) : l.Nodup := by
  refine List.Pairwise.imp (fun {x y} hxy heq ↦ ?_) h
  subst heq
  exact List.lt_irrefl _ hxy

theorem inOrder_under {α : Type} {xs : List (Place × α)} (h : Hop) (hx : InOrder xs) :
    InOrder (xs.map (under h)) := by
  refine List.pairwise_map.mpr (hx.imp fun {x y} hxy ↦ ?_)
  exact List.cons_lt_cons_iff.mpr (Or.inr ⟨rfl, hxy⟩)

/-- What is met below two steps is in order when the steps are. -/
theorem inOrder_append {α : Type} {xs ys : List (Place × α)} {h : Hop} (hx : InOrder xs)
    (hy : InOrder ys) (hlt : ∀ y ∈ ys, ∃ h' q, y.1 = h' :: q ∧ h.index < h'.index) :
    InOrder (xs.map (under h) ++ ys) := by
  refine List.pairwise_append.mpr ⟨inOrder_under h hx, hy, fun x hx y hy ↦ ?_⟩
  obtain ⟨x, -, rfl⟩ := List.mem_map.mp hx
  obtain ⟨h', q, hy, hlt⟩ := hlt y hy
  rw [Place.Before, hy]
  exact List.cons_lt_cons_iff.mpr (Or.inl hlt)

mutual

theorem inOrder_trail (path : String) (depth : Nat) (chosen : Bool) :
    ∀ v : Value, InOrder (trail m path depth chosen v)
  | text s => by
    rw [trail]
    split
    · exact List.pairwise_singleton _ _
    · exact .nil
  | record ⟨name, fs⟩ => by
    have hfs := inOrder_fieldTrail path (depth + 1) 0 fs
    rw [trail]
    split
    · refine List.pairwise_cons.mpr ⟨fun y hy ↦ ?_, hfs⟩
      obtain ⟨i, f, q', -, hq, -⟩ := mem_fieldTrail.mp hy
      rw [Place.Before, hq]
      exact List.nil_lt_cons _ _
    · exact hfs
  | ref v => by
    rw [trail]
    exact inOrder_under .target (inOrder_trail path depth chosen v)
  | bool _ => .nil
  | int _ => .nil
  | float _ => .nil
  | timestamp _ => .nil
  | null => .nil
  | seq _ => .nil

theorem inOrder_fieldTrail (path : String) (depth index : Nat) :
    ∀ fs : List (Field TagMap Value), InOrder (fieldTrail m path depth index fs)
  | [] => .nil
  | ⟨name, tags, v⟩ :: rest => by
    rw [fieldTrail]
    refine inOrder_append (inOrder_trail (joinPath path name) depth _ v)
      (inOrder_fieldTrail path depth (index + 1) rest) fun y hy ↦ ?_
    obtain ⟨i, f, q', -, hq, -⟩ := mem_fieldTrail.mp hy
    exact ⟨_, _, hq, by rw [Hop.index, Hop.index]; omega⟩

end

theorem inOrder_elementTrail (index : Nat) (items : List Value) :
    InOrder (elementTrail m index items) := by
  induction items generalizing index with
  | nil => exact .nil
  | cons v rest ih =>
    rw [elementTrail]
    refine inOrder_append (inOrder_trail (elementPath index) 0 false v) (ih (index + 1))
      fun y hy ↦ ?_
    obtain ⟨i, f, q', -, hq, -⟩ := mem_elementTrail.mp hy
    exact ⟨_, _, hq, by rw [Hop.index, Hop.index]; omega⟩

/-- **The events of a walk come in the order of their places.** -/
theorem inOrder_rootTrail : ∀ v : Value, InOrder (rootTrail m v)
  | record r => inOrder_trail "" 0 false (record r)
  | seq items => inOrder_elementTrail 0 items
  | ref v => by
    rw [rootTrail]
    exact inOrder_under .target (inOrder_rootTrail v)
  | bool _ => .nil
  | int _ => .nil
  | float _ => .nil
  | timestamp _ => .nil
  | null => .nil
  | text _ => .nil

/-! ## The events of a trail -/

/-- `Inside m v q s`: the selected text `s` is at `q`, and fields and references lead there. -/
inductive Inside (m : Marker) : Value → Place → String → Prop
  | here {r : Record TagMap Value} {i : Nat} {f : Field TagMap Value} {q : Place} {s : String}
      (hf : r.fields[i]? = some f) (hm : m.selects f.tags.get? = true)
      (hs : Leads f.value q (.text s)) : Inside m (.record r) (.field i :: q) s
  | field {r : Record TagMap Value} {i : Nat} {f : Field TagMap Value} {q : Place} {s : String}
      (hf : r.fields[i]? = some f) (h : Inside m f.value q s) :
      Inside m (.record r) (.field i :: q) s
  | ref {v : Value} {q : Place} {s : String} (h : Inside m v q s) :
      Inside m (.ref v) (.target :: q) s

/-- What is met in a record is the record itself or is met in one of its fields. -/
theorem mem_recordTrail {path : String} {depth : Nat} {chosen : Bool} {r : Record TagMap Value}
    {q : Place} {e : Event} :
    (q, e) ∈ trail m path depth chosen (.record r) ↔
      (q = [] ∧ e = .tooDeep ∧ depthLimit ≤ depth) ∨
        ∃ i f q', r.fields[i]? = some f ∧ q = .field i :: q' ∧
          (q', e) ∈ trail m (joinPath path f.name) (depth + 1) (m.selects f.tags.get?) f.value := by
  obtain ⟨name, fs⟩ := r
  have hfs : (q, e) ∈ fieldTrail m path (depth + 1) 0 fs ↔ _ := mem_fieldTrail
  simp only [Nat.zero_add] at hfs
  rw [trail, List.mem_append, hfs]
  refine or_congr_left ?_
  split
  · simp [*]
  · simp [*]

/-- The texts of a trail are those that fields and references lead to, and the one that references
alone lead to, if the place of the value is chosen.  Its only other events are records too deep. -/
theorem of_mem_trail {path : String} {depth : Nat} {chosen : Bool} {v : Value} {q : Place}
    {e : Event} (h : (q, e) ∈ trail m path depth chosen v) :
    (∃ s, e = .text (pathFrom path q v) s ∧
      ((chosen = true ∧ Leads v q (.text s)) ∨ Inside m v q s)) ∨
    (e = .tooDeep ∧ ∃ r, Reaches v q r ∧ depthLimit ≤ depth + q.depth) := by
  induction q generalizing path depth chosen v with
  | nil =>
    cases v with
    | text t =>
      rw [trail] at h
      split at h
      · cases List.mem_singleton.mp h
        exact Or.inl ⟨t, rfl, Or.inl ⟨‹_›, .here _⟩⟩
      · cases h
    | record r =>
      rcases mem_recordTrail.mp h with ⟨-, rfl, hdepth⟩ | ⟨_, _, _, -, hq, -⟩
      · exact Or.inr ⟨rfl, r, .here r, hdepth⟩
      · cases hq
    | ref v =>
      obtain ⟨_, hq, -⟩ := mem_map_under.mp h
      cases hq
    | _ => cases h
  | cons hop q ih =>
    cases v with
    | text t =>
      rw [trail] at h
      split at h
      · cases List.mem_singleton.mp h
      · cases h
    | record r =>
      rcases mem_recordTrail.mp h with ⟨hq, -⟩ | ⟨i, f, q', hf, hq, hmem⟩
      · cases hq
      · cases hq
        rcases ih hmem with ⟨s, rfl, ⟨hm, hs⟩ | hin⟩ | ⟨rfl, r', hr, hdepth⟩
        · exact Or.inl ⟨s, by rw [pathFrom, hf], Or.inr (.here hf hm hs)⟩
        · exact Or.inl ⟨s, by rw [pathFrom, hf], Or.inr (.field hf hin)⟩
        · refine Or.inr ⟨rfl, r', .field hf hr, ?_⟩
          rw [Place.depth_cons, Hop.isField, if_pos rfl]
          omega
    | ref v =>
      obtain ⟨q', hq, hmem⟩ := mem_map_under.mp h
      cases hq
      rcases ih hmem with ⟨s, rfl, ⟨hm, hs⟩ | hin⟩ | ⟨rfl, r', hr, hdepth⟩
      · exact Or.inl ⟨s, rfl, Or.inl ⟨hm, .ref hs⟩⟩
      · exact Or.inl ⟨s, rfl, Or.inr (.ref hin)⟩
      · exact Or.inr ⟨rfl, r', .ref hr, hdepth⟩
    | _ => cases h

theorem text_mem_trail_of_leads {path s : String} {depth : Nat} {v u : Value} {q : Place}
    (h : Leads v q u) (hu : u = .text s) :
    (q, .text (pathFrom path q v) s) ∈ trail m path depth true v := by
  induction h with
  | here v =>
    subst hu
    exact List.mem_singleton.mpr rfl
  | ref _ ih => exact mem_map_under.mpr ⟨_, rfl, ih hu⟩

theorem text_mem_trail_of_inside {v : Value} {q : Place} {s : String} (h : Inside m v q s) :
    ∀ (path : String) (depth : Nat) (chosen : Bool),
      (q, .text (pathFrom path q v) s) ∈ trail m path depth chosen v := by
  induction h with
  | here hf hm hs =>
    intro path depth chosen
    refine mem_recordTrail.mpr (Or.inr ⟨_, _, _, hf, rfl, ?_⟩)
    rw [hm, pathFrom, hf]
    exact text_mem_trail_of_leads hs rfl
  | field hf _ ih =>
    intro path depth chosen
    refine mem_recordTrail.mpr (Or.inr ⟨_, _, _, hf, rfl, ?_⟩)
    rw [pathFrom, hf]
    exact ih _ _ _
  | ref _ ih =>
    intro path depth chosen
    exact mem_map_under.mpr ⟨_, rfl, ih path depth chosen⟩

theorem tooDeep_mem_trail {v : Value} {q : Place} {r : Record TagMap Value} (h : Reaches v q r) :
    ∀ (path : String) (depth : Nat) (chosen : Bool), depthLimit ≤ depth + q.depth →
      (q, .tooDeep) ∈ trail m path depth chosen v := by
  induction h with
  | here r =>
    intro path depth chosen hdepth
    exact mem_recordTrail.mpr (Or.inl ⟨rfl, rfl, hdepth⟩)
  | ref _ ih =>
    intro path depth chosen hdepth
    exact mem_map_under.mpr ⟨_, rfl, ih path depth chosen hdepth⟩
  | field hf _ ih =>
    intro path depth chosen hdepth
    refine mem_recordTrail.mpr (Or.inr ⟨_, _, _, hf, rfl, ih _ _ _ ?_⟩)
    rw [Place.depth_cons, Hop.isField, if_pos rfl] at hdepth
    omega

/-! ## The events of a whole walk -/

theorem selects_iff {tags : TagMap} :
    m.selects tags.get? = true ↔ (tags.get? m.tag).getD "" = m.value := beq_iff_eq

/-- A selected text below a value lies behind a field of a record that fields and references lead
to. -/
theorem exists_of_inside {v : Value} {q : Place} {s : String} (h : Inside m v q s) :
    ∃ q₀ r i f q₁, q = q₀ ++ .field i :: q₁ ∧ Reaches v q₀ r ∧ r.fields[i]? = some f ∧
      (f.tags.get? m.tag).getD "" = m.value ∧ Leads f.value q₁ (.text s) := by
  induction h with
  | here hf hm hs => exact ⟨[], _, _, _, _, rfl, .here _, hf, selects_iff.mp hm, hs⟩
  | field hf _ ih =>
    obtain ⟨q₀, r, i, f, q₁, rfl, hr, hrest⟩ := ih
    exact ⟨_ :: q₀, r, i, f, q₁, rfl, .field hf hr, hrest⟩
  | ref _ ih =>
    obtain ⟨q₀, r, i, f, q₁, rfl, hr, hrest⟩ := ih
    exact ⟨_ :: q₀, r, i, f, q₁, rfl, .ref hr, hrest⟩

theorem inside_of_reaches {v : Value} {q₀ q₁ : Place} {r : Record TagMap Value} {i : Nat}
    {f : Field TagMap Value} {s : String} (hr : Reaches v q₀ r) (hf : r.fields[i]? = some f)
    (hm : (f.tags.get? m.tag).getD "" = m.value) (hs : Leads f.value q₁ (.text s)) :
    Inside m v (q₀ ++ .field i :: q₁) s := by
  induction hr with
  | here r => exact .here hf (selects_iff.mpr hm) hs
  | ref _ ih => exact .ref (ih hf)
  | field hg _ ih => exact .field hg (ih hf)

theorem Selected.of_record {r : Record TagMap Value} {q : Place} {s : String}
    (h : Inside m (.record r) q s) : Selected m (.record r) q s := by
  obtain ⟨q₀, r, i, f, q₁, rfl, hr, hf, hm, hs⟩ := exists_of_inside h
  exact .mk (.record hr) hf hm hs

theorem Selected.of_element {items : List Value} {i : Nat} {v : Value} {q : Place} {s : String}
    (hv : items[i]? = some v) (h : Inside m v q s) :
    Selected m (.seq items) (.element i :: q) s := by
  obtain ⟨q₀, r, j, f, q₁, rfl, hr, hf, hm, hs⟩ := exists_of_inside h
  exact .mk (.element hv hr) hf hm hs

theorem Selected.ref {v : Value} {q : Place} {s : String} (h : Selected m v q s) :
    Selected m (.ref v) (.target :: q) s := by
  obtain ⟨hr, hf, hm, hs⟩ := h
  exact .mk (.ref hr) hf hm hs

theorem Occurs.ref {v : Value} {q : Place} {e : Event} (h : Occurs m v q e) :
    Occurs m (.ref v) (.target :: q) e := by
  rcases h with h | ⟨h, hdepth⟩
  · exact .text h.ref
  · exact .tooDeep h.ref hdepth

theorem occurs_of_mem_rootTrail {e : Event} :
    ∀ (v : Value) (q : Place), (q, e) ∈ rootTrail m v → Occurs m v q e
  | record r, q, h => by
    rcases of_mem_trail h with ⟨s, rfl, ⟨hc, -⟩ | hin⟩ | ⟨rfl, r', hr, hdepth⟩
    · cases hc
    · exact .text (.of_record hin)
    · exact .tooDeep (.record hr) (by rwa [Nat.zero_add] at hdepth)
  | seq items, q, h => by
    obtain ⟨i, v, q', hv, rfl, hmem⟩ := mem_elementTrail.mp h
    rw [Nat.zero_add] at hmem ⊢
    rcases of_mem_trail hmem with ⟨s, rfl, ⟨hc, -⟩ | hin⟩ | ⟨rfl, r', hr, hdepth⟩
    · cases hc
    · have hpath : pathFrom "" (.element i :: q') (seq items) = pathFrom (elementPath i) q' v := by
        rw [pathFrom, hv]
      exact hpath ▸ .text (.of_element hv hin)
    · exact .tooDeep (.element hv hr) (by rwa [Nat.zero_add] at hdepth)
  | ref v, q, h => by
    obtain ⟨q', rfl, hmem⟩ := mem_map_under.mp h
    exact (occurs_of_mem_rootTrail v q' hmem).ref

theorem text_mem_rootTrail {v : Value} {q : Place} {s : String} (h : Selected m v q s) :
    (q, .text (pathFrom "" q v) s) ∈ rootTrail m v := by
  obtain ⟨hr, hf, hm, hs⟩ := h
  induction hr with
  | record hr => exact text_mem_trail_of_inside (inside_of_reaches hr hf hm hs) "" 0 false
  | @element items i v q r hv hr =>
    refine mem_elementTrail.mpr ⟨i, v, _, hv, by rw [Nat.zero_add]; rfl, ?_⟩
    rw [Nat.zero_add, List.cons_append, pathFrom, hv]
    exact text_mem_trail_of_inside (inside_of_reaches hr hf hm hs) (elementPath i) 0 false
  | ref _ ih => exact mem_map_under.mpr ⟨_, rfl, ih hf⟩

theorem tooDeep_mem_rootTrail {v : Value} {q : Place} {r : Record TagMap Value}
    (h : Walked v q r) (hdepth : depthLimit ≤ q.depth) : (q, .tooDeep) ∈ rootTrail m v := by
  induction h with
  | record hr => exact tooDeep_mem_trail hr "" 0 false (by rwa [Nat.zero_add])
  | element hv hr =>
    refine mem_elementTrail.mpr ⟨_, _, _, hv, by rw [Nat.zero_add], ?_⟩
    exact tooDeep_mem_trail hr _ 0 false (by rwa [Nat.zero_add])
  | ref _ ih => exact mem_map_under.mpr ⟨_, rfl, ih hdepth⟩

/-- **What a walk meets is what occurs in the value**, each event at its place. -/
theorem mem_rootTrail_iff {v : Value} {q : Place} {e : Event} :
    (q, e) ∈ rootTrail m v ↔ Occurs m v q e := by
  constructor
  · exact occurs_of_mem_rootTrail v q
  · rintro (h | ⟨h, hdepth⟩)
    · exact text_mem_rootTrail h
    · exact tooDeep_mem_rootTrail h hdepth

end Shroud.Value
