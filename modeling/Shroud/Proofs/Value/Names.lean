import Shroud.Proofs.Outline.Sequence
import Shroud.Proofs.Value.FirstFailure

/-!
# The path of a failure names one field

When a leaf refuses a text, all that is told of its field is a path.  So the path should be enough
to find the field again, in the value as it was given.  It is, provided that the names of the fields
of a record differ, are not empty and have no dot in them (`Nameable`).  Then the parts of the path,
taken one after another from the root on, lead to one field only, and that is the field whose text
was refused (`leaf_names_field`).

`Addresses v ns q f` says how names are followed, and knows nothing of a walk.  If several fields of
a record have one name, each of them may be followed; that only one field is found in the end has to
be proved.
-/

set_option autoImplicit false

namespace Shroud

/-! ## Paths as texts -/

/-- The parts of a path: the texts between its dots. -/
def pathParts (path : String) : List String := (path.split '.').toList.map fun part ↦ part.copy

/-- The path that names lead to, from what is at `parent` on. -/
def joinPaths (parent : String) (names : List String) : String := names.foldl joinPath parent

theorem joinPath_empty (name : String) : joinPath "" name = name := rfl

/-- Below a path that is not empty, names are put behind it, each after a dot. -/
theorem joinPaths_of_ne {parent : String} (h : parent ≠ "") (names : List String) :
    joinPaths parent names = ".".intercalate (parent :: names) := by
  induction names generalizing parent with
  | nil => exact String.intercalate_singleton.symm
  | cons name rest ih =>
    have hjoin : joinPath parent name = (parent ++ ".") ++ name := joinPath_of_ne h name
    calc joinPaths parent (name :: rest)
        = joinPaths (joinPath parent name) rest := rfl
      _ = ".".intercalate (joinPath parent name :: rest) := ih (joinPath_ne h name)
      _ = ".".intercalate (parent :: name :: rest) := by
        rw [hjoin, String.intercalate_cons_append, String.intercalate_cons_cons]

/-- From the root on, the first name stands alone. -/
theorem joinPaths_root {name : String} (h : name ≠ "") (rest : List String) :
    joinPaths "" (name :: rest) = ".".intercalate (name :: rest) :=
  joinPaths_of_ne h rest

/-- **Names without dots are the parts of their path.** -/
theorem pathParts_intercalate {names : List String} (hne : names ≠ [])
    (hdots : ∀ name ∈ names, '.' ∉ name.toList) :
    pathParts (".".intercalate names) = names := by
  have hsplit := String.toList_split_intercalate hdots
  rw [if_neg hne] at hsplit
  exact hsplit

theorem dotless_elementPath (index : Nat) : '.' ∉ (elementPath index).toList := by
  have hdigits : '.' ∉ Nat.toDigits 10 index := fun h ↦
    absurd (Nat.isDigit_of_mem_toDigits (by decide) (by decide) h) (by decide)
  simpa [elementPath, Nat.toString_eq_ofList_toDigits] using hdigits

theorem elementPath_inj {i j : Nat} (h : elementPath i = elementPath j) : i = j := by
  have hdigits : Nat.toDigits 10 i = Nat.toDigits 10 j := by
    have hlist := congrArg String.toList h
    simpa [elementPath, Nat.toString_eq_ofList_toDigits] using hlist
  have hvalue := congrArg (fun ds ↦ Nat.ofDigitChars 10 ds 0) hdigits
  simpa only [Nat.ofDigitChars_ten_toDigits] using hvalue

namespace Value

variable {m : Marker}

/-! ## Names that lead to a field -/

/-- The names of the fields of a record are fit for paths. -/
structure Nameable (r : Record TagMap Value) : Prop where
  /-- No two fields have the same name. -/
  distinct : (r.fields.map Field.name).Nodup
  nonempty : ∀ f ∈ r.fields, f.name ≠ ""
  dotless : ∀ f ∈ r.fields, '.' ∉ f.name.toList

/-- `Names v ns q f`: from `v`, each name taken as the name of a field and references looked
through, the names `ns` lead to the field `f`, the value of which is at `q`. -/
inductive Names : Value → List String → Place → Field TagMap Value → Prop
  | here {r : Record TagMap Value} {i : Nat} {f : Field TagMap Value}
      (hf : r.fields[i]? = some f) : Names (.record r) [f.name] [.field i] f
  | field {r : Record TagMap Value} {i : Nat} {f g : Field TagMap Value} {ns : List String}
      {q : Place} (hf : r.fields[i]? = some f) (h : Names f.value ns q g) :
      Names (.record r) (f.name :: ns) (.field i :: q) g
  | ref {v : Value} {ns : List String} {q : Place} {f : Field TagMap Value}
      (h : Names v ns q f) : Names (.ref v) ns (.target :: q) f

/-- `Addresses v ns q f`: from the root `v`, the parts `ns` of a path lead to the field `f`, the
value of which is at `q`.  If the root is a sequence, the first part is the index of an element in
brackets; all other parts are names of fields. -/
inductive Addresses : Value → List String → Place → Field TagMap Value → Prop
  | record {r : Record TagMap Value} {ns : List String} {q : Place} {f : Field TagMap Value}
      (h : Names (.record r) ns q f) : Addresses (.record r) ns q f
  | element {items : List Value} {i : Nat} {v : Value} {ns : List String} {q : Place}
      {f : Field TagMap Value} (hv : items[i]? = some v) (h : Names v ns q f) :
      Addresses (.seq items) (("[" ++ toString i ++ "]") :: ns) (.element i :: q) f
  | ref {v : Value} {ns : List String} {q : Place} {f : Field TagMap Value}
      (h : Addresses v ns q f) : Addresses (.ref v) ns (.target :: q) f

theorem Names.ne_nil {v : Value} {ns : List String} {q : Place} {f : Field TagMap Value}
    (h : Names v ns q f) : ns ≠ [] := by
  induction h with
  | here _ => exact List.cons_ne_nil _ _
  | field _ _ _ => exact List.cons_ne_nil _ _
  | ref _ ih => exact ih

/-- Of the names that lead to a field, none has a dot and the first is not empty. -/
theorem Names.fit {v : Value} {ns : List String} {q : Place} {f : Field TagMap Value}
    (h : Names v ns q f) (hnames : ∀ q r, Reaches v q r → Nameable r) :
    (∀ n ∈ ns, '.' ∉ n.toList) ∧ ∃ n rest, ns = n :: rest ∧ n ≠ "" := by
  induction h with
  | here hf =>
    have hr := hnames _ _ (.here _)
    have hmem := List.mem_of_getElem? hf
    exact ⟨List.forall_mem_singleton.mpr (hr.dotless _ hmem), _, _, rfl, hr.nonempty _ hmem⟩
  | field hf _ ih =>
    have hr := hnames _ _ (.here _)
    have hmem := List.mem_of_getElem? hf
    have hrest := (ih fun q r hq ↦ hnames _ r (.field hf hq)).1
    exact ⟨List.forall_mem_cons.mpr ⟨hr.dotless _ hmem, hrest⟩, _, _, rfl, hr.nonempty _ hmem⟩
  | ref _ ih => exact ih fun q r hq ↦ hnames _ r (.ref hq)

theorem Nameable.index_eq {r : Record TagMap Value} (hr : Nameable r) {i j : Nat}
    {f g : Field TagMap Value} (hf : r.fields[i]? = some f) (hg : r.fields[j]? = some g)
    (h : f.name = g.name) : i = j := by
  have hi : i < (r.fields.map Field.name).length := by
    rw [List.length_map]
    exact (List.getElem?_eq_some_iff.mp hf).1
  refine (List.getElem?_inj hi hr.distinct).mp ?_
  rw [List.getElem?_map, List.getElem?_map, hf, hg, Option.map_some, Option.map_some, h]

/-- **Names lead to one field only.** -/
theorem Names.unique {v : Value} {ns : List String} {q q' : Place} {f f' : Field TagMap Value}
    (h : Names v ns q f) (h' : Names v ns q' f') (hnames : ∀ q r, Reaches v q r → Nameable r) :
    q = q' ∧ f = f' := by
  induction h generalizing q' f' with
  | @here r i f hf =>
    generalize hns : [f.name] = ns at h'
    cases h' with
    | here hf' =>
      obtain rfl := (hnames _ _ (.here _)).index_eq hf hf' (List.cons.inj hns).1
      exact ⟨rfl, Option.some.inj (hf.symm.trans hf')⟩
    | field _ hrest => exact absurd (List.cons.inj hns).2.symm hrest.ne_nil
  | @field r i f g ns q hf hrest ih =>
    generalize hns : f.name :: ns = ns' at h'
    cases h' with
    | here _ => exact absurd (List.cons.inj hns).2 hrest.ne_nil
    | field hf' hrest' =>
      obtain ⟨hname, rfl⟩ := List.cons.inj hns
      obtain rfl := (hnames _ _ (.here _)).index_eq hf hf' hname
      obtain rfl := Option.some.inj (hf.symm.trans hf')
      obtain ⟨rfl, rfl⟩ := ih hrest' fun q r hq ↦ hnames _ r (.field hf hq)
      exact ⟨rfl, rfl⟩
  | ref _ ih =>
    cases h' with
    | ref h' =>
      obtain ⟨rfl, rfl⟩ := ih h' fun q r hq ↦ hnames _ r (.ref hq)
      exact ⟨rfl, rfl⟩

theorem Addresses.unique {v : Value} {ns : List String} {q q' : Place} {f f' : Field TagMap Value}
    (h : Addresses v ns q f) (h' : Addresses v ns q' f')
    (hnames : ∀ q r, Walked v q r → Nameable r) : q = q' ∧ f = f' := by
  induction h generalizing q' f' with
  | record h =>
    cases h' with
    | record h' => exact h.unique h' fun q r hq ↦ hnames q r (.record hq)
  | @element items i v ns q f hv h =>
    generalize hns : ("[" ++ toString i ++ "]") :: ns = ns' at h'
    cases h' with
    | element hv' h' =>
      obtain ⟨hindex, rfl⟩ := List.cons.inj hns
      obtain rfl := elementPath_inj hindex
      obtain rfl := Option.some.inj (hv.symm.trans hv')
      obtain ⟨rfl, rfl⟩ := h.unique h' fun q r hq ↦ hnames _ r (.element hv hq)
      exact ⟨rfl, rfl⟩
  | ref _ ih =>
    cases h' with
    | ref h' =>
      obtain ⟨rfl, rfl⟩ := ih h' fun q r hq ↦ hnames _ r (.ref hq)
      exact ⟨rfl, rfl⟩

/-! ## The names along a place -/

theorem Leads.asText?_eq {v u : Value} {q : Place} {s : String} (h : Leads v q u)
    (hu : u = .text s) : v.asText? = some s := by
  induction h with
  | here v =>
    subst hu
    rfl
  | ref _ ih => exact ih hu

/-- References lead to one text, and there is one way to it. -/
theorem Leads.unique {v u : Value} {q q' : Place} {s s' : String} (h : Leads v q u)
    (hu : u = .text s) (h' : Leads v q' (.text s')) : q = q' ∧ s = s' := by
  induction h generalizing q' with
  | here v =>
    subst hu
    cases h'
    exact ⟨rfl, rfl⟩
  | ref _ ih =>
    cases h' with
    | ref h' =>
      obtain ⟨rfl, rfl⟩ := ih hu h'
      exact ⟨rfl, rfl⟩

/-- References add nothing to a path. -/
theorem Leads.pathFrom_eq {v u : Value} {q : Place} (h : Leads v q u) (path : String) :
    pathFrom path q v = path := by
  induction h with
  | here v => rfl
  | ref _ ih => exact ih

/-- To a field of a record that is reached there are names, and they are what its path is made
of. -/
theorem exists_names_of_reaches {v u : Value} {q q' : Place} {r : Record TagMap Value} {i : Nat}
    {f : Field TagMap Value} (hr : Reaches v q r) (hf : r.fields[i]? = some f)
    (hu : Leads f.value q' u) :
    ∃ ns, Names v ns (q ++ [.field i]) f ∧
      ∀ path, pathFrom path (q ++ .field i :: q') v = joinPaths path ns := by
  induction hr with
  | here r =>
    refine ⟨[f.name], .here hf, fun path ↦ ?_⟩
    rw [List.nil_append, pathFrom, hf]
    exact hu.pathFrom_eq _
  | ref _ ih =>
    obtain ⟨ns, hns, hpath⟩ := ih hf
    exact ⟨ns, .ref hns, hpath⟩
  | @field r s j g q hg _ ih =>
    obtain ⟨ns, hns, hpath⟩ := ih hf
    refine ⟨g.name :: ns, .field hg hns, fun path ↦ ?_⟩
    rw [List.cons_append, pathFrom, hg]
    exact hpath _

/-- **The parts of the path of a text lead to the field that holds the text.** -/
theorem addresses_pathFrom {v u : Value} {q q' : Place} {r : Record TagMap Value} {i : Nat}
    {f : Field TagMap Value} (hr : Walked v q r) (hf : r.fields[i]? = some f)
    (hu : Leads f.value q' u) (hnames : ∀ q r, Walked v q r → Nameable r) :
    Addresses v (pathParts (pathFrom "" (q ++ .field i :: q') v)) (q ++ [.field i]) f := by
  induction hr with
  | record hr =>
    obtain ⟨ns, hns, hpath⟩ := exists_names_of_reaches hr hf hu
    obtain ⟨hdots, n, rest, rfl, hn⟩ := hns.fit fun q r hq ↦ hnames q r (.record hq)
    rw [hpath, joinPaths_root hn, pathParts_intercalate hns.ne_nil hdots]
    exact .record hns
  | @element items j v q r hv hr =>
    obtain ⟨ns, hns, hpath⟩ := exists_names_of_reaches hr hf hu
    obtain ⟨hdots, -⟩ := hns.fit fun q r hq ↦ hnames _ r (.element hv hq)
    have hall : ∀ n ∈ elementPath j :: ns, '.' ∉ n.toList :=
      List.forall_mem_cons.mpr ⟨dotless_elementPath j, hdots⟩
    rw [List.cons_append, pathFrom, hv]
    show Addresses _ (pathParts (pathFrom (elementPath j) (q ++ .field i :: q') v)) _ _
    rw [hpath, joinPaths_of_ne (elementPath_ne j),
      pathParts_intercalate (List.cons_ne_nil _ _) hall]
    exact .element hv hns
  | ref _ ih => exact .ref (ih hf fun q r hq ↦ hnames _ r (.ref hq))

/-- The path of a text that occurs leads to the field that holds the text. -/
theorem exists_address {v : Value} {q : Place} {path t : String}
    (h : Occurs m v q (.text path t)) (hnames : ∀ q r, Walked v q r → Nameable r) :
    ∃ q₀ q₁ f, q = q₀ ++ q₁ ∧ Addresses v (pathParts path) q₀ f ∧
      (f.tags.get? m.tag).getD "" = m.value ∧ Leads f.value q₁ (.text t) := by
  cases h with
  | text h =>
    obtain @⟨q, q', r, i, f, t, hr, hf, hm, ht⟩ := h
    exact ⟨q ++ [.field i], q', f, by simp, addresses_pathFrom hr hf ht hnames, hm, ht⟩

/-- **Texts that occur in different places have different paths.** -/
theorem Occurs.unique {v : Value} {q q' : Place} {path t t' : String}
    (h : Occurs m v q (.text path t)) (h' : Occurs m v q' (.text path t'))
    (hnames : ∀ q r, Walked v q r → Nameable r) : q = q' ∧ t = t' := by
  obtain ⟨q₀, q₁, f, rfl, haddress, -, ht⟩ := exists_address h hnames
  obtain ⟨q₀', q₁', f', rfl, haddress', -, ht'⟩ := exists_address h' hnames
  obtain ⟨rfl, rfl⟩ := haddress.unique haddress' hnames
  obtain ⟨rfl, rfl⟩ := ht.unique rfl ht'
  exact ⟨rfl, rfl⟩

/-! ## Failures -/

/-- A failure of the leaf is one at a text that occurs, which was the text of the last call. -/
theorem exists_occurs_of_leaf {σ ε : Type} {p : Pass σ ε} {v : Value} {s : σ} (hkey : p.key ≠ "")
    {path : String} {e : ε} {st : σ × List (String × String)}
    (h : transform p.recorded v (s, []) = .error (.leaf path e) st) :
    ∃ q t, Occurs p.marker v q (.text path t) ∧ st.2.getLast? = some (t, p.key) := by
  by_cases hwalk : Walkable v
  · obtain ⟨pre, q, t, post, as, s₁, s₂, htrail, -, -, rfl⟩ :=
      (transform_eq_leaf_iff hkey hwalk).mp h
    refine ⟨q, t, mem_rootTrail_iff.mp ?_, ?_⟩
    · exact htrail ▸ List.mem_append_right _ List.mem_cons_self
    · rw [Pass.calls_append, List.getLast?_append]
      rfl
  · obtain ⟨found, h'⟩ := transform_of_not_walkable (p := p) (s := s) hkey hwalk
    rw [h'] at h
    cases h

/-- **The path of a failure names one field.**  When the leaf refuses a text, the parts of the path
that is told lead, in the value as it was given, to one field and no other; the marker selects it,
and what it holds is the text of the last call of the leaf.  So no two texts that are met in a walk
are told under one path. -/
theorem leaf_names_field {σ ε : Type} (p : Pass σ ε) (v : Value) (s : σ) (hkey : p.key ≠ "")
    (hnames : ∀ q r, Walked v q r → Nameable r) :
    Pass.forget (transform p.recorded v (s, [])) = transform p v s ∧
    (∀ path e st, transform p.recorded v (s, []) = .error (.leaf path e) st →
      ∃ q f t, Addresses v (pathParts path) q f ∧
        (∀ q' f', Addresses v (pathParts path) q' f' → q' = q ∧ f' = f) ∧
        (f.tags.get? p.marker.tag).getD "" = p.marker.value ∧ f.value.asText? = some t ∧
        st.2.getLast? = some (t, p.key)) ∧
    (∀ path q q' t t', Occurs p.marker v q (.text path t) →
      Occurs p.marker v q' (.text path t') → q = q' ∧ t = t') := by
  refine ⟨Pass.forget_transform v s [], fun path e st h ↦ ?_,
    fun path q q' t t' ht ht' ↦ ht.unique ht' hnames⟩
  obtain ⟨q, t, hoccurs, hlast⟩ := exists_occurs_of_leaf hkey h
  obtain ⟨q₀, q₁, f, rfl, haddress, hm, ht⟩ := exists_address hoccurs hnames
  exact ⟨q₀, f, t, haddress, fun q' f' h' ↦ h'.unique haddress hnames, hm, ht.asText?_eq rfl,
    hlast⟩

/-- A guest, whose name is marked. -/
def guest : Record TagMap Value :=
  ⟨"Guest", [.tagged "name" (.text "two") [("log", "encrypt")]]⟩

/-- A visit with a marked note and, behind a reference, a guest. -/
def visit : Record TagMap Value :=
  ⟨"Visit", [.tagged "note" (.text "one") [("log", "encrypt")],
    .tagged "guest" (.ref (.record guest)) []]⟩

/-- A sequence in which a visit comes after a text. -/
def visits : Value := .seq [.text "beside", .record visit]

theorem nameable_of_fields {r : Record TagMap Value} (hr : Nameable r)
    (hfields : ∀ f ∈ r.fields, ∀ q s, Reaches f.value q s → Nameable s) :
    ∀ q s, Reaches (.record r) q s → Nameable s := by
  intro q s h
  cases h with
  | here _ => exact hr
  | field hf h => exact hfields _ (List.mem_of_getElem? hf) _ _ h

/-- The path goes to an element, through a field and a reference, and to the field that holds the
refused text. -/
theorem leaf_names_field_visits :
    ∃ q f, Addresses visits (pathParts "[1].guest.name") q f ∧
      (∀ q' f', Addresses visits (pathParts "[1].guest.name") q' f' → q' = q ∧ f' = f) ∧
      f.value.asText? = some "two" := by
  have hguest : ∀ q r, Reaches (.record guest) q r → Nameable r :=
    nameable_of_fields ⟨by decide, by decide, by decide⟩ (List.forall_mem_singleton.mpr nofun)
  have hvisit : ∀ q r, Reaches (.record visit) q r → Nameable r := by
    refine nameable_of_fields ⟨by decide, by decide, by decide⟩ (List.forall_mem_cons.mpr
      ⟨nofun, List.forall_mem_singleton.mpr fun q r h ↦ ?_⟩)
    cases h with
    | ref h => exact hguest _ r h
  have hnames : ∀ q r, Walked visits q r → Nameable r := by
    intro q r h
    rw [visits] at h
    cases h with
    | element hv h =>
      have hmem := List.mem_of_getElem? hv
      simp only [List.mem_cons, List.not_mem_nil, or_false] at hmem
      rcases hmem with rfl | rfl
      · cases h
      · exact hvisit _ r h
  have hrun : transform stubborn.recorded visits (0, []) =
      .error (.leaf "[1].guest.name" ()) (2, [("one", "k"), ("two", "k")]) := rfl
  obtain ⟨-, hleaf, -⟩ := leaf_names_field stubborn _ 0 (by decide) hnames
  obtain ⟨q, f, t, haddress, hunique, -, ht, hlast⟩ := hleaf _ _ _ hrun
  obtain ⟨rfl, -⟩ := Prod.mk.inj (Option.some.inj hlast)
  exact ⟨q, f, haddress, hunique, ht⟩

end Value

end Shroud
