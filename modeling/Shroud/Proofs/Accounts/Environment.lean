import Mathlib.Data.List.Nodup
import Shroud.Accounts.Environment
import Shroud.Proofs.Text.Lowercase

/-!
# What an environment holds

Variables that lead to different names have no part in each other
(`Environment.get?_without_of_ne`).  In an ordinary environment, where no name is a path into
something larger and no two names differ only in case, the lookup is a plain one: what is held
under a name is the text of the variable that has this name in lower case
(`Environment.Ordinary.get?_eq`).
-/

set_option autoImplicit false

namespace Shroud

/-! ## Paths -/

namespace Variable

/-- What stands under a path is something to a name. -/
def leads (name path : String) : Bool :=
  let cs := path.toList
  let steps := cs.dropWhile isNameChar
  String.ofList (cs.takeWhile isNameChar) == name && areSteps steps.length steps

variable {name name' path text : String}

theorem under?_eq_none_iff : under? name path text = none ↔ leads name path = false := by
  simp only [under?, leads]
  split
  case isTrue h => simp [h.1, h.2]
  case isFalse h =>
    rw [Bool.and_eq_false_iff, beq_eq_false_iff_ne]
    by_cases hname : String.ofList (path.toList.takeWhile isNameChar) = name
    · exact iff_of_true rfl (.inr (Bool.eq_false_iff.mpr fun hsteps ↦ h ⟨hname, hsteps⟩))
    · exact iff_of_true rfl (.inl hname)

/-- A path leads to one name at most. -/
theorem eq_of_leads (h : leads name path = true) (h' : leads name' path = true) : name = name' := by
  simp only [leads, Bool.and_eq_true, beq_iff_eq] at h h'
  exact h.1.symm.trans h'.1

/-- A step begins with a dot or a bracket. -/
theorem areSteps_eq_false {c : Char} (hdot : c ≠ '.') (hbracket : c ≠ '[') (fuel : Nat)
    (rest : List Char) : areSteps fuel (c :: rest) = false := by
  rw [areSteps]
  · exact List.cons_ne_nil c rest
  · rintro _ _ - h
    exact hdot (List.cons.inj h).1
  · rintro _ _ - h
    exact hbracket (List.cons.inj h).1

/-- A path without a dot and without a bracket leads to itself, if to anything. -/
theorem under?_of_flat (hdot : '.' ∉ path.toList) (hbracket : '[' ∉ path.toList)
    (hname : name.toList.all isNameChar = true) :
    under? name path text = if path = name then some (.text text) else none := by
  cases hsteps : path.toList.dropWhile isNameChar with
  | nil =>
    -- the path ends within its first name, so it is this name
    have hall : path.toList.takeWhile isNameChar = path.toList := by
      have happend := List.takeWhile_append_dropWhile (p := isNameChar) (l := path.toList)
      rwa [hsteps, List.append_nil] at happend
    simp only [under?, hsteps, hall, String.ofList_toList, List.length_nil, areSteps, and_true,
      ofSteps]
  | cons c rest =>
    -- what follows the first name begins no step, and `name` has no such character
    have hmem : c ∈ path.toList := by
      refine (List.dropWhile_suffix isNameChar).mem ?_
      rw [hsteps]
      exact List.mem_cons_self
    have hchar : isNameChar c = false := by
      have hhead := List.head_dropWhile_not isNameChar (l := path.toList) (by simp [hsteps])
      simpa only [hsteps, List.head_cons] using hhead
    have hnosteps : areSteps (c :: rest).length (c :: rest) = false :=
      areSteps_eq_false (fun h ↦ hdot (h ▸ hmem)) (fun h ↦ hbracket (h ▸ hmem)) _ rest
    have hne : path ≠ name := by
      rintro rfl
      rw [List.all_eq_true.mp hname c hmem] at hchar
      cases hchar
    simp only [under?, hsteps, hnosteps, Bool.false_eq_true, and_false, if_false, if_neg hne]

end Variable

namespace Environment

/-! ## Variables apart -/

section

variable {α : Type} {vs : List (String × α)} {n : String} {x : α}

theorem put_of_fresh (h : n ∉ vs.map Prod.fst) : put vs n x = vs ++ [(n, x)] := by
  induction vs with
  | nil => rfl
  | cons e rest ih =>
    simp only [List.map_cons, List.mem_cons, not_or] at h
    rw [put, if_neg (Ne.symm h.1), ih h.2, List.cons_append]

/-- Variables whose names are distinct are put one behind the other. -/
theorem foldl_put_of_nodup {ws : List (String × α)} (h : ((vs ++ ws).map Prod.fst).Nodup) :
    ws.foldl (fun vs v ↦ put vs v.1 v.2) vs = vs ++ ws := by
  induction ws generalizing vs with
  | nil => rw [List.foldl_nil, List.append_nil]
  | cons w ws ih =>
    have hfresh : w.1 ∉ vs.map Prod.fst := by
      rw [List.map_append, List.nodup_append] at h
      exact fun hmem ↦ h.2.2 _ hmem _ (List.mem_map_of_mem List.mem_cons_self) rfl
    have happend : vs ++ w :: ws = (vs ++ [w]) ++ ws := by simp
    rw [happend] at h ⊢
    rw [List.foldl_cons, put_of_fresh hfresh, ih h]

/-- Whether variables with certain names are left out before or after one is put makes no
difference. -/
theorem filter_put (p : String → Bool) (vs : List (String × α)) (n : String) (x : α) :
    (put vs n x).filter (fun v ↦ p v.1) =
      if p n then put (vs.filter fun v ↦ p v.1) n x else vs.filter fun v ↦ p v.1 := by
  induction vs with
  | nil => cases hp : p n <;> simp [put, hp]
  | cons e rest ih =>
    rw [put]
    by_cases he : e.1 = n
    · subst he
      cases hp : p e.1 <;> simp [hp, put]
    · rw [if_neg he, List.filter_cons, ih]
      cases hp : p n <;> cases hpe : p e.1 <;> simp [hpe, put, he]

theorem filter_foldl_put (p : String → Bool) (ws vs : List (String × α)) :
    (ws.foldl (fun vs v ↦ put vs v.1 v.2) vs).filter (fun v ↦ p v.1) =
      (ws.filter fun v ↦ p v.1).foldl (fun vs v ↦ put vs v.1 v.2) (vs.filter fun v ↦ p v.1) := by
  induction ws generalizing vs with
  | nil => rfl
  | cons w ws ih =>
    rw [List.foldl_cons, ih, filter_put]
    cases hp : p w.1 <;> simp [hp]

theorem findSome?_filter {β : Type} {p : α → Bool} {f : α → Option β} {l : List α}
    (h : ∀ a ∈ l, p a = false → f a = none) : (l.filter p).findSome? f = l.findSome? f := by
  induction l with
  | nil => rfl
  | cons a l ih =>
    have ih := ih fun b hb ↦ h b (List.mem_cons_of_mem a hb)
    cases hp : p a with
    | true => rw [List.filter_cons_of_pos hp, List.findSome?_cons, List.findSome?_cons, ih]
    | false =>
      rw [List.filter_cons_of_neg (by simp [hp]), List.findSome?_cons,
        h a List.mem_cons_self hp, ih]

end

/-- The environment without the variables that lead to a name. -/
def without (env : Environment) (name : String) : Environment :=
  env.filter fun v ↦ !Variable.leads name (Text.lowercase v.1)

theorem canonical_without (env : Environment) (name : String) :
    (env.without name).canonical = env.canonical.filter fun v ↦ !Variable.leads name v.1 := by
  have hfilter := filter_foldl_put (fun n ↦ !Variable.leads name (Text.lowercase n)) env []
  simp only [List.filter_nil] at hfilter
  simp only [canonical, without, List.filter_map, Function.comp_def, hfilter]

/-- Other names do not lose anything. -/
theorem get?_without_of_ne (env : Environment) {name name' : String} (h : name' ≠ name) :
    (env.without name).get? name' = env.get? name' := by
  rw [get?, canonical_without, ← List.filter_reverse]
  refine findSome?_filter fun v _ hv ↦ Variable.under?_eq_none_iff.mpr (Bool.eq_false_iff.mpr ?_)
  intro hleads'
  have hleads : Variable.leads name v.1 = true := by simpa using hv
  exact h (Variable.eq_of_leads hleads' hleads)

/-! ## Ordinary environments -/

/-- No name is a path into something larger, as a name of letters, digits and underscores is none,
and no two names differ only in case. -/
structure Ordinary (env : Environment) : Prop where
  flat : ∀ v ∈ env, '.' ∉ v.1.toList ∧ '[' ∉ v.1.toList
  distinct : (env.map fun v ↦ Text.lowercase v.1).Nodup

/-- The text of the variable that has the name in lower case. -/
def named? (env : Environment) (name : String) : Option String :=
  (env.find? fun v ↦ Text.lowercase v.1 = name).map Prod.snd

theorem findSome?_reverse {α β : Type} {f : α → Option β} {l : List α}
    (h : l.Pairwise fun a b ↦ f a = none ∨ f b = none) :
    l.reverse.findSome? f = l.findSome? f := by
  induction h with
  | nil => rfl
  | @cons a l ha _ ih =>
    rw [List.reverse_cons, List.findSome?_append, ih, List.findSome?_cons, List.findSome?_cons,
      List.findSome?_nil]
    cases hfa : f a with
    | none => cases l.findSome? f <;> rfl
    | some b =>
      have hnone : l.findSome? f = none := by
        refine List.findSome?_eq_none_iff.mpr fun c hc ↦ ?_
        exact (ha c hc).resolve_left (by simp [hfa])
      rw [hnone]
      rfl

namespace Ordinary

variable {env : Environment}

theorem canonical_eq (h : env.Ordinary) :
    env.canonical = env.map fun v ↦ (Text.lowercase v.1, v.2) := by
  have hnodup : (([] ++ env).map Prod.fst).Nodup := by
    have hmap : env.map (fun v ↦ Text.lowercase v.1) = (env.map Prod.fst).map Text.lowercase := by
      rw [List.map_map]
      rfl
    have hdistinct := h.distinct
    rw [hmap] at hdistinct
    exact List.Nodup.of_map _ hdistinct
  rw [canonical, foldl_put_of_nodup hnodup, List.nil_append]

theorem under?_eq (h : env.Ordinary) {v : String × String} (hv : v ∈ env) {name : String}
    (hname : name.toList.all Variable.isNameChar = true) :
    Variable.under? name (Text.lowercase v.1) v.2 =
      if Text.lowercase v.1 = name then some (.text v.2) else none := by
  obtain ⟨hdot, hbracket⟩ := h.flat v hv
  exact Variable.under?_of_flat
    (fun hmem ↦ hdot (Text.mem_of_mem_lowercase (by decide) (by decide) hmem))
    (fun hmem ↦ hbracket (Text.mem_of_mem_lowercase (by decide) (by decide) hmem)) hname

/-- **In an ordinary environment the lookup is a plain one.** -/
theorem get?_eq (h : env.Ordinary) {name : String}
    (hname : name.toList.all Variable.isNameChar = true) :
    env.get? name = (env.named? name).map .text := by
  have hunder : ∀ v ∈ env, Variable.under? name (Text.lowercase v.1) v.2 =
      if Text.lowercase v.1 = name then some (.text v.2) else none :=
    fun v hv ↦ h.under?_eq hv hname
  have hpairwise : (env.map fun v ↦ (Text.lowercase v.1, v.2)).Pairwise fun a b ↦
      Variable.under? name a.1 a.2 = none ∨ Variable.under? name b.1 b.2 = none := by
    rw [List.pairwise_map]
    refine (List.pairwise_map.mp h.distinct).imp_of_mem fun {a b} ha hb hne ↦ ?_
    rw [hunder a ha, hunder b hb]
    by_cases haname : Text.lowercase a.1 = name
    · exact .inr (if_neg fun hbname ↦ hne (haname.trans hbname.symm))
    · exact .inl (if_neg haname)
  rw [get?, h.canonical_eq, findSome?_reverse hpairwise, List.findSome?_map, named?]
  -- the rest is the same search twice, and needs only what each variable is to the name
  clear hpairwise h
  induction env with
  | nil => rfl
  | cons v env ih =>
    have ih := ih fun w hw ↦ hunder w (List.mem_cons_of_mem v hw)
    have hv := hunder v List.mem_cons_self
    by_cases hvname : Text.lowercase v.1 = name
    · rw [if_pos hvname] at hv
      rw [List.findSome?_cons, Function.comp_apply, hv, List.find?_cons_of_pos (by simpa)]
      rfl
    · rw [if_neg hvname] at hv
      rw [List.findSome?_cons, Function.comp_apply, hv, List.find?_cons_of_neg (by simpa)]
      exact ih

end Ordinary

end Environment

end Shroud
