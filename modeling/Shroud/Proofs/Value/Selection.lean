import Shroud.Proofs.Outline.Calls
import Shroud.Proofs.Value.Refill

/-!
# What a transformation replaces

`transform_selected` is the main statement.  When the leaf succeeds on every call and no record lies
too deep, a transformation returns the value with the selected texts replaced, each by the answer of
the leaf to the text as it was, and with nothing else changed.  The leaf is called once for each of
them, in the order of a walk.
-/

set_option autoImplicit false

namespace Shroud.Value

variable {m : Marker}

/-- `Replaced v w found as`: the value `w` is `v` with the texts `found` replaced by the texts `as`,
one by one.  No other text is changed, and nothing that is no text. -/
def Replaced (v w : Value) (found : List (Place × String)) (as : List String) : Prop :=
  ∃ change : Place → String → String, (∀ x ∈ found.zip as, change x.1.1 x.1.2 = x.2) ∧
    (∀ q t, (q, t) ∉ found → change q t = t) ∧ w = mapTexts change v

theorem mem_spots {tr : List (Place × Event)} {q : Place} {t : String} :
    (q, t) ∈ spots tr ↔ ∃ path, (q, .text path t) ∈ tr := by
  constructor
  · intro h
    obtain ⟨⟨q', e⟩, hmem, heq⟩ := List.mem_filterMap.mp h
    cases e with
    | text path s =>
      cases heq
      exact ⟨path, hmem⟩
    | unsupported found => cases heq
    | tooDeep => cases heq
  · rintro ⟨path, h⟩
    exact List.mem_filterMap.mpr ⟨_, h, rfl⟩

/-- **The texts of a trail are the selected ones.** -/
theorem mem_spots_rootTrail {v : Value} {q : Place} {t : String} :
    (q, t) ∈ spots (rootTrail m v) ↔ Selected m v q t := by
  rw [mem_spots]
  constructor
  · rintro ⟨path, h⟩
    cases mem_rootTrail_iff.mp h with
    | text h => exact h
  · intro h
    exact ⟨_, mem_rootTrail_iff.mpr (.text h)⟩

theorem inOrder_spots {tr : List (Place × Event)} (h : InOrder tr) : InOrder (spots tr) := by
  refine List.Pairwise.filterMap _ (fun x y hxy a ha b hb ↦ ?_) h
  obtain ⟨-, -, rfl⟩ := Option.map_eq_some_iff.mp ha
  obtain ⟨-, -, rfl⟩ := Option.map_eq_some_iff.mp hb
  exact hxy

/-- A key that stands for one value only is looked up as that value. -/
theorem lookup_of_mem {κ α : Type} [BEq κ] [LawfulBEq κ] {l : List (κ × α)}
    (h : (l.map Prod.fst).Nodup) {k : κ} {a : α} (hmem : (k, a) ∈ l) : l.lookup k = some a := by
  induction l with
  | nil => cases hmem
  | cons x rest ih =>
    obtain ⟨k', b⟩ := x
    obtain ⟨hk', hrest⟩ := List.nodup_cons.mp h
    rcases List.mem_cons.mp hmem with heq | hmem
    · cases heq
      exact List.lookup_cons_self
    · have hne : (k == k') = false := by
        refine beq_eq_false_iff_ne.mpr fun heq ↦ hk' ?_
        exact List.mem_map.mpr ⟨(k, a), hmem, heq⟩
      rw [List.lookup_cons, hne]
      exact ih hrest hmem

/-- The texts put back into a value replace those of its trail. -/
theorem replaced_refill {v : Value} (hwalk : Walkable v) {as : List String}
    (hlen : as.length = (contents ((root v).events m)).length) :
    Replaced v (refill v ((root v).put m as)) (spots (rootTrail m v)) as := by
  have hspots : (spots (rootTrail m v)).length = as.length := by
    rw [hlen, ← snd_rootTrail hwalk, ← snd_spots, List.length_map]
  have hkeys : (((spots (rootTrail m v)).zip as).map Prod.fst).Nodup := by
    rw [List.map_fst_zip (Nat.le_of_eq hspots)]
    exact nodup_of_inOrder (inOrder_spots (inOrder_rootTrail v))
  let change : Place → String → String := fun q t ↦
    (((spots (rootTrail m v)).zip as).lookup (q, t)).getD t
  have hnew : ∀ x ∈ (spots (rootTrail m v)).zip as, change x.1.1 x.1.2 = x.2 := by
    rintro ⟨⟨q, t⟩, a⟩ hx
    show (((spots (rootTrail m v)).zip as).lookup (q, t)).getD t = a
    rw [lookup_of_mem hkeys hx, Option.getD_some]
  have hold : ∀ q t, (q, t) ∉ spots (rootTrail m v) → change q t = t := by
    intro q t hq
    have hnone : ((spots (rootTrail m v)).zip as).lookup (q, t) = none := by
      refine List.lookup_eq_none_iff.mpr fun x hx ↦ ?_
      refine bne_iff_ne.mpr fun heq ↦ hq ?_
      exact heq ▸ (List.of_mem_zip hx).1
    simp only [change, hnone, Option.getD_none]
  refine ⟨change, hnew, hold, refill_put hwalk as change hlen hnew fun q t hq ↦ hold q t ?_⟩
  rintro hmem
  exact hq ((mem_spots.mp hmem).imp fun path h ↦ ⟨t, h⟩)

/-- Without a refusal and a record too deep, the events of a walk pass. -/
theorem passes_events {σ ε : Type} {p : Pass σ ε} {v : Value} (hwalk : Walkable v)
    (hdepth : ∀ q r, Walked v q r → q.depth < 128) {s s₁ : σ} {as : List String}
    (has : p.answers ((spots (rootTrail p.marker v)).map Prod.snd) s = .ok as s₁) :
    p.Passes s ((root v).events p.marker) as s₁ := by
  refine ⟨fun e he ↦ ?_, ?_⟩
  · rw [← snd_rootTrail hwalk] at he
    obtain ⟨⟨q, e⟩, hmem, rfl⟩ := List.mem_map.mp he
    cases mem_rootTrail_iff.mp hmem with
    | text h => exact ⟨_, _, rfl⟩
    | tooDeep h hdeep => exact absurd (hdepth _ _ h) (Nat.not_lt.mpr hdeep)
  · rwa [← snd_rootTrail hwalk, ← snd_spots]

/-- **Exact selection.**  The texts that are replaced are the selected ones, `found`, in the order
of a walk; the leaf is called on each of them as it was, in this order, and on nothing else; and the
result is the value with each of them replaced by the answer of the leaf, all else as it was. -/
theorem transform_selected {σ ε : Type} (p : Pass σ ε) (v : Value) (s : σ) (hkey : p.key ≠ "")
    (hwalk : Walkable v) (hleaf : ∀ t s, ∃ a s₁, p.leaf t p.key s = .ok a s₁)
    (hdepth : ∀ q r, Walked v q r → q.depth < 128) :
    ∃ (found : List (Place × String)) (as : List String) (s₁ : σ) (w : Value),
      InOrder found ∧ (∀ q t, (q, t) ∈ found ↔ Selected p.marker v q t) ∧
      p.answers (found.map Prod.snd) s = .ok as s₁ ∧
      Replaced v w found as ∧
      transform p v s = .ok w s₁ ∧
      transform p.recorded v (s, []) = .ok w (s₁, p.calls (found.map Prod.snd)) := by
  obtain ⟨as, s₁, has⟩ := Pass.exists_answers hleaf
    ((spots (rootTrail p.marker v)).map Prod.snd) s
  have hpasses := passes_events hwalk hdepth has
  have hcontents : contents ((root v).events p.marker) =
      (spots (rootTrail p.marker v)).map Prod.snd := by
    rw [← snd_rootTrail hwalk, ← snd_spots]
  refine ⟨spots (rootTrail p.marker v), as, s₁, refill v ((root v).put p.marker as),
    inOrder_spots (inOrder_rootTrail v), fun q t ↦ mem_spots_rootTrail, has,
    replaced_refill hwalk (p.length_of_run hpasses.run), ?_, ?_⟩
  · rw [transform_eq p v hkey, map_eq_pure_bind]
    exact bind_of_ok hpasses.run
  · rw [transform_eq p.recorded v hkey, map_eq_pure_bind]
    exact hcontents ▸ bind_of_ok (hpasses.recorded []).run

/-- No record lies too deep when no event of the trail says so. -/
theorem depth_lt_of_rootTrail {v : Value} (h : ∀ x ∈ rootTrail m v, x.2 ≠ .tooDeep) {q : Place}
    {r : Record TagMap Value} (hr : Walked v q r) : q.depth < 128 := by
  refine Nat.lt_of_not_le fun hdeep ↦ ?_
  exact h _ (mem_rootTrail_iff.mpr (.tooDeep hr hdeep)) rfl

/-- A sequence behind a reference, with what is walked in it and what is passed over: a text beside
the records, a field of the same name twice, a text behind a reference, a sequence inside a record,
a record inside a record, and a reference to nothing.  `texts` are its selected texts. -/
def mixed (texts : String × String × String) : Value :=
  .ref (.seq [.text "beside",
    .record ⟨"A", [.tagged "x" (.text texts.1) [("log", "encrypt")],
      .tagged "x" (.ref (.text texts.2.1)) [("log", "encrypt")], .tagged "y" (.text "kept") [],
      .tagged "z" (.seq [.text "inside"]) [("log", "encrypt")]]⟩,
    .ref (.record ⟨"B", [.tagged "r" (.ref (.record ⟨"C",
      [.tagged "s" (.text texts.2.2) [("log", "encrypt")]]⟩)) []]⟩),
    .null])

/-- A pass whose leaf answers with as many stars as it was called before. -/
def counting : Pass Nat Empty := ⟨"k", .standard, fun _ _ n ↦
  .ok (String.ofList (List.replicate n '*')) (n + 1)⟩

theorem transform_selected_mixed :
    ∃ (found : List (Place × String)) (as : List String),
      (∀ q t, (q, t) ∈ found ↔ Selected .standard (mixed ("one", "two", "three")) q t) ∧
      counting.answers (found.map Prod.snd) 0 = .ok as 3 ∧
      Replaced (mixed ("one", "two", "three")) (mixed ("", "*", "**")) found as := by
  have hdepth : ∀ x ∈ rootTrail .standard (mixed ("one", "two", "three")), x.2 ≠ .tooDeep := by
    decide
  have hrun : transform counting (mixed ("one", "two", "three")) 0 =
      .ok (mixed ("", "*", "**")) 3 := rfl
  obtain ⟨found, as, s₁, w, -, hfound, has, hw, htransform, -⟩ := transform_selected counting
    (mixed ("one", "two", "three")) 0 (by decide) (.ref (.seq _)) (fun _ _ ↦ ⟨_, _, rfl⟩)
    (fun _ _ ↦ depth_lt_of_rootTrail hdepth)
  obtain ⟨rfl, rfl⟩ := EStateM.Result.ok.inj (hrun.symm.trans htransform)
  exact ⟨found, as, hfound, has, hw⟩

end Shroud.Value
