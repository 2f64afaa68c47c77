import Shroud.Proofs.Declared.Duplicate
import Shroud.Proofs.Outline.Events

/-!
# Walks of linked data are walks of its contents

A walk of linked data gives what a walk of the same data without pointers gives, and leaves every
cell that was there as it was: `writtenOut_transform` and `exists_newer_transform`.

The walk works on a duplicate, whose targets are a stretch of cells that nobody else holds.  New
texts are written into such a stretch from its newest cell to its oldest, and below each cell the
patches for the pointers in it are known.  `Rewrites` says what writing makes of a stretch; that it
makes what filling makes of the contents follows the same induction for fields, elements and roots.
-/

set_option autoImplicit false

namespace Shroud

namespace Root

/-- The number of elements from which a walk starts. -/
def size : Root → Nat
  | sequence items => items.length
  | _ => 0

theorem size_put (m : Marker) (r : Root) (ts : List String) : (r.put m ts).size = r.size := by
  cases r with
  | record r => rfl
  | unsupported found => rfl
  | sequence items =>
    show (Outline.putElements m items ts).1.length = items.length
    induction items generalizing ts with
    | nil => rfl
    | cons o rest ih => rw [Outline.putElements, List.length_cons, List.length_cons, ih]

end Root

namespace Heap

/-! ## Stretches of the heap -/

section

variable {heap : Heap} {a b m : Nat} {top : List Cell}

/-- What stands above `a` entries does not depend on these entries. -/
theorem find?_append_right {α : Type} {h : Nat} (top : List α) {bottom bottom' : List α}
    (hlength : bottom.length = bottom'.length) (hh : bottom.length ≤ h) :
    find? (top ++ bottom) h = find? (top ++ bottom') h := by
  induction top with
  | nil =>
    rw [List.nil_append, List.nil_append]
    have hnone {xs : List α} (hxs : xs.length ≤ h) : find? xs h = none := by
      cases hx : find? xs h with
      | none => rfl
      | some x => exact absurd (lt_of_find? hx) (Nat.not_lt.mpr hxs)
    rw [hnone hh, hnone (hlength ▸ hh)]
  | cons x top ih =>
    rw [List.cons_append, List.cons_append, find?, find?, List.length_append, List.length_append,
      hlength, ih]

/-- The cells from `a` up to `b` are `top`. -/
def Stretch (heap : Heap) (a b : Nat) (top : List Cell) : Prop :=
  ∃ newer older : Heap, heap = newer ++ (top ++ older) ∧ older.length = a ∧ top.length + a = b

theorem stretch_append (newer older : Heap) :
    Stretch (newer ++ older) older.length (newer ++ older).length newer :=
  ⟨[], older, rfl, rfl, List.length_append.symm⟩

theorem Stretch.length_eq (h : Stretch heap a b top) : top.length + a = b := by
  obtain ⟨-, -, -, -, hb⟩ := h
  exact hb

theorem Stretch.agree (h : Stretch heap a b top) {bottom : Heap} (hbottom : bottom.length = a) :
    Agree heap (top ++ bottom) a b := by
  obtain ⟨newer, older, rfl, rfl, hb⟩ := h
  intro j hj hj'
  rw [find?_append (by rw [List.length_append]; omega)]
  exact find?_append_right top hbottom.symm hj

/-- A stretch falls into two. -/
theorem Stretch.split (h : Stretch heap a b top) (ham : a ≤ m) (hmb : m ≤ b) :
    ∃ upper lower, top = upper ++ lower ∧ Stretch heap m b upper ∧ Stretch heap a m lower := by
  obtain ⟨newer, older, rfl, rfl, hb⟩ := h
  have htop : top = top.take (b - m) ++ top.drop (b - m) := (List.take_append_drop _ _).symm
  have hupper : (top.take (b - m)).length = b - m := by
    rw [List.length_take]
    omega
  have hlower : (top.drop (b - m)).length = m - older.length := by
    rw [List.length_drop]
    omega
  refine ⟨top.take (b - m), top.drop (b - m), htop, ?_, ?_⟩
  · refine ⟨newer, top.drop (b - m) ++ older, ?_, ?_, ?_⟩
    · rw [← List.append_assoc (top.take _), ← htop]
    · rw [List.length_append]
      omega
    · omega
  · refine ⟨newer ++ top.take (b - m), older, ?_, rfl, ?_⟩
    · rw [List.append_assoc, ← List.append_assoc (top.take _), ← htop]
    · omega

/-- The newest cell of a stretch is the one that is found there. -/
theorem Stretch.exists_cons {h : Nat} {c : Cell} (hs : Stretch heap a (h + 1) top) (ha : a ≤ h)
    (hc : find? heap h = some c) : ∃ rest, top = c :: rest ∧ Stretch heap a h rest := by
  obtain ⟨newer, older, rfl, rfl, hb⟩ := hs
  match top, hb with
  | [], hb =>
    rw [List.length_nil] at hb
    omega
  | d :: rest, hb =>
    rw [List.length_cons] at hb
    have hlength : (rest ++ older).length = h := by
      rw [List.length_append]
      omega
    rw [find?_append (by rw [List.cons_append, List.length_cons]; omega), List.cons_append,
      ← hlength, find?_length] at hc
    obtain rfl := Option.some.inj hc
    refine ⟨rest, rfl, newer ++ [d], older, ?_, rfl, by omega⟩
    rw [List.append_assoc]
    rfl

end

/-! ## Patches -/

section

variable {ps qs : List (Handle × Patch)} {a b h : Nat}

/-- The first patch for a handle. -/
def patchFor (ps : List (Handle × Patch)) (h : Handle) : Option Patch :=
  (ps.find? fun p ↦ p.1 == h).map Prod.snd

theorem patchFor_append (ps qs : List (Handle × Patch)) (h : Handle) :
    patchFor (ps ++ qs) h = (patchFor ps h).or (patchFor qs h) := by
  rw [patchFor, List.find?_append, Option.map_or, patchFor, patchFor]

/-- All the patches are for cells from `a` up to `b`. -/
def Within (ps : List (Handle × Patch)) (a b : Nat) : Prop :=
  ∀ p ∈ ps, a ≤ p.1 ∧ p.1 < b

theorem Within.mono {a' b' : Nat} (hps : Within ps a b) (ha : a' ≤ a) (hb : b ≤ b') :
    Within ps a' b' :=
  fun p hp ↦ ⟨Nat.le_trans ha (hps p hp).1, Nat.lt_of_lt_of_le (hps p hp).2 hb⟩

theorem Within.append (hps : Within ps a b) (hqs : Within qs a b) : Within (ps ++ qs) a b :=
  fun p hp ↦ (List.mem_append.mp hp).elim (hps p) (hqs p)

theorem within_nil (a b : Nat) : Within [] a b := nofun

theorem Within.patchFor_eq_none (hps : Within ps a b) (hh : h < a ∨ b ≤ h) :
    patchFor ps h = none := by
  rw [patchFor, Option.map_eq_none_iff, List.find?_eq_none]
  intro p hp heq
  obtain rfl : p.1 = h := LawfulBEq.eq_of_beq heq
  exact hh.elim (Nat.not_lt.mpr (hps p hp).1) (Nat.not_le.mpr (hps p hp).2)

/-- For the cells from `a` up to `b`, the first patches are the same. -/
def Assigned (ps qs : List (Handle × Patch)) (a b : Nat) : Prop :=
  ∀ h, a ≤ h → h < b → patchFor ps h = patchFor qs h

theorem Assigned.mono {a' b' : Nat} (h : Assigned ps qs a b) (ha : a ≤ a') (hb : b' ≤ b) :
    Assigned ps qs a' b' :=
  fun j hj hj' ↦ h j (Nat.le_trans ha hj) (Nat.lt_of_lt_of_le hj' hb)

theorem Assigned.trans {rs : List (Handle × Patch)} (h : Assigned ps qs a b)
    (h' : Assigned qs rs a b) : Assigned ps rs a b :=
  fun j hj hj' ↦ (h j hj hj').trans (h' j hj hj')

/-- Patches for other cells may be left away behind. -/
theorem assigned_append_left {c d : Nat} (hqs : Within qs c d) (hbc : b ≤ c) :
    Assigned (ps ++ qs) ps a b := by
  intro j _ hj
  rw [patchFor_append, hqs.patchFor_eq_none (by omega), Option.or_none]

/-- Patches for other cells may be left away in front. -/
theorem assigned_append_right {c d : Nat} (hps : Within ps c d) (hda : d ≤ a) :
    Assigned (ps ++ qs) qs a b := by
  intro j hj _
  rw [patchFor_append, hps.patchFor_eq_none (by omega), Option.none_or]

end

/-! ## The patches of a walk -/

section

variable {heap : Heap}

mutual

theorem Holds.within_passed : ∀ {c : Plain} {a b : Nat} {x : Linked}, Holds heap a x c b →
    ∀ o : Outline, Within (passed x o) a b
  | _, _, _, _, .scalar _ _, _ => within_nil _ _
  | _, _, _, _, .text _ _, _ => within_nil _ _
  | _, _, _, _, .moment _ _, _ => within_nil _ _
  | _, _, _, _, .absent _, _ => within_nil _ _
  | _, _, _, _, .present hx, o => hx.within_passed o
  | _, _, _, _, .owned hx, o => hx.within_passed o
  | _, _, _, _, .pointer _ hx, o => by
    intro p hp
    obtain rfl := List.mem_singleton.mp hp
    exact ⟨hx.le, Nat.lt_succ_self _⟩
  | _, _, _, _, .list _, _ => within_nil _ _
  | _, _, _, _, .dict _, _ => within_nil _ _
  | _, _, _, _, .table _, _ => within_nil _ _
  | _, _, _, _, .record name hfs, o => by
    cases o with
    | record r => exact hfs.within_passed r.fields
    | _ => exact within_nil _ _
  | _, _, _, _, .dynamic _ _, _ => within_nil _ _

theorem HoldsFields.within_passed : ∀ {gs : List (Field (List Tag) Plain)} {a b : Nat}
    {fs : List (Field (List Tag) Linked)}, HoldsFields heap a fs gs b →
    ∀ os : List (Field Lookup Outline), Within (passedFields fs os) a b
  | _, _, _, _, .nil _, _ => within_nil _ _
  | _, _, _, _, .cons _ _ _ _, [] => within_nil _ _
  | _, _, _, _, .cons name tags hx hfs, o :: os =>
    ((hx.within_passed o.value).mono (Nat.le_refl _) hfs.le).append
      ((hfs.within_passed os).mono hx.le (Nat.le_refl _))

end

theorem HoldsItems.within_passed : ∀ {cs : List Plain} {a b : Nat} {xs : List Linked},
    HoldsItems heap a xs cs b →
    ∀ os : List Outline, Within (List.zipWith passed xs os).flatten a b
  | _, _, _, _, .nil _, _ => within_nil _ _
  | _, _, _, _, .cons _ _, [] => within_nil _ _
  | _, _, _, _, .cons hx hxs, o :: os =>
    ((hx.within_passed o).mono (Nat.le_refl _) hxs.le).append
      ((hxs.within_passed os).mono hx.le (Nat.le_refl _))

theorem Holds.within_passedRoot : ∀ {c : Plain} {a b : Nat} {x : Linked}, Holds heap a x c b →
    ∀ r : Root, Within (passedRoot x r) a b
  | _, _, _, _, .scalar _ _, _ => within_nil _ _
  | _, _, _, _, .text _ _, _ => within_nil _ _
  | _, _, _, _, .moment _ _, _ => within_nil _ _
  | _, _, _, _, .absent _, _ => within_nil _ _
  | _, _, _, _, .present hx, r => hx.within_passedRoot r
  | _, _, _, _, .owned hx, r => hx.within_passedRoot r
  | _, _, _, _, .pointer _ hx, r => by
    intro p hp
    obtain rfl := List.mem_singleton.mp hp
    exact ⟨hx.le, Nat.lt_succ_self _⟩
  | _, _, _, _, .list hxs, r => by
    cases r with
    | sequence os => exact hxs.within_passed os
    | _ => exact within_nil _ _
  | _, _, _, _, .dict _, _ => within_nil _ _
  | _, _, _, _, .table _, _ => within_nil _ _
  | _, _, _, _, .record name hfs, r => by
    cases r with
    | record r => exact hfs.within_passed r.fields
    | _ => exact within_nil _ _
  | _, _, _, _, .dynamic _ _, _ => within_nil _ _

end

/-! ## Writing into a stretch -/

section

variable {ps : List (Handle × Patch)} {a b : Nat}

theorem write_of_patch {c : Cell} {older : Heap} {p : Patch}
    (hp : patchFor ps older.length = some p) :
    write ps (c :: older) =
      { c with content := applyTo c.content p } :: write (ps ++ passedBy c.content p) older := by
  obtain ⟨⟨h, q⟩, hfind, rfl⟩ := Option.map_eq_some_iff.mp hp
  rw [write, hfind]

theorem write_of_none {c : Cell} {older : Heap} (hp : patchFor ps older.length = none) :
    write ps (c :: older) = c :: write ps older := by
  rw [write, Option.map_eq_none_iff.mp hp]

/-- Cells without a patch stay. -/
theorem write_append (top : List Cell) {bottom : Heap}
    (hnone : ∀ h, bottom.length ≤ h → h < top.length + bottom.length → patchFor ps h = none) :
    write ps (top ++ bottom) = top ++ write ps bottom := by
  induction top with
  | nil => rfl
  | cons c top ih =>
    rw [List.length_cons] at hnone
    have hc : patchFor ps (top ++ bottom).length = none :=
      hnone _ (by rw [List.length_append]; omega) (by rw [List.length_append]; omega)
    rw [List.cons_append, write_of_none hc, ih fun h hh hh' ↦ hnone h hh (by omega),
      List.cons_append]

/-- Writing makes of the cells `top`, which stand on `a` older ones, cells with which the heap is
`good`; for the older cells the patches stay the same. -/
def Rewrites (ps : List (Handle × Patch)) (top : List Cell) (a : Nat) (good : Heap → Prop) : Prop :=
  ∃ top' rest, top'.length = top.length ∧ Assigned rest ps 0 a ∧
    ∀ bottom : Heap, bottom.length = a →
      write ps (top ++ bottom) = top' ++ write rest bottom ∧ good (top' ++ bottom)

/-- A stretch without patches stays. -/
theorem Stretch.rewrites {heap : Heap} {top : List Cell} {good : Heap → Prop}
    (hs : Stretch heap a b top) (hps : Assigned ps [] a b)
    (hgood : ∀ heap', Agree heap heap' a b → good heap') : Rewrites ps top a good := by
  refine ⟨top, ps, rfl, fun _ _ _ ↦ rfl, fun bottom hbottom ↦ ⟨?_, hgood _ (hs.agree hbottom)⟩⟩
  refine write_append top fun h hh hh' ↦ hps h (hbottom ▸ hh) ?_
  rwa [hbottom, hs.length_eq] at hh'

/-- The upper part of a stretch is written first. -/
theorem Rewrites.append {upper lower : List Cell} {goodUpper goodLower good : Heap → Prop}
    (hupper : Rewrites ps upper (lower.length + a) goodUpper)
    (hlower : ∀ rest, Assigned rest ps 0 (lower.length + a) → Rewrites rest lower a goodLower)
    (hgood : ∀ newer heap : Heap, heap.length = lower.length + a → goodLower heap →
      goodUpper (newer ++ heap) → good (newer ++ heap)) :
    Rewrites ps (upper ++ lower) a good := by
  obtain ⟨upper', rest, hlength, hrest, hwrite⟩ := hupper
  obtain ⟨lower', rest', hlength', hrest', hwrite'⟩ := hlower rest hrest
  refine ⟨upper' ++ lower', rest', ?_, ?_, fun bottom hbottom ↦ ?_⟩
  · rw [List.length_append, List.length_append, hlength, hlength']
  · exact hrest'.trans (hrest.mono (Nat.le_refl _) (Nat.le_add_left _ _))
  · obtain ⟨hlow, hgoodLower⟩ := hwrite' bottom hbottom
    have hmiddle : (lower ++ bottom).length = lower.length + a := by
      rw [List.length_append, hbottom]
    have hmiddle' : (lower' ++ bottom).length = lower.length + a := by
      rw [List.length_append, hlength', hbottom]
    rw [List.append_assoc, (hwrite _ hmiddle).1, hlow, List.append_assoc, List.append_assoc]
    exact ⟨rfl, hgood upper' _ hmiddle' hgoodLower (hwrite _ hmiddle').2⟩

theorem Rewrites.imp {top : List Cell} {good good' : Heap → Prop} (h : Rewrites ps top a good)
    (hgood : ∀ heap, good heap → good' heap) : Rewrites ps top a good' := by
  obtain ⟨top', rest, hlength, hrest, hwrite⟩ := h
  exact ⟨top', rest, hlength, hrest, fun bottom hbottom ↦
    ⟨(hwrite bottom hbottom).1, hgood _ (hwrite bottom hbottom).2⟩⟩

/-- A cell is written before the targets of its content. -/
theorem rewrites_cell {top : List Cell} {x : Linked} {p : Patch} {c : Plain} {h : Nat}
    (hh : top.length + a = h) (hp : patchFor ps h = some p) (hwithin : Within (passedBy x p) a h)
    (hx : Rewrites (ps ++ passedBy x p) top a fun heap ↦ Holds heap a (applyTo x p) c h) :
    Rewrites ps (⟨1, x⟩ :: top) a fun heap ↦ Holds heap a (.pointer h) (.owned c) (h + 1) := by
  obtain ⟨top', rest, hlength, hrest, hwrite⟩ := hx
  refine ⟨⟨1, applyTo x p⟩ :: top', rest, ?_, ?_, fun bottom hbottom ↦ ?_⟩
  · rw [List.length_cons, List.length_cons, hlength]
  · exact hrest.trans (assigned_append_left hwithin (Nat.le_refl _))
  · have htop : (top ++ bottom).length = h := by rw [List.length_append, hbottom, hh]
    have htop' : (top' ++ bottom).length = h := by rw [List.length_append, hlength, hbottom, hh]
    obtain ⟨hbelow, hholds⟩ := hwrite bottom hbottom
    refine ⟨?_, .pointer ?_ (hholds.congr (agree_append (Nat.le_of_eq htop'.symm) [_]))⟩
    · rw [List.cons_append, write_of_patch (htop.symm ▸ hp), hbelow]
      rfl
    · rw [List.cons_append, ← htop', find?_length]

end

/-! ## Writing and filling -/

section

variable {heap : Heap} {ps : List (Handle × Patch)} {top : List Cell}

/-- What has no pointers that the walk passed stays. -/
theorem Holds.rewrites_of_nil {a b : Nat} {x : Linked} {c : Plain} (h : Holds heap a x c b)
    (hs : Stretch heap a b top) (hps : Assigned ps [] a b) :
    Rewrites ps top a fun heap ↦ Holds heap a x c b :=
  hs.rewrites hps fun _ hagree ↦ h.congr hagree

/-- A pointer is rewritten when the content of its cell is. -/
theorem rewrites_pointer {a h : Nat} {x : Linked} {c c' : Plain} {p : Patch}
    (hcell : find? heap h = some ⟨1, x⟩) (hx : Holds heap a x c h)
    (hs : Stretch heap a (h + 1) top) (hps : Assigned ps [(h, p)] a (h + 1))
    (hwithin : Within (passedBy x p) a h)
    (hcontent : ∀ {qs : List (Handle × Patch)} {rest : List Cell}, Stretch heap a h rest →
      Assigned qs (passedBy x p) a h →
      Rewrites qs rest a fun heap ↦ Holds heap a (applyTo x p) c' h) :
    Rewrites ps top a fun heap ↦ Holds heap a (.pointer h) (.owned c') (h + 1) := by
  obtain ⟨rest, rfl, hs'⟩ := hs.exists_cons hx.le hcell
  have hp : patchFor ps h = some p := by
    rw [hps h hx.le (Nat.lt_succ_self h)]
    simp [patchFor]
  have hbelow : Within [(h, p)] h (h + 1) := by
    intro q hq
    obtain rfl := List.mem_singleton.mp hq
    exact ⟨Nat.le_refl _, Nat.lt_succ_self _⟩
  refine rewrites_cell hs'.length_eq hp hwithin (hcontent hs' fun j hj hj' ↦ ?_)
  rw [patchFor_append, hps j hj (Nat.lt_succ_of_lt hj'), hbelow.patchFor_eq_none (.inl hj'),
    Option.none_or]

mutual

/-- Writing makes of the targets of data what filling makes of its contents. -/
theorem Holds.rewrites_fill : ∀ {c : Plain} {a b : Nat} {x : Linked}, Holds heap a x c b →
    ∀ (o : Outline) {ps : List (Handle × Patch)} {top : List Cell}, Stretch heap a b top →
      Assigned ps (passed x o) a b →
      Rewrites ps top a fun heap ↦ Holds heap a (x.fill o) (c.fill o) b
  | _, _, _, _, .scalar x a, _, _, _, hs, hps => (Holds.scalar x a).rewrites_of_nil hs hps
  | _, _, _, _, .text s a, o, _, _, hs, hps => by
    refine ((Holds.text s a).rewrites_of_nil hs hps).imp fun heap h ↦ ?_
    cases o with
    | text t => exact .text t a
    | _ => exact h
  | _, _, _, _, .moment t a, _, _, _, hs, hps => (Holds.moment t a).rewrites_of_nil hs hps
  | _, _, _, _, .absent a, _, _, _, hs, hps => (Holds.absent a).rewrites_of_nil hs hps
  | _, _, _, _, .present hx, o, _, _, hs, hps => (hx.rewrites_fill o hs hps).imp fun _ ↦ .present
  | _, _, _, _, .owned hx, o, _, _, hs, hps => (hx.rewrites_fill o hs hps).imp fun _ ↦ .owned
  | _, _, _, _, .pointer hcell hx, o, _, _, hs, hps =>
    rewrites_pointer (p := .inner o) hcell hx hs hps (hx.within_passed o) (hx.rewrites_fill o)
  | _, _, _, _, .list hxs, _, _, _, hs, hps => (Holds.list hxs).rewrites_of_nil hs hps
  | _, _, _, _, .dict hxs, _, _, _, hs, hps => (Holds.dict hxs).rewrites_of_nil hs hps
  | _, _, _, _, .table hxs, _, _, _, hs, hps => (Holds.table hxs).rewrites_of_nil hs hps
  | _, _, _, _, .record name hfs, o, _, _, hs, hps => by
    cases o with
    | record r => exact (hfs.rewrites_fill r.fields hs hps).imp fun _ ↦ .record name
    | _ => exact (Holds.record name hfs).rewrites_of_nil hs hps
  | _, _, _, _, .dynamic v a, o, _, _, hs, hps =>
    ((Holds.dynamic v a).rewrites_of_nil hs hps).imp fun _ _ ↦ .dynamic (v.fill o) a

theorem HoldsFields.rewrites_fill : ∀ {gs : List (Field (List Tag) Plain)} {a b : Nat}
    {fs : List (Field (List Tag) Linked)}, HoldsFields heap a fs gs b →
    ∀ (os : List (Field Lookup Outline)) {ps : List (Handle × Patch)} {top : List Cell},
      Stretch heap a b top → Assigned ps (passedFields fs os) a b →
      Rewrites ps top a fun heap ↦
        HoldsFields heap a (Declared.fillFields fs os) (Declared.fillFields gs os) b
  | _, _, _, _, .nil a, _, _, _, hs, hps => hs.rewrites hps fun _ _ ↦ .nil a
  | _, _, _, _, .cons name tags hx hfs, [], _, _, hs, hps =>
    hs.rewrites hps fun _ hagree ↦ (HoldsFields.cons name tags hx hfs).congr hagree
  | _, _, _, _, .cons name tags hx hfs, o :: os, _, _, hs, hps => by
    obtain ⟨upper, lower, rfl, hupper, hlower⟩ := hs.split hx.le hfs.le
    have hlength := hlower.length_eq
    have hrest := (hps.mono hx.le (Nat.le_refl _)).trans
      (assigned_append_right (hx.within_passed o.value) (Nat.le_refl _))
    have hfirst := (hps.mono (Nat.le_refl _) hfs.le).trans
      (assigned_append_left (hfs.within_passed os) (Nat.le_refl _))
    refine Rewrites.append (hlength.symm ▸ hfs.rewrites_fill os hupper hrest)
      (fun rest hr ↦ hx.rewrites_fill o.value hlower
        (((hlength ▸ hr).mono (Nat.zero_le _) (Nat.le_refl _)).trans hfirst)) ?_
    intro newer heap hheap h h'
    exact .cons name tags (h.congr (agree_append (by omega) newer)) (hlength ▸ h')

end

theorem HoldsItems.rewrites_fill : ∀ {cs : List Plain} {a b : Nat} {xs : List Linked},
    HoldsItems heap a xs cs b →
    ∀ (os : List Outline), os.length = cs.length →
      ∀ {ps : List (Handle × Patch)} {top : List Cell}, Stretch heap a b top →
      Assigned ps (List.zipWith passed xs os).flatten a b →
      Rewrites ps top a fun heap ↦
        HoldsItems heap a (List.zipWith Declared.fill xs os) (List.zipWith Declared.fill cs os) b
  | _, _, _, _, .nil a, _, _, _, _, hs, hps => hs.rewrites hps fun _ _ ↦ .nil a
  | _, _, _, _, .cons hx hxs, o :: os, hlen, _, _, hs, hps => by
    obtain ⟨upper, lower, rfl, hupper, hlower⟩ := hs.split hx.le hxs.le
    have hlength := hlower.length_eq
    have hrest := (hps.mono hx.le (Nat.le_refl _)).trans
      (assigned_append_right (hx.within_passed o) (Nat.le_refl _))
    have hfirst := (hps.mono (Nat.le_refl _) hxs.le).trans
      (assigned_append_left (hxs.within_passed os) (Nat.le_refl _))
    refine Rewrites.append
      (hlength.symm ▸ hxs.rewrites_fill os (Nat.succ.inj hlen) hupper hrest)
      (fun rest hr ↦ hx.rewrites_fill o hlower
        (((hlength ▸ hr).mono (Nat.zero_le _) (Nat.le_refl _)).trans hfirst)) ?_
    intro newer heap hheap h h'
    exact .cons (h.congr (agree_append (by omega) newer)) (hlength ▸ h')

/-- Writing makes of the targets of data what refilling makes of its contents. -/
theorem Holds.rewrites_refill : ∀ {c : Plain} {a b : Nat} {x : Linked}, Holds heap a x c b →
    ∀ (r : Root), r.size = (c.root nofun).size →
      ∀ {ps : List (Handle × Patch)} {top : List Cell}, Stretch heap a b top →
      Assigned ps (passedRoot x r) a b →
      Rewrites ps top a fun heap ↦ Holds heap a (x.refill r) (c.refill r) b
  | _, _, _, _, .scalar x a, _, _, _, _, hs, hps => (Holds.scalar x a).rewrites_of_nil hs hps
  | _, _, _, _, .text s a, _, _, _, _, hs, hps => (Holds.text s a).rewrites_of_nil hs hps
  | _, _, _, _, .moment t a, _, _, _, _, hs, hps => (Holds.moment t a).rewrites_of_nil hs hps
  | _, _, _, _, .absent a, _, _, _, _, hs, hps => (Holds.absent a).rewrites_of_nil hs hps
  | _, _, _, _, .present hx, r, hr, _, _, hs, hps => (hx.rewrites_refill r hr hs hps).imp fun _ ↦ .present
  | _, _, _, _, .owned hx, r, hr, _, _, hs, hps => (hx.rewrites_refill r hr hs hps).imp fun _ ↦ .owned
  | _, _, _, _, .pointer hcell hx, r, hr, _, _, hs, hps =>
    rewrites_pointer (p := .whole r) hcell hx hs hps (hx.within_passedRoot r) (hx.rewrites_refill r hr)
  | _, _, _, _, .list hxs, r, hr, _, _, hs, hps => by
    cases r with
    | sequence os => exact (hxs.rewrites_fill os (hr.trans (List.length_map _)) hs hps).imp fun _ ↦ .list
    | _ => exact (Holds.list hxs).rewrites_of_nil hs hps
  | _, _, _, _, .dict hxs, _, _, _, _, hs, hps => (Holds.dict hxs).rewrites_of_nil hs hps
  | _, _, _, _, .table hxs, _, _, _, _, hs, hps => (Holds.table hxs).rewrites_of_nil hs hps
  | _, _, _, _, .record name hfs, r, _, _, _, hs, hps => by
    cases r with
    | record r => exact (hfs.rewrites_fill r.fields hs hps).imp fun _ ↦ .record name
    | _ => exact (Holds.record name hfs).rewrites_of_nil hs hps
  | _, _, _, _, .dynamic v a, r, _, _, _, hs, hps =>
    ((Holds.dynamic v a).rewrites_of_nil hs hps).imp fun _ _ ↦ .dynamic (v.refill r) a

end

/-! ## The whole walk -/

section

variable {σ ε : Type} (p : Pass σ ε) (x : Linked) (s : σ) (heap : Heap)

/-- The result of a walk of linked data, with every target written out in its place. -/
def writtenOut : EStateM.Result (Failure ε) (σ × Heap) Linked → EStateM.Result (Failure ε) σ Plain
  | .ok y s => .ok (contents s.2 y) s.1
  | .error e s => .error e s.1

/-- The heap after a walk. -/
def heapAfter : EStateM.Result (Failure ε) (σ × Heap) Linked → Heap
  | .ok _ s => s.2
  | .error _ s => s.2

variable {p x s heap}

theorem transform_of_empty {y : Linked} {heap' : Heap} (hkey : p.key = "")
    (hdup : (duplicate x).run heap = (y, heap')) :
    transform p x (s, heap) = .ok y (s, heap') := by
  have hempty : p.key.isEmpty = true := by simpa using hkey
  simp only [transform, hdup, hempty, if_true]

theorem transform_of_ok {y : Linked} {heap' : Heap} {r : Root} {s₁ : σ} (hkey : p.key ≠ "")
    (hdup : (duplicate x).run heap = (y, heap'))
    (hr : p.root (y.root (look heap')) s = .ok r s₁) :
    transform p x (s, heap) = .ok (y.refill r) (s₁, write (passedRoot y r) heap') := by
  have hempty : p.key.isEmpty = false := by simpa using hkey
  simp only [transform, hdup, hempty, hr, Bool.false_eq_true, if_false]

theorem transform_of_error {y : Linked} {heap' : Heap} {e : Failure ε} {s₁ : σ} (hkey : p.key ≠ "")
    (hdup : (duplicate x).run heap = (y, heap'))
    (hr : p.root (y.root (look heap')) s = .error e s₁) :
    transform p x (s, heap) = .error e (s₁, heap') := by
  have hempty : p.key.isEmpty = false := by simpa using hkey
  simp only [transform, hdup, hempty, hr, Bool.false_eq_true, if_false]

/-- What is written for a walk of a duplicate are the new texts of its contents, into its own
cells. -/
theorem exists_write {c : Plain} {y : Linked} {r : Root} {newer older : Heap}
    (hy : Holds (newer ++ older) older.length y c (newer ++ older).length)
    (hr : r.size = (c.root nofun).size) :
    ∃ newer', write (passedRoot y r) (newer ++ older) = newer' ++ older ∧
      contents (newer' ++ older) (y.refill r) = c.refill r := by
  obtain ⟨newer', rest, -, hrest, hwrite⟩ :=
    hy.rewrites_refill r hr (stretch_append newer older) fun _ _ _ ↦ rfl
  obtain ⟨hnewer, hholds⟩ := hwrite older rfl
  have hnone : ∀ h, 0 ≤ h → h < older.length + 0 → patchFor rest h = none := fun h _ hh ↦
    (hrest h (Nat.zero_le h) hh).trans ((hy.within_passedRoot r).patchFor_eq_none (.inl hh))
  have hold : write rest older = older := by
    have hwritten : write rest (older ++ []) = older ++ [] := write_append older hnone
    rwa [List.append_nil] at hwritten
  exact ⟨newer', by rw [hnewer, hold], hholds.contents_eq⟩

theorem size_of_root {r r' : Root} {s₁ : σ} (h : p.root r s = .ok r' s₁) : r'.size = r.size := by
  rw [Pass.root_eq, map_eq_pure_bind] at h
  obtain ⟨ts, s₂, -, hts⟩ := bind_eq_ok h
  obtain ⟨rfl, -⟩ := EStateM.Result.ok.inj hts
  exact Root.size_put _ _ ts

variable (p x s heap)

/-- A walk puts new cells on top of the old ones, and its result is that of a walk of the contents. -/
theorem exists_transform :
    ∃ newer, heapAfter (transform p x (s, heap)) = newer ++ heap ∧
      writtenOut (transform p x (s, heap)) = Shroud.transform p (contents heap x) s := by
  obtain ⟨y, newer, hdup, hy⟩ := exists_duplicate heap x
  by_cases hkey : p.key = ""
  · have hempty : p.key.isEmpty = true := by simpa using hkey
    rw [transform_of_empty hkey hdup, Shroud.transform, if_pos hempty]
    exact ⟨newer, rfl, congrArg (EStateM.Result.ok · s) hy.contents_eq⟩
  · have hempty : ¬ p.key.isEmpty = true := by simpa using hkey
    have hroot : y.root (look (newer ++ heap)) = (contents heap x).root nofun :=
      hy.root_eq fun _ _ _ ↦ rfl
    rw [Shroud.transform, if_neg hempty]
    cases hr : p.root ((contents heap x).root nofun) s with
    | error e s₁ =>
      rw [transform_of_error hkey hdup (hroot ▸ hr)]
      exact ⟨newer, rfl, (bind_of_error hr).symm⟩
    | ok r s₁ =>
      obtain ⟨newer', hwritten, hcontents⟩ := exists_write hy (size_of_root hr)
      rw [transform_of_ok hkey hdup (hroot ▸ hr), hwritten]
      refine ⟨newer', rfl, ?_⟩
      rw [writtenOut, hcontents]
      exact (bind_of_ok (f := fun r ↦ pure ((contents heap x).refill r)) hr).symm

/-- **A walk of linked data is a walk of its contents.** -/
theorem writtenOut_transform :
    writtenOut (transform p x (s, heap)) = Shroud.transform p (contents heap x) s := by
  obtain ⟨-, -, h⟩ := exists_transform p x s heap
  exact h

/-- **A walk leaves the cells that were there as they are.** -/
theorem exists_newer_transform :
    ∃ newer, heapAfter (transform p x (s, heap)) = newer ++ heap := by
  obtain ⟨newer, h, -⟩ := exists_transform p x s heap
  exact ⟨newer, h⟩

end

end Heap

end Shroud
