import Shroud.Declared.Linked

/-!
# Who holds which cells

A duplicate of linked data has its targets to itself: they fill a stretch of the heap, and each of
them has one holder.  `Heap.Holds heap a x c b` says so: the targets of `x` are the cells from `a`
up to `b`, in the order in which they were made, and with every target written out in its place `x`
is the plain data `c`.

Data that holds its cells shows all of itself to a walk (`Holds.outline_eq`, `Holds.root_eq`), and
what it holds are its contents (`Holds.contents_eq`).
-/

set_option autoImplicit false

namespace Shroud.Heap

/-! ## What stands at a handle -/

section

variable {α : Type} {h : Nat}

theorem lt_of_find? {xs : List α} {x : α} (hx : find? xs h = some x) : h < xs.length := by
  induction xs with
  | nil => cases hx
  | cons y older ih =>
    rw [find?] at hx
    split at hx
    · rename_i heq
      exact heq ▸ Nat.lt_succ_self _
    · exact Nat.lt_succ_of_lt (ih hx)

/-- Newer entries do not hide older ones. -/
theorem find?_append {older : List α} (hlt : h < older.length) (newer : List α) :
    find? (newer ++ older) h = find? older h := by
  induction newer with
  | nil => rfl
  | cons x newer ih =>
    have hne : h ≠ (newer ++ older).length := by
      rw [List.length_append]
      omega
    rw [List.cons_append, find?, if_neg hne, ih]

theorem find?_length (x : α) (older : List α) : find? (x :: older) older.length = some x :=
  if_pos rfl

theorem length_build (make : (Handle → Option α) → Cell → α) (heap : Heap) :
    (build make heap).length = heap.length := by
  induction heap with
  | nil => rfl
  | cons c older ih => rw [build, List.length_cons, List.length_cons, ih]

/-- What is made for a cell is made from what was made for the older ones. -/
theorem find?_build (make : (Handle → Option α) → Cell → α) {heap : Heap} {c : Cell}
    (hc : find? heap h = some c) :
    ∃ known, find? (build make heap) h = some (make known c) ∧
      ∀ j, j < h → known j = find? (build make heap) j := by
  induction heap with
  | nil => cases hc
  | cons d older ih =>
    have hskip {j : Nat} (hj : j < older.length) :
        find? (build make (d :: older)) j = find? (build make older) j :=
      find?_append (by rwa [length_build]) [_]
    rw [find?] at hc
    split at hc
    · rename_i heq
      obtain rfl := Option.some.inj hc
      refine ⟨find? (build make older), ?_, fun j hj ↦ (hskip (heq ▸ hj)).symm⟩
      rw [build, heq, ← length_build make older]
      exact find?_length _ _
    · obtain ⟨known, hmade, hknown⟩ := ih hc
      have hlt := lt_of_find? hc
      exact ⟨known, (hskip hlt).trans hmade,
        fun j hj ↦ (hknown j hj).trans (hskip (Nat.lt_trans hj hlt)).symm⟩

end

/-! ## Data with its own targets -/

section

variable (heap : Heap)

mutual

/-- The targets of linked data are the cells from `a` up to `b`, each with a single holder, and with
every target written out in its place the data is `c`. -/
inductive Holds : Nat → Linked → Plain → Nat → Prop where
  | scalar (x : Scalar) (a : Nat) : Holds a (.scalar x) (.scalar x) a
  | text (s : String) (a : Nat) : Holds a (.text s) (.text s) a
  | moment (t : Instant) (a : Nat) : Holds a (.moment t) (.moment t) a
  | absent (a : Nat) : Holds a .absent .absent a
  | present {a b : Nat} {x : Linked} {c : Plain} (hx : Holds a x c b) :
      Holds a (.present x) (.present c) b
  | owned {a b : Nat} {x : Linked} {c : Plain} (hx : Holds a x c b) :
      Holds a (.owned x) (.owned c) b
  | pointer {a h : Nat} {x : Linked} {c : Plain} (hcell : find? heap h = some ⟨1, x⟩)
      (hx : Holds a x c h) : Holds a (.pointer h) (.owned c) (h + 1)
  | list {a b : Nat} {xs : List Linked} {cs : List Plain} (hxs : HoldsItems a xs cs b) :
      Holds a (.list xs) (.list cs) b
  | dict {a b : Nat} {xs : List (Key × Linked)} {cs : List (Key × Plain)}
      (hxs : HoldsEntries a xs cs b) : Holds a (.dict xs) (.dict cs) b
  | table {a b : Nat} {xs : List (Key × Linked)} {cs : List (Key × Plain)}
      (hxs : HoldsEntries a xs cs b) : Holds a (.table xs) (.table cs) b
  | record {a b : Nat} (name : String) {fs : List (Field (List Tag) Linked)}
      {gs : List (Field (List Tag) Plain)} (hfs : HoldsFields a fs gs b) :
      Holds a (.record ⟨name, fs⟩) (.record ⟨name, gs⟩) b
  | dynamic (v : Value) (a : Nat) : Holds a (.dynamic v) (.dynamic v) a

/-- The targets of elements, one element after another. -/
inductive HoldsItems : Nat → List Linked → List Plain → Nat → Prop where
  | nil (a : Nat) : HoldsItems a [] [] a
  | cons {a b d : Nat} {x : Linked} {c : Plain} {xs : List Linked} {cs : List Plain}
      (hx : Holds a x c b) (hxs : HoldsItems b xs cs d) : HoldsItems a (x :: xs) (c :: cs) d

/-- The targets of entries, one entry after another. -/
inductive HoldsEntries : Nat → List (Key × Linked) → List (Key × Plain) → Nat → Prop where
  | nil (a : Nat) : HoldsEntries a [] [] a
  | cons {a b d : Nat} (k : Key) {x : Linked} {c : Plain} {xs : List (Key × Linked)}
      {cs : List (Key × Plain)} (hx : Holds a x c b) (hxs : HoldsEntries b xs cs d) :
      HoldsEntries a ((k, x) :: xs) ((k, c) :: cs) d

/-- The targets of fields, one field after another. -/
inductive HoldsFields : Nat → List (Field (List Tag) Linked) → List (Field (List Tag) Plain) →
    Nat → Prop where
  | nil (a : Nat) : HoldsFields a [] [] a
  | cons {a b d : Nat} (name : String) (tags : List Tag) {x : Linked} {c : Plain}
      {fs : List (Field (List Tag) Linked)} {gs : List (Field (List Tag) Plain)}
      (hx : Holds a x c b) (hfs : HoldsFields b fs gs d) :
      HoldsFields a (⟨name, tags, x⟩ :: fs) (⟨name, tags, c⟩ :: gs) d

end

end

/-! ## Stretches of cells -/

section

variable {heap : Heap}

mutual

theorem Holds.le : ∀ {c : Plain} {a b : Nat} {x : Linked}, Holds heap a x c b → a ≤ b
  | _, _, _, _, .scalar _ _ => Nat.le_refl _
  | _, _, _, _, .text _ _ => Nat.le_refl _
  | _, _, _, _, .moment _ _ => Nat.le_refl _
  | _, _, _, _, .absent _ => Nat.le_refl _
  | _, _, _, _, .present hx => hx.le
  | _, _, _, _, .owned hx => hx.le
  | _, _, _, _, .pointer _ hx => Nat.le_succ_of_le hx.le
  | _, _, _, _, .list hxs => hxs.le
  | _, _, _, _, .dict hxs => hxs.le
  | _, _, _, _, .table hxs => hxs.le
  | _, _, _, _, .record _ hfs => hfs.le
  | _, _, _, _, .dynamic _ _ => Nat.le_refl _

theorem HoldsItems.le :
    ∀ {cs : List Plain} {a b : Nat} {xs : List Linked}, HoldsItems heap a xs cs b → a ≤ b
  | _, _, _, _, .nil _ => Nat.le_refl _
  | _, _, _, _, .cons hx hxs => Nat.le_trans hx.le hxs.le

theorem HoldsEntries.le : ∀ {cs : List (Key × Plain)} {a b : Nat} {xs : List (Key × Linked)},
    HoldsEntries heap a xs cs b → a ≤ b
  | _, _, _, _, .nil _ => Nat.le_refl _
  | _, _, _, _, .cons _ hx hxs => Nat.le_trans hx.le hxs.le

theorem HoldsFields.le : ∀ {gs : List (Field (List Tag) Plain)} {a b : Nat}
    {fs : List (Field (List Tag) Linked)}, HoldsFields heap a fs gs b → a ≤ b
  | _, _, _, _, .nil _ => Nat.le_refl _
  | _, _, _, _, .cons _ _ hx hfs => Nat.le_trans hx.le hfs.le

end

variable {heap' : Heap}

/-- The two heaps have the same cells from `a` up to `b`. -/
def Agree (heap heap' : Heap) (a b : Nat) : Prop :=
  ∀ h, a ≤ h → h < b → find? heap h = find? heap' h

theorem Agree.mono {a b a' b' : Nat} (h : Agree heap heap' a b) (ha : a ≤ a') (hb : b' ≤ b) :
    Agree heap heap' a' b' :=
  fun j hj hj' ↦ h j (Nat.le_trans ha hj) (Nat.lt_of_lt_of_le hj' hb)

theorem agree_append {a b : Nat} (hb : b ≤ heap.length) (newer : Heap) :
    Agree heap (newer ++ heap) a b :=
  fun _ _ hj ↦ (find?_append (Nat.lt_of_lt_of_le hj hb) newer).symm

mutual

/-- Only the cells that data holds matter for what it holds. -/
theorem Holds.congr : ∀ {c : Plain} {a b : Nat} {x : Linked}, Holds heap a x c b →
    Agree heap heap' a b → Holds heap' a x c b
  | _, _, _, _, .scalar _ _, _ => .scalar _ _
  | _, _, _, _, .text _ _, _ => .text _ _
  | _, _, _, _, .moment _ _, _ => .moment _ _
  | _, _, _, _, .absent _, _ => .absent _
  | _, _, _, _, .present hx, h => .present (hx.congr h)
  | _, _, _, _, .owned hx, h => .owned (hx.congr h)
  | _, _, _, _, .pointer (h := k) hcell hx, h =>
    .pointer ((h k hx.le (Nat.lt_succ_self k)).symm.trans hcell)
      (hx.congr (h.mono (Nat.le_refl _) (Nat.le_succ k)))
  | _, _, _, _, .list hxs, h => .list (hxs.congr h)
  | _, _, _, _, .dict hxs, h => .dict (hxs.congr h)
  | _, _, _, _, .table hxs, h => .table (hxs.congr h)
  | _, _, _, _, .record _ hfs, h => .record _ (hfs.congr h)
  | _, _, _, _, .dynamic _ _, _ => .dynamic _ _

theorem HoldsItems.congr : ∀ {cs : List Plain} {a b : Nat} {xs : List Linked},
    HoldsItems heap a xs cs b → Agree heap heap' a b → HoldsItems heap' a xs cs b
  | _, _, _, _, .nil _, _ => .nil _
  | _, _, _, _, .cons hx hxs, h =>
    .cons (hx.congr (h.mono (Nat.le_refl _) hxs.le)) (hxs.congr (h.mono hx.le (Nat.le_refl _)))

theorem HoldsEntries.congr : ∀ {cs : List (Key × Plain)} {a b : Nat} {xs : List (Key × Linked)},
    HoldsEntries heap a xs cs b → Agree heap heap' a b → HoldsEntries heap' a xs cs b
  | _, _, _, _, .nil _, _ => .nil _
  | _, _, _, _, .cons _ hx hxs, h =>
    .cons _ (hx.congr (h.mono (Nat.le_refl _) hxs.le)) (hxs.congr (h.mono hx.le (Nat.le_refl _)))

theorem HoldsFields.congr : ∀ {gs : List (Field (List Tag) Plain)} {a b : Nat}
    {fs : List (Field (List Tag) Linked)}, HoldsFields heap a fs gs b → Agree heap heap' a b →
    HoldsFields heap' a fs gs b
  | _, _, _, _, .nil _, _ => .nil _
  | _, _, _, _, .cons _ _ hx hfs, h =>
    .cons _ _ (hx.congr (h.mono (Nat.le_refl _) hfs.le))
      (hfs.congr (h.mono hx.le (Nat.le_refl _)))

end

/-! ## What is seen of data with its own targets -/

/-- Through the single holder of a cell everything is seen. -/
theorem exists_look {h : Nat} {x : Linked} (hcell : find? heap h = some ⟨1, x⟩) :
    ∃ look', look heap h = x.sight look' ∧ ∀ j, j < h → look' j = look heap j := by
  obtain ⟨known, hmade, hknown⟩ := find?_build sightOf hcell
  refine ⟨fun j ↦ (known j).getD hidden, ?_, fun j hj ↦ ?_⟩
  · rw [look, hmade, Option.getD_some, sightOf, if_pos rfl]
  · exact congrArg (Option.getD · hidden) (hknown j hj)

/-- What is seen through the pointers from `a` up to `b` is what the heap shows. -/
def Shows (heap : Heap) (sees : Handle → Sight) (a b : Nat) : Prop :=
  ∀ h, a ≤ h → h < b → sees h = look heap h

theorem Shows.mono {sees : Handle → Sight} {a b a' b' : Nat} (h : Shows heap sees a b)
    (ha : a ≤ a') (hb : b' ≤ b) : Shows heap sees a' b' :=
  fun j hj hj' ↦ h j (Nat.le_trans ha hj) (Nat.lt_of_lt_of_le hj' hb)

mutual

theorem Holds.outline_eq : ∀ {c : Plain} {a b : Nat} {x : Linked}, Holds heap a x c b →
    ∀ {sees : Handle → Sight}, Shows heap sees a b → x.outline sees = c.outline nofun
  | _, _, _, _, .scalar _ _, _, _ => rfl
  | _, _, _, _, .text _ _, _, _ => rfl
  | _, _, _, _, .moment _ _, _, _ => rfl
  | _, _, _, _, .absent _, _, _ => rfl
  | _, _, _, _, .present hx, _, h => hx.outline_eq h
  | _, _, _, _, .owned hx, _, h => hx.outline_eq h
  | .owned c, _, _, _, .pointer (h := k) hcell hx, sees, h => by
    obtain ⟨look', hlook, hknown⟩ := exists_look hcell
    have hsees : sees k = look heap k := h k hx.le (Nat.lt_succ_self k)
    show (sees k).inner = c.outline nofun
    rw [hsees, hlook]
    exact hx.outline_eq fun j _ hj ↦ hknown j hj
  | _, _, _, _, .list _, _, _ => rfl
  | _, _, _, _, .dict _, _, _ => rfl
  | _, _, _, _, .table _, _, _ => rfl
  | _, _, _, _, .record name hfs, sees, h => by
    rw [Declared.outline, Declared.outline, hfs.outline_eq h]
  | _, _, _, _, .dynamic _ _, _, _ => rfl

theorem HoldsFields.outline_eq : ∀ {gs : List (Field (List Tag) Plain)} {a b : Nat}
    {fs : List (Field (List Tag) Linked)}, HoldsFields heap a fs gs b →
    ∀ {sees : Handle → Sight}, Shows heap sees a b →
      Declared.outlineFields sees fs = Declared.outlineFields nofun gs
  | _, _, _, _, .nil _, _, _ => rfl
  | _, _, _, _, .cons name tags hx hfs, sees, h => by
    rw [Declared.outlineFields, Declared.outlineFields,
      hx.outline_eq (h.mono (Nat.le_refl _) hfs.le), hfs.outline_eq (h.mono hx.le (Nat.le_refl _))]

end

theorem HoldsItems.outline_eq : ∀ {cs : List Plain} {a b : Nat} {xs : List Linked},
    HoldsItems heap a xs cs b → ∀ {sees : Handle → Sight}, Shows heap sees a b →
      xs.map (Declared.outline sees) = cs.map (Declared.outline nofun)
  | _, _, _, _, .nil _, _, _ => rfl
  | _, _, _, _, .cons hx hxs, sees, h => by
    rw [List.map_cons, List.map_cons, hx.outline_eq (h.mono (Nat.le_refl _) hxs.le),
      hxs.outline_eq (h.mono hx.le (Nat.le_refl _))]

/-- **A walk sees all of data that holds its cells.** -/
theorem Holds.root_eq : ∀ {c : Plain} {a b : Nat} {x : Linked}, Holds heap a x c b →
    ∀ {sees : Handle → Sight}, Shows heap sees a b → x.root sees = c.root nofun
  | _, _, _, _, .scalar _ _, _, _ => rfl
  | _, _, _, _, .text _ _, _, _ => rfl
  | _, _, _, _, .moment _ _, _, _ => rfl
  | _, _, _, _, .absent _, _, _ => rfl
  | _, _, _, _, .present hx, _, h => hx.root_eq h
  | _, _, _, _, .owned hx, _, h => hx.root_eq h
  | .owned c, _, _, _, .pointer (h := k) hcell hx, sees, h => by
    obtain ⟨look', hlook, hknown⟩ := exists_look hcell
    have hsees : sees k = look heap k := h k hx.le (Nat.lt_succ_self k)
    show (sees k).whole = c.root nofun
    rw [hsees, hlook]
    exact hx.root_eq fun j _ hj ↦ hknown j hj
  | _, _, _, _, .list hxs, sees, h => by rw [Declared.root, Declared.root, hxs.outline_eq h]
  | _, _, _, _, .dict _, _, _ => rfl
  | _, _, _, _, .table _, _, _ => rfl
  | _, _, _, _, .record name hfs, sees, h => by
    rw [Declared.root, Declared.root, hfs.outline_eq h]
  | _, _, _, _, .dynamic _ _, _, _ => rfl

/-! ## Contents of data with its own targets -/

/-- The target of a pointer with every further target written out in its place. -/
def target (heap : Heap) (h : Handle) : Plain := (find? (build contentOf heap) h).getD .absent

theorem contents_eq (heap : Heap) (x : Linked) :
    contents heap x = x.subst fun h ↦ .owned (target heap h) :=
  rfl

theorem exists_target {h : Nat} {c : Cell} (hcell : find? heap h = some c) :
    ∃ put : Handle → Plain, target heap h = c.content.subst put ∧
      ∀ j, j < h → put j = .owned (target heap j) := by
  obtain ⟨known, hmade, hknown⟩ := find?_build contentOf hcell
  refine ⟨fun j ↦ .owned ((known j).getD .absent), ?_, fun j hj ↦ ?_⟩
  · rw [target, hmade, Option.getD_some, contentOf]
  · exact congrArg (fun o ↦ Declared.owned (Option.getD o .absent)) (hknown j hj)

/-- In the place of the pointers from `a` up to `b` their targets are put. -/
def Fills (heap : Heap) (put : Handle → Plain) (a b : Nat) : Prop :=
  ∀ h, a ≤ h → h < b → put h = .owned (target heap h)

theorem Fills.mono {put : Handle → Plain} {a b a' b' : Nat} (h : Fills heap put a b)
    (ha : a ≤ a') (hb : b' ≤ b) : Fills heap put a' b' :=
  fun j hj hj' ↦ h j (Nat.le_trans ha hj) (Nat.lt_of_lt_of_le hj' hb)

mutual

theorem Holds.subst_eq : ∀ {c : Plain} {a b : Nat} {x : Linked}, Holds heap a x c b →
    ∀ {put : Handle → Plain}, Fills heap put a b → x.subst put = c
  | _, _, _, _, .scalar _ _, _, _ => rfl
  | _, _, _, _, .text _ _, _, _ => rfl
  | _, _, _, _, .moment _ _, _, _ => rfl
  | _, _, _, _, .absent _, _, _ => rfl
  | _, _, _, _, .present hx, _, h => congrArg Declared.present (hx.subst_eq h)
  | _, _, _, _, .owned hx, _, h => congrArg Declared.owned (hx.subst_eq h)
  | .owned c, _, _, _, .pointer (h := k) hcell hx, put, h => by
    obtain ⟨put', htarget, hknown⟩ := exists_target hcell
    have hput : put k = .owned (target heap k) := h k hx.le (Nat.lt_succ_self k)
    show put k = .owned c
    rw [hput, htarget]
    exact congrArg Declared.owned (hx.subst_eq fun j _ hj ↦ hknown j hj)
  | _, _, _, _, .list hxs, _, h => congrArg Declared.list (hxs.subst_eq h)
  | _, _, _, _, .dict hxs, _, h => congrArg Declared.dict (hxs.subst_eq h)
  | _, _, _, _, .table hxs, _, h => congrArg Declared.table (hxs.subst_eq h)
  | _, _, _, _, .record name hfs, _, h =>
    congrArg (fun fs ↦ Declared.record ⟨name, fs⟩) (hfs.subst_eq h)
  | _, _, _, _, .dynamic _ _, _, _ => rfl

theorem HoldsItems.subst_eq : ∀ {cs : List Plain} {a b : Nat} {xs : List Linked},
    HoldsItems heap a xs cs b → ∀ {put : Handle → Plain}, Fills heap put a b →
      Id.run (Declared.substItemsM (fun h ↦ pure (put h)) xs) = cs
  | _, _, _, _, .nil _, _, _ => rfl
  | _, _, _, _, .cons hx hxs, _, h => by
    obtain rfl := hx.subst_eq (h.mono (Nat.le_refl _) hxs.le)
    obtain rfl := hxs.subst_eq (h.mono hx.le (Nat.le_refl _))
    rfl

theorem HoldsEntries.subst_eq : ∀ {cs : List (Key × Plain)} {a b : Nat} {xs : List (Key × Linked)},
    HoldsEntries heap a xs cs b → ∀ {put : Handle → Plain}, Fills heap put a b →
      Id.run (Declared.substEntriesM (fun h ↦ pure (put h)) xs) = cs
  | _, _, _, _, .nil _, _, _ => rfl
  | _, _, _, _, .cons k hx hxs, _, h => by
    obtain rfl := hx.subst_eq (h.mono (Nat.le_refl _) hxs.le)
    obtain rfl := hxs.subst_eq (h.mono hx.le (Nat.le_refl _))
    rfl

theorem HoldsFields.subst_eq : ∀ {gs : List (Field (List Tag) Plain)} {a b : Nat}
    {fs : List (Field (List Tag) Linked)}, HoldsFields heap a fs gs b →
    ∀ {put : Handle → Plain}, Fills heap put a b →
      Id.run (Declared.substFieldsM (fun h ↦ pure (put h)) fs) = gs
  | _, _, _, _, .nil _, _, _ => rfl
  | _, _, _, _, .cons name tags hx hfs, _, h => by
    obtain rfl := hx.subst_eq (h.mono (Nat.le_refl _) hfs.le)
    obtain rfl := hfs.subst_eq (h.mono hx.le (Nat.le_refl _))
    rfl

end

/-- **What data holds are its contents.** -/
theorem Holds.contents_eq {c : Plain} {a b : Nat} {x : Linked} (h : Holds heap a x c b) :
    contents heap x = c :=
  h.subst_eq fun _ _ _ ↦ rfl

end

end Shroud.Heap
