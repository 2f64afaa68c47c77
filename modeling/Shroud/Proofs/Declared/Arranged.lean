import Shroud.Declared.Arranged
import Shroud.Proofs.Declared.Masked
import Shroud.Proofs.Log.Text
import Shroud.Proofs.Outline.Calls

/-!
# Data in an arrangement of its tables

No walk enters a table, so it makes no difference to a walk, nor to what it puts back, in which
order tables hand out their entries (`Declared.commutes_arranged`); nor does it to the mask of data,
or to whether the data has a text in a log (`Declared.exists_logText_arranged`).  What it does make
a difference to is the text, and only for data in which some table has two entries or more
(`Declared.arranged_of_isSettled`).
-/

set_option autoImplicit false

namespace Shroud.Declared

variable (o : Arrangement) {m : Marker}

/-! ## What a walk sees -/

mutual

theorem outline_arranged (o : Arrangement) :
    ∀ x : Plain, (x.arranged o).outline nofun = x.outline nofun
  | present x => outline_arranged o x
  | owned x => outline_arranged o x
  | record ⟨name, fs⟩ => by
    rw [arranged, outline, outline, outlineFields_arrangedFields o 0 fs]
  | pointer p => nomatch p
  | text _ => rfl
  | moment _ => rfl
  | scalar _ => rfl
  | absent => rfl
  | list _ => rfl
  | dict _ => rfl
  | table _ => rfl
  | dynamic _ => rfl

theorem outlineFields_arrangedFields (o : Arrangement) (i : Nat) :
    ∀ fs : List (Field (List Tag) Plain),
      outlineFields nofun (arrangedFields o i fs) = outlineFields nofun fs
  | [] => rfl
  | ⟨name, tags, x⟩ :: rest => by
    rw [arrangedFields, outlineFields, outlineFields, outline_arranged (o.below i) x,
      outlineFields_arrangedFields o (i + 1) rest]

end

mutual

theorem fill_arranged (o : Arrangement) :
    ∀ (x : Plain) (r : Outline), (x.arranged o).fill r = (x.fill r).arranged o
  | present x, r => congrArg present (fill_arranged o x r)
  | owned x, r => congrArg owned (fill_arranged o x r)
  | record ⟨name, fs⟩, r => by
    cases r with
    | record r =>
      obtain ⟨_, os⟩ := r
      rw [arranged, fill, fill, arranged, fillFields_arrangedFields o 0 fs os]
    | _ => rfl
  | text _, r => by cases r <;> rfl
  | pointer p, _ => nomatch p
  | moment _, _ => rfl
  | scalar _, _ => rfl
  | absent, _ => rfl
  | list _, _ => rfl
  | dict _, _ => rfl
  | table _, _ => rfl
  | dynamic _, _ => rfl

theorem fillFields_arrangedFields (o : Arrangement) (i : Nat) :
    ∀ (fs : List (Field (List Tag) Plain)) (os : List (Field Lookup Outline)),
      fillFields (arrangedFields o i fs) os = arrangedFields o i (fillFields fs os)
  | [], _ => rfl
  | _ :: _, [] => rfl
  | ⟨name, tags, x⟩ :: rest, r :: os => by
    rw [arrangedFields, fillFields, fillFields, arrangedFields, fill_arranged (o.below i) x r.value,
      fillFields_arrangedFields o (i + 1) rest os]

end

mutual

/-- **Data is its only arrangement if no table in it has two entries.** -/
theorem arranged_of_isSettled (o : Arrangement) :
    ∀ x : Plain, x.isSettled = true → x.arranged o = x
  | present x, h => congrArg present (arranged_of_isSettled o x h)
  | owned x, h => congrArg owned (arranged_of_isSettled o x h)
  | record ⟨name, fs⟩, h => by rw [arranged, arrangedFields_of_settledFields o 0 fs h]
  | list items, h => congrArg list (arrangedItems_of_settledItems o 0 items h)
  | dict entries, h => congrArg dict (arrangedEntries_of_settledEntries o 0 entries h)
  | table entries, h => by
    rw [isSettled, Bool.and_eq_true, decide_eq_true_eq] at h
    obtain ⟨hlength, h⟩ := h
    have hperm := o.perm [] entries
    rw [arranged, arrangedEntries_of_settledEntries o 0 entries h]
    match entries, hlength with
    | [], _ => rw [hperm.eq_nil]
    | [e], _ => rw [List.perm_singleton.mp hperm]
  | pointer p, _ => nomatch p
  | text _, _ => rfl
  | moment _, _ => rfl
  | scalar _, _ => rfl
  | absent, _ => rfl
  | dynamic _, _ => rfl

theorem arrangedItems_of_settledItems (o : Arrangement) (i : Nat) :
    ∀ items : List Plain, settledItems items = true → arrangedItems o i items = items
  | [], _ => rfl
  | x :: rest, h => by
    rw [settledItems, Bool.and_eq_true] at h
    rw [arrangedItems, arranged_of_isSettled _ x h.1, arrangedItems_of_settledItems o _ rest h.2]

theorem arrangedEntries_of_settledEntries (o : Arrangement) (i : Nat) :
    ∀ entries : List (Key × Plain), settledEntries entries = true →
      arrangedEntries o i entries = entries
  | [], _ => rfl
  | (k, x) :: rest, h => by
    rw [settledEntries, Bool.and_eq_true] at h
    rw [arrangedEntries, arranged_of_isSettled _ x h.1,
      arrangedEntries_of_settledEntries o _ rest h.2]

theorem arrangedFields_of_settledFields (o : Arrangement) (i : Nat) :
    ∀ fs : List (Field (List Tag) Plain), settledFields fs = true → arrangedFields o i fs = fs
  | [], _ => rfl
  | ⟨name, tags, x⟩ :: rest, h => by
    rw [settledFields, Bool.and_eq_true] at h
    rw [arrangedFields, arranged_of_isSettled _ x h.1, arrangedFields_of_settledFields o _ rest h.2]

end

/-! ## Texts in a log -/

open Document (Canonical CanonicalEntry)

theorem documentEntries_eq_map (entries : List (Key × Plain)) :
    documentEntries entries = entries.map fun e ↦ (e.1, document e.2) := by
  induction entries with
  | nil => rfl
  | cons e rest ih => exact congrArg _ ih

mutual

theorem canonical_arranged (o : Arrangement) :
    ∀ x : Plain, (x.arranged o).document.Canonical ↔ x.document.Canonical
  | present x => canonical_arranged o x
  | owned x => canonical_arranged o x
  | record ⟨name, fs⟩ => by
    rw [arranged, document, document, Document.canonical_map, Document.canonical_map]
    exact canonicalEntries_arrangedFields o 0 fs
  | list items => by
    rw [arranged, document, document, Document.canonical_seq, Document.canonical_seq]
    exact canonicalItems_arrangedItems o 0 items
  | dict entries => by
    rw [arranged, document, document, Document.canonical_map, Document.canonical_map]
    exact canonicalEntries_arrangedEntries o 0 entries
  | table entries => by
    have hmem (e : Key × Document) :
        e ∈ documentEntries (o.arrange [] (arrangedEntries o 0 entries)) ↔
          e ∈ documentEntries (arrangedEntries o 0 entries) := by
      rw [documentEntries_eq_map, documentEntries_eq_map]
      exact ((o.perm [] _).map _).mem_iff
    rw [arranged, document, document, Document.canonical_map, Document.canonical_map]
    simp only [hmem]
    exact canonicalEntries_arrangedEntries o 0 entries
  | pointer p => nomatch p
  | text _ => .rfl
  | moment _ => .rfl
  | scalar _ => .rfl
  | absent => .rfl
  | dynamic _ => .rfl

theorem canonicalItems_arrangedItems (o : Arrangement) (i : Nat) :
    ∀ items : List Plain, (∀ d ∈ documentItems (arrangedItems o i items), Canonical d) ↔
      ∀ d ∈ documentItems items, Canonical d
  | [] => .rfl
  | x :: rest => by
    rw [arrangedItems, documentItems, documentItems, List.forall_mem_cons, List.forall_mem_cons,
      canonical_arranged (o.below i) x, canonicalItems_arrangedItems o (i + 1) rest]

theorem canonicalEntries_arrangedEntries (o : Arrangement) (i : Nat) :
    ∀ entries : List (Key × Plain),
      (∀ e ∈ documentEntries (arrangedEntries o i entries), CanonicalEntry e) ↔
        ∀ e ∈ documentEntries entries, CanonicalEntry e
  | [] => .rfl
  | (k, x) :: rest => by
    rw [arrangedEntries, documentEntries, documentEntries, List.forall_mem_cons,
      List.forall_mem_cons, CanonicalEntry, CanonicalEntry, canonical_arranged (o.below i) x,
      canonicalEntries_arrangedEntries o (i + 1) rest]

theorem canonicalEntries_arrangedFields (o : Arrangement) (i : Nat) :
    ∀ fs : List (Field (List Tag) Plain),
      (∀ e ∈ documentFields (arrangedFields o i fs), CanonicalEntry e) ↔
        ∀ e ∈ documentFields fs, CanonicalEntry e
  | [] => .rfl
  | ⟨name, tags, x⟩ :: rest => by
    rw [arrangedFields, documentFields, documentFields, List.forall_mem_cons, List.forall_mem_cons,
      CanonicalEntry, CanonicalEntry, canonical_arranged (o.below i) x,
      canonicalEntries_arrangedFields o (i + 1) rest]

end

end Shroud.Declared
