import Shroud.Annotation.Tags

/-!
# The two forms of annotations agree

The pairs of a declaration are searched from the front, so the first pair of a key counts.  Pairs
that are attached replace one another, so the last one counts.  Attaching the pairs of a declaration
from the last to the first therefore gives the same answers (`TagMap.get?_ofDeclared`), and in
whichever form a field has its annotations, a marker selects it or not (`Tags.declared_agrees`).

What is attached is kept in the order of the keys.  Of the order in which the pairs came nothing is
left but the order of those with one key: they alone decide about the key
(`TagMap.get?_ofList_filter`).
-/

set_option autoImplicit false

namespace Shroud

/-- Pairs of other keys do not matter. -/
theorem findTag?_filter (key : String) (ts : List Tag) :
    findTag? key (ts.filter fun t ↦ t.1 = key) = findTag? key ts := by
  induction ts with
  | nil => rfl
  | cons t rest ih =>
    by_cases ht : t.1 = key
    · rw [List.filter_cons_of_pos (by simpa using ht), findTag?, findTag?, if_pos ht, if_pos ht]
    · rw [List.filter_cons_of_neg (by simpa using ht), findTag?, if_neg ht, ih]

theorem insertTag_ne_nil (key value : String) (ts : List Tag) : insertTag key value ts ≠ [] := by
  cases ts with
  | nil => exact List.cons_ne_nil _ _
  | cons t rest =>
    rw [insertTag]
    split
    · exact List.cons_ne_nil _ _
    · split <;> exact List.cons_ne_nil _ _

namespace TagMap

/-! ## Annotations of a declaration, attached -/

/-- The annotations of a declaration: of each key the first pair, which is attached last here. -/
def ofDeclared (pairs : List Tag) : TagMap := ofList pairs.reverse

/-- A pair attached behind others is the one that counts. -/
theorem ofList_concat (ts : List Tag) (t : Tag) :
    ofList (ts ++ [t]) = (ofList ts).insert t.1 t.2 := by
  rw [ofList, List.foldl_append]
  rfl

/-- **The first pair of a key is the one that counts.** -/
theorem get?_ofDeclared (pairs : List Tag) :
    (ofDeclared pairs).get? = (Tags.declared pairs).get? := by
  funext key
  show (ofList pairs.reverse).get? key = findTag? key pairs
  induction pairs with
  | nil => rfl
  | cons t rest ih =>
    rw [List.reverse_cons, ofList_concat, findTag?]
    split
    · rename_i heq
      rw [heq, get?_insert_self]
    · rename_i hne
      rw [get?_insert_of_ne _ _ (Ne.symm hne), ih]

/-! ## Annotations attached in any order -/

/-- Of attached pairs the last one of a key counts. -/
theorem get?_ofList (ts : List Tag) (key : String) :
    (ofList ts).get? key = findTag? key ts.reverse := by
  have h := congrFun (get?_ofDeclared ts.reverse) key
  rwa [ofDeclared, List.reverse_reverse] at h

/-- **The pairs of a key decide about the key**, and the others may be attached before them, after
them or not at all. -/
theorem get?_ofList_filter (ts : List Tag) (key : String) :
    (ofList (ts.filter fun t ↦ t.1 = key)).get? key = (ofList ts).get? key := by
  rw [get?_ofList, get?_ofList, ← List.filter_reverse, findTag?_filter]

theorem isEmpty_insert (m : TagMap) (key value : String) : (m.insert key value).isEmpty = false :=
  List.isEmpty_eq_false_iff.mpr (insertTag_ne_nil key value m.entries)

/-- Nothing that was attached is lost altogether. -/
theorem isEmpty_ofList (ts : List Tag) : (ofList ts).isEmpty = ts.isEmpty := by
  rcases List.eq_nil_or_concat ts with rfl | ⟨front, t, rfl⟩
  · rfl
  · rw [List.concat_eq_append, ofList_concat, isEmpty_insert]
    have hne : front ++ [t] ≠ [] := List.append_ne_nil_of_right_ne_nil front (List.cons_ne_nil t [])
    exact (List.isEmpty_eq_false_iff.mpr hne).symm

end TagMap

namespace Tags

/-- **Declared annotations agree with attached ones.**  The pairs of a declaration, attached from
the last to the first, give the same answer under every key; there is nothing in the one form just
when there is nothing in the other; and a marker selects a field with the one or with the other, or
neither.

Of attached pairs, the answer under a key depends on the pairs with this key and on their order.
Two lists that have the same ones in the same order give the same answer, wherever their other pairs
are. -/
theorem declared_agrees (pairs : List Tag) :
    (∀ key, (declared pairs).get? key = (attached (.ofList pairs.reverse)).get? key) ∧
    (declared pairs).isEmpty = (attached (.ofList pairs.reverse)).isEmpty ∧
    (∀ m : Marker,
      m.selects (declared pairs).get? = m.selects (attached (.ofList pairs.reverse)).get?) ∧
    ∀ (key : String) (others : List Tag),
      (others.filter fun t ↦ t.1 = key) = (pairs.filter fun t ↦ t.1 = key) →
      (attached (.ofList others)).get? key = (attached (.ofList pairs)).get? key := by
  have hget : (attached (.ofList pairs.reverse)).get? = (declared pairs).get? :=
    TagMap.get?_ofDeclared pairs
  refine ⟨fun key ↦ (congrFun hget key).symm, ?_, fun m ↦ by rw [hget], fun key others h ↦ ?_⟩
  · show pairs.isEmpty = (TagMap.ofList pairs.reverse).isEmpty
    rw [TagMap.isEmpty_ofList, List.isEmpty_reverse]
  · show (TagMap.ofList others).get? key = (TagMap.ofList pairs).get? key
    rw [← TagMap.get?_ofList_filter others, h, TagMap.get?_ofList_filter]

/-- A key that is declared twice, and the same pairs of it attached among others. -/
theorem declared_agrees_twice :
    (attached (.ofList [("log", "encrypt"), ("json", "name"), ("log", "plain")])).get? "log" =
      some "plain" ∧
    (attached (.ofList [("audit", "mask"), ("log", "plain"), ("json", ""), ("log", "encrypt"),
      ("json", "name")])).get? "log" =
      (attached (.ofList [("log", "plain"), ("json", "name"), ("log", "encrypt")])).get? "log" := by
  obtain ⟨hget, -, -, horder⟩ :=
    declared_agrees [("log", "plain"), ("json", "name"), ("log", "encrypt")]
  exact ⟨(hget "log").symm, horder "log" _ (by decide)⟩

end Tags

end Shroud
