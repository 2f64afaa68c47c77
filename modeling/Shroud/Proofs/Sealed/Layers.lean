import Shroud.Declared.Erased
import Shroud.Proofs.Declared.Linked
import Shroud.Proofs.Declared.Restorable
import Shroud.Proofs.Sealed.Concealer

/-!
# Layers of encryption

Data may be encrypted under several keys, one after another.  With a cipher that decrypts whatever
it encrypts (`Cipher.Faithful`), decryption under the same keys in reverse order gives the data back:
`Concealer.layered_roundTrip`.  An empty key is a layer like any other; it does nothing.

It does not matter how the data is handed over for each layer (`Entry`), since every way comes to the
same walk (`Concealer.through_eq`).
-/

set_option autoImplicit false

namespace Shroud

/-- Under a key that is not empty, the cipher decrypts to a text whatever it encrypts the text to. -/
def Cipher.Faithful {σ : Type} (c : Cipher σ) : Prop :=
  ∀ key : String, key ≠ "" → ∀ (t a : String) (s s₁ : σ), c.encrypt t key s = .ok a s₁ →
    ∀ s₂, ∃ s₃, c.decrypt a key s₂ = .ok t s₃

/-- The cipher that is used unless another is given decrypts what it encrypts. -/
theorem fieldCipher_faithful : fieldCipher.Faithful :=
  fun _ hkey ↦ Concealer.takenBack hkey

/-! ## What keeps a walk from its end -/

/-- The failure of the first event that is no text. -/
def obstacle? {ε : Type} : List Event → Option (Failure ε)
  | [] => none
  | .text _ _ :: es => obstacle? es
  | .unsupported found :: _ => some (.unsupportedShape found)
  | .tooDeep :: _ => some (.tooDeep depthLimit)

theorem obstacle?_eq_some {ε : Type} {es : List Event} {f : Failure ε} (h : obstacle? es = some f) :
    (∃ found, f = .unsupportedShape found) ∨ f = .tooDeep depthLimit := by
  induction es with
  | nil => cases h
  | cons e es ih =>
    cases e with
    | text path t => exact ih h
    | unsupported found => exact .inl ⟨found, (Option.some.inj h).symm⟩
    | tooDeep => exact .inr (Option.some.inj h).symm

namespace Pass

variable {σ ε : Type} {p : Pass σ ε}

/-- When the leaf never refuses, a run fails only for what is in its way. -/
theorem exists_run_error_iff (hleaf : ∀ t s, ∃ a s₁, p.leaf t p.key s = .ok a s₁) {es : List Event}
    {f : Failure ε} (s : σ) : (∃ s₁, p.run es s = .error f s₁) ↔ obstacle? es = some f := by
  induction es generalizing s with
  | nil => exact ⟨nofun, nofun⟩
  | cons e es ih =>
    cases e with
    | unsupported found =>
      constructor
      · rintro ⟨s₁, h⟩
        exact congrArg some (EStateM.Result.error.inj h).1
      · intro h
        exact ⟨s, congrArg (EStateM.Result.error · s) (Option.some.inj h)⟩
    | tooDeep =>
      constructor
      · rintro ⟨s₁, h⟩
        exact congrArg some (EStateM.Result.error.inj h).1
      · intro h
        exact ⟨s, congrArg (EStateM.Result.error · s) (Option.some.inj h)⟩
    | text path t =>
      obtain ⟨a, s₁, ha⟩ := hleaf t s
      rw [obstacle?, ← ih s₁, run, bind_of_ok (replace_of_ok ha path)]
      constructor
      · rintro ⟨s₂, h⟩
        cases hrun : p.run es s₁ with
        | ok as s₃ =>
          rw [bind_of_ok hrun] at h
          cases h
        | error f' s₃ =>
          rw [bind_of_error hrun] at h
          obtain ⟨rfl, rfl⟩ := EStateM.Result.error.inj h
          exact ⟨s₃, rfl⟩
      · rintro ⟨s₂, h⟩
        exact ⟨s₂, bind_of_error h⟩

/-- When the leaf never refuses, a transformation fails only for what is in its way. -/
theorem exists_transform_error_iff (hleaf : ∀ t s, ∃ a s₁, p.leaf t p.key s = .ok a s₁) {α : Type}
    [HasRoot α] {x : α} {f : Failure ε} (hkey : p.key ≠ "") (s : σ) :
    (∃ s₁, transform p x s = .error f s₁) ↔
      obstacle? ((HasRoot.root x).events p.marker) = some f := by
  rw [← exists_run_error_iff hleaf s, transform_eq p x hkey, map_eq_pure_bind]
  constructor
  · rintro ⟨s₁, h⟩
    cases hrun : p.run ((HasRoot.root x).events p.marker) s with
    | ok as s₂ =>
      rw [bind_of_ok hrun] at h
      cases h
    | error f' s₂ =>
      rw [bind_of_error hrun] at h
      obtain ⟨rfl, rfl⟩ := EStateM.Result.error.inj h
      exact ⟨s₂, rfl⟩
  · rintro ⟨s₁, h⟩
    exact ⟨s₁, bind_of_error h⟩

end Pass

namespace Concealer

variable {σ : Type} (c : Concealer σ)

/-! ## Ways to hand data over -/

/-- How data is handed to a concealer. -/
inductive Entry where
  /-- At its own type. -/
  | typed
  /-- At a type known only at run time; the layout is asked for when the data comes back. -/
  | untyped (l : Layout)
  /-- A sequence as its elements; other data has no elements, and is handed over at its type. -/
  | slice

/-- The data with its marked texts encrypted or decrypted, handed over in one of the ways. -/
def through (d : Direction) : Entry → Plain → String → EStateM (Failure CipherError) σ Plain
  | .typed, .dynamic v, key => .dynamic <$> c.apply d v key
  | .untyped l, x, key => do
    let e ← c.apply d (Erased.mk l x) key
    return (e.downcast? l).getD .absent
  | .slice, .list items, key => .list <$> c.apply d items key
  | _, x, key => c.apply d x key

/-- The data with its marked texts encrypted or decrypted in several layers, each with a key and a
way to hand it over. -/
def layered (d : Direction) (layers : List (Entry × String)) (x : Plain) :
    EStateM (Failure CipherError) σ Plain :=
  layers.foldlM (fun x l ↦ c.through d l.1 x l.2) x

/-- Linked data with its marked texts encrypted or decrypted in several layers. -/
def layeredLinked (d : Direction) (keys : List String) (x : Linked) :
    EStateM (Failure CipherError) (σ × Heap) Linked :=
  keys.foldlM (fun x key ↦ Heap.transform (c.pass d key) x) x

variable {c}

/-- **Every way comes to the same walk.** -/
theorem through_eq (d : Direction) (e : Entry) (x : Plain) (key : String) :
    c.through d e x key = c.apply d x key := by
  have hdynamic (v : Value) :
      c.apply d (Declared.dynamic v : Plain) key = .dynamic <$> c.apply d v key :=
    transform_map (c.pass d key) _ v rfl fun _ ↦ rfl
  have hlist (items : List Plain) :
      c.apply d (Declared.list items : Plain) key = .list <$> c.apply d items key := by
    refine transform_map (c.pass d key) _ items rfl fun r ↦ ?_
    cases r <;> rfl
  have herased (l : Layout) :
      c.apply d (Erased.mk l x) key = Erased.mk l <$> c.apply d x key :=
    transform_map (c.pass d key) _ x rfl fun _ ↦ rfl
  cases e with
  | typed =>
    cases x with
    | dynamic v => exact (hdynamic v).symm
    | _ => rfl
  | untyped l =>
    have hcast (y : Plain) : ((Erased.mk l y).downcast? l).getD .absent = y := by
      rw [Erased.downcast?, if_pos rfl, Option.getD_some]
    rw [through, herased]
    simp only [map_eq_pure_bind, bind_assoc, pure_bind, hcast, bind_pure]
  | slice =>
    cases x with
    | list items => exact (hlist items).symm
    | _ => rfl

theorem layered_cons (d : Direction) (e : Entry) (key : String) (rest : List (Entry × String))
    (x : Plain) :
    c.layered d ((e, key) :: rest) x = c.apply d x key >>= c.layered d rest := by
  rw [layered, List.foldlM_cons, through_eq]
  rfl

theorem layered_concat (d : Direction) (e : Entry) (key : String) (front : List (Entry × String))
    (x : Plain) :
    c.layered d (front ++ [(e, key)]) x = c.layered d front x >>= fun y ↦ c.apply d y key := by
  rw [layered, List.foldlM_append]
  refine bind_congr fun y ↦ ?_
  simp only [List.foldlM_cons, through_eq, List.foldlM_nil, bind_pure]

/-! ## The round trip -/

/-- One layer is taken back. -/
theorem apply_of_apply (hc : c.cipher.Faithful) {x y : Plain} {key : String} {s s₁ : σ}
    (h : c.apply .encrypt x key s = .ok y s₁) (s₂ : σ) :
    ∃ s₃, c.apply .decrypt y key s₂ = .ok x s₃ := by
  by_cases hkey : key = ""
  · subst hkey
    obtain ⟨rfl, rfl⟩ := EStateM.Result.ok.inj h
    exact ⟨s₂, rfl⟩
  · exact transform_of_transform (p := c.pass .encrypt key) (q := c.pass .decrypt key) hkey hkey rfl
      (hc key hkey) (Declared.restorable c.marker x) h s₂

/-- Any number of layers are taken back in reverse order. -/
theorem layered_of_layered (hc : c.cipher.Faithful) {layers back : List (Entry × String)}
    (hkeys : back.map Prod.snd = (layers.map Prod.snd).reverse) {x h : Plain} {s s₁ : σ}
    (hx : c.layered .encrypt layers x s = .ok h s₁) (s₂ : σ) :
    ∃ s₃, c.layered .decrypt back h s₂ = .ok x s₃ := by
  induction layers generalizing back x s with
  | nil =>
    obtain rfl : back = [] := List.map_eq_nil_iff.mp hkeys
    obtain ⟨rfl, rfl⟩ := EStateM.Result.ok.inj hx
    exact ⟨s₂, rfl⟩
  | cons l rest ih =>
    rw [layered_cons] at hx
    obtain ⟨y, s', hy, hrest⟩ := bind_eq_ok hx
    rw [List.map_cons, List.reverse_cons] at hkeys
    obtain ⟨front, last, rfl, hfront, hlast⟩ := List.map_eq_append_iff.mp hkeys
    obtain ⟨⟨e, key⟩, rfl, rfl⟩ := List.map_eq_singleton_iff.mp hlast
    obtain ⟨s₃, hback⟩ := ih hfront hrest
    obtain ⟨s₄, hfirst⟩ := apply_of_apply hc hy s₃
    refine ⟨s₄, ?_⟩
    rw [layered_concat, bind_of_ok hback]
    exact hfirst

/-! ## What is selected -/

/-- A layer puts texts into the root, as many as there are marked ones. -/
theorem exists_put_of_apply {d : Direction} {x y : Plain} {key : String} {s s₁ : σ}
    (h : c.apply d x key s = .ok y s₁) :
    ∃ ts, ts.length = (contents ((HasRoot.root x).events c.marker)).length ∧
      HasRoot.root y = (HasRoot.root x).put c.marker ts := by
  by_cases hkey : key = ""
  · subst hkey
    obtain ⟨rfl, rfl⟩ := EStateM.Result.ok.inj h
    exact ⟨_, rfl, (Root.put_contents _).symm⟩
  · change transform (c.pass d key) x s = .ok y s₁ at h
    rw [transform_eq _ x hkey, map_eq_pure_bind] at h
    obtain ⟨ts, s', hrun, h⟩ := bind_eq_ok h
    obtain ⟨rfl, rfl⟩ := EStateM.Result.ok.inj h
    exact ⟨ts, Pass.length_of_run _ hrun, (Declared.restorable c.marker x).root_refill ts⟩

/-- Layers put texts into the root, as many as there are marked ones. -/
theorem exists_put_of_layered {d : Direction} {layers : List (Entry × String)} {x h : Plain}
    {s s₁ : σ} (hx : c.layered d layers x s = .ok h s₁) :
    ∃ ts, ts.length = (contents ((HasRoot.root x).events c.marker)).length ∧
      HasRoot.root h = (HasRoot.root x).put c.marker ts := by
  induction layers generalizing x s with
  | nil =>
    obtain ⟨rfl, rfl⟩ := EStateM.Result.ok.inj hx
    exact ⟨_, rfl, (Root.put_contents _).symm⟩
  | cons l rest ih =>
    rw [layered_cons] at hx
    obtain ⟨y, s', hy, hrest⟩ := bind_eq_ok hx
    obtain ⟨ts, hts, hroot⟩ := exists_put_of_apply hy
    obtain ⟨us, hus, hroot'⟩ := ih hrest
    rw [hroot, Root.events_put hts, contents_exchange hts] at hus
    exact ⟨us, hus.trans hts, by rw [hroot', hroot, Root.put_put hts hus]⟩

/-! ## Linked data -/

/-- Layers of linked data are layers of its contents. -/
theorem writtenOut_layeredLinked (d : Direction) (keys : List String) (x : Linked) (s : σ)
    (heap : Heap) :
    Heap.writtenOut (c.layeredLinked d keys x (s, heap)) =
      c.layered d (keys.map (Entry.typed, ·)) (Heap.contents heap x) s := by
  induction keys generalizing x s heap with
  | nil => rfl
  | cons key rest ih =>
    have hwritten : Heap.writtenOut (Heap.transform (c.pass d key) x (s, heap)) =
        c.apply d (Heap.contents heap x) key s :=
      Heap.writtenOut_transform (c.pass d key) x s heap
    rw [List.map_cons, layered_cons, layeredLinked, List.foldlM_cons]
    cases h : Heap.transform (c.pass d key) x (s, heap) with
    | ok y st =>
      rw [h] at hwritten
      rw [bind_of_ok h, bind_of_ok hwritten.symm]
      exact ih y st.1 st.2
    | error e st =>
      rw [h] at hwritten
      rw [bind_of_error h, bind_of_error hwritten.symm]
      rfl

/-- Any number of layers of linked data are taken back in reverse order. -/
theorem layeredLinked_of_layeredLinked (hc : c.cipher.Faithful) {keys : List String} {x y : Linked}
    {s s₁ : σ} {heap heap₁ : Heap}
    (hx : c.layeredLinked .encrypt keys x (s, heap) = .ok y (s₁, heap₁)) (s₂ : σ) :
    ∃ z s₃ heap₂, c.layeredLinked .decrypt keys.reverse y (s₂, heap₁) = .ok z (s₃, heap₂) ∧
      Heap.contents heap₂ z = Heap.contents heap x := by
  have hthere := writtenOut_layeredLinked (c := c) .encrypt keys x s heap
  have hback := writtenOut_layeredLinked (c := c) .decrypt keys.reverse y s₂ heap₁
  have hkeys : ((keys.reverse.map (Entry.typed, ·)).map Prod.snd) =
      ((keys.map (Entry.typed, ·)).map Prod.snd).reverse := by
    simp [Function.comp_def]
  rw [hx] at hthere
  obtain ⟨s₃, hround⟩ := layered_of_layered hc hkeys hthere.symm s₂
  rw [hround] at hback
  cases h : c.layeredLinked .decrypt keys.reverse y (s₂, heap₁) with
  | ok z st =>
    rw [h] at hback
    exact ⟨z, st.1, st.2, rfl, (EStateM.Result.ok.inj hback).1⟩
  | error e st =>
    rw [h] at hback
    cases hback

/-! ## Failures -/

/-- When the cipher never refuses, only the value decides whether a layer fails, and how. -/
theorem exists_through_error_iff {d : Direction} {key : String}
    (hleaf : ∀ t s, ∃ a s₁, c.leaf d t key s = .ok a s₁) {e : Entry} {x : Plain}
    {f : Failure CipherError} (s : σ) :
    (∃ s₁, c.through d e x key s = .error f s₁) ↔
      key ≠ "" ∧ obstacle? ((HasRoot.root x).events c.marker) = some f := by
  rw [through_eq]
  by_cases hkey : key = ""
  · subst hkey
    exact ⟨nofun, fun h ↦ absurd rfl h.1⟩
  · have hiff := Pass.exists_transform_error_iff (p := c.pass d key) hleaf (x := x) (f := f) hkey s
    exact hiff.trans (and_iff_right hkey).symm

/-- **Layers are taken back.**  With a cipher that decrypts what it encrypts:

* if encryption in several layers succeeds, then decryption of the result, under the same keys in
  reverse order, succeeds in every layer and gives the data back, whatever ways it is handed over;
  what is met in the encrypted data are the marked fields of the data, in their order, with other
  texts;
* layers of data that is linked to targets elsewhere do the same as layers of its contents, with the
  same failures, so that such data is given back, too; with its type forgotten, such data is handed
  over by its contents, as in the first point;
* if the cipher never refuses under a key, then encryption and decryption of the same data fail
  alike, which is then for its shape or its depth. -/
theorem layered_roundTrip (c : Concealer σ) (hc : c.cipher.Faithful) :
    (∀ (x h : Plain) (layers back : List (Entry × String)) (s s₁ : σ),
      back.map Prod.snd = (layers.map Prod.snd).reverse →
      c.layered .encrypt layers x s = .ok h s₁ →
      (∀ s₂, ∃ s₃, c.layered .decrypt back h s₂ = .ok x s₃) ∧
      ∃ ts : List String,
        ts.length = (contents ((HasRoot.root x).events c.marker)).length ∧
        HasRoot.root h = (HasRoot.root x).put c.marker ts ∧
        (HasRoot.root h).events c.marker = exchange ((HasRoot.root x).events c.marker) ts) ∧
    (∀ (d : Direction) (keys : List String) (x : Linked) (s : σ) (heap : Heap),
      Heap.writtenOut (c.layeredLinked d keys x (s, heap)) =
        c.layered d (keys.map (Entry.typed, ·)) (Heap.contents heap x) s) ∧
    (∀ (x y : Linked) (keys : List String) (s s₁ : σ) (heap heap₁ : Heap),
      c.layeredLinked .encrypt keys x (s, heap) = .ok y (s₁, heap₁) →
      ∀ s₂, ∃ z s₃ heap₂,
        c.layeredLinked .decrypt keys.reverse y (s₂, heap₁) = .ok z (s₃, heap₂) ∧
          Heap.contents heap₂ z = Heap.contents heap x) ∧
    ∀ key : String, (∀ t s, ∃ a s₁, c.cipher.encrypt t key s = .ok a s₁) →
      (∀ t s, ∃ a s₁, c.cipher.decrypt t key s = .ok a s₁) →
      ∀ (x : Plain) (e e' : Entry) (f : Failure CipherError) (s s' : σ),
        ((∃ s₁, c.through .encrypt e x key s = .error f s₁) ↔
          ∃ s₁, c.through .decrypt e' x key s' = .error f s₁) ∧
        ((∃ s₁, c.through .encrypt e x key s = .error f s₁) →
          (∃ found, f = .unsupportedShape found) ∨ f = .tooDeep depthLimit) := by
  refine ⟨fun x h layers back s s₁ hkeys hx ↦ ⟨layered_of_layered hc hkeys hx, ?_⟩,
    writtenOut_layeredLinked, fun x y keys s s₁ heap heap₁ hx ↦ layeredLinked_of_layeredLinked hc hx,
    fun key henc hdec x e e' f s s' ↦ ?_⟩
  · obtain ⟨ts, hts, hroot⟩ := exists_put_of_layered hx
    exact ⟨ts, hts, hroot, by rw [hroot, Root.events_put hts]⟩
  · have hencrypt := exists_through_error_iff (c := c) (d := .encrypt) henc (e := e) (x := x)
      (f := f) s
    have hdecrypt := exists_through_error_iff (c := c) (d := .decrypt) hdec (e := e') (x := x)
      (f := f) s'
    exact ⟨hencrypt.trans hdecrypt.symm, fun h ↦ obstacle?_eq_some (hencrypt.mp h).2⟩

/-- A cipher that puts a character in front of a text, by turns one of two. -/
def stamping : Concealer Nat := .ofCipher
  { encrypt := fun t _ n ↦ .ok (String.ofList ((if n % 2 = 0 then 'a' else 'b') :: t.toList)) (n + 1)
    decrypt := fun t _ n ↦ .ok (String.ofList (t.toList.drop 1)) n }

theorem stamping_faithful : stamping.cipher.Faithful := by
  intro key _ t a s s₁ h s₂
  obtain ⟨rfl, -⟩ := EStateM.Result.ok.inj h
  refine ⟨s₂, ?_⟩
  show EStateM.Result.ok (String.ofList ((String.ofList (_ :: t.toList)).toList.drop 1)) s₂ = _
  rw [String.toList_ofList, List.drop_one, List.tail_cons, String.ofList_toList]

/-- Two records, of which the second describes itself, with their marked texts. -/
def cards (x y : String) : Plain :=
  .list [.record ⟨"Card", [⟨"holder", [], .text "alice"⟩,
      ⟨"number", [("log", "encrypt")], .present (.text x)⟩]⟩,
    .dynamic (.record ⟨"Note", [.tagged "body" (.text y) [("log", "encrypt")]]⟩)]

/-- Three layers, the second of which has an empty key. -/
theorem layered_roundTrip_cards :
    stamping.layered .encrypt [(.typed, "k"), (.slice, ""), (.untyped (.basic "Cards"), "m")]
      (cards "1234" "hi") 0 = .ok (cards "aa1234" "bbhi") 4 ∧
    ∃ s₃, stamping.layered .decrypt [(.slice, "m"), (.typed, ""), (.slice, "k")]
      (cards "aa1234" "bbhi") 7 = .ok (cards "1234" "hi") s₃ := by
  have hencrypt : stamping.layered .encrypt
      [(.typed, "k"), (.slice, ""), (.untyped (.basic "Cards"), "m")] (cards "1234" "hi") 0 =
        .ok (cards "aa1234" "bbhi") 4 := rfl
  exact ⟨hencrypt, ((layered_roundTrip stamping stamping_faithful).1 _ _ _
    [(.slice, "m"), (.typed, ""), (.slice, "k")] _ _ rfl hencrypt).1 7⟩

end Concealer

end Shroud
