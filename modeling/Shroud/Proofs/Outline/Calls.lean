import Shroud.Proofs.Outline.Events

/-!
# The calls of a walk

Which calls of the leaf a walk makes, and which failure it ends with.  A pass can be `recorded`: its
leaf is the same, and puts the text and the key of each call behind those of the earlier calls.  So
whatever is said of the state of a recorded pass is said of the calls.

A list of events either passes, when the leaf answers every text of it and there is nothing else in
it, or has a first event that fails; `run_cases` says so, and what the run is in each case.

Where the leaf leaves its state alone, so does the walk, and its result is the same from every state
(`steady_transform`).
-/

set_option autoImplicit false

namespace Shroud.Pass

variable {σ ε : Type} (p : Pass σ ε)

/-- The answers of the leaf to some texts, one after another. -/
def answers (ts : List String) : EStateM ε σ (List String) := ts.mapM fun t ↦ p.leaf t p.key

/-- The pass with a record of the calls of its leaf: text and key of each, in their order. -/
def recorded : Pass (σ × List (String × String)) ε where
  key := p.key
  marker := p.marker
  leaf text key := fun s ↦
    match p.leaf text key s.1 with
    | .ok t s₁ => .ok t (s₁, s.2 ++ [(text, key)])
    | .error e s₁ => .error e (s₁, s.2 ++ [(text, key)])

/-- The calls that some texts make. -/
def calls (ts : List String) : List (String × String) := ts.map fun t ↦ (t, p.key)

/-- From the state `s` all the events pass: they are texts, to which the leaf answers with `as`, and
the state is `s₁` then. -/
structure Passes (s : σ) (es : List Event) (as : List String) (s₁ : σ) : Prop where
  /-- Nothing but texts is met. -/
  texts : ∀ e ∈ es, ∃ path t, e = .text path t
  /-- The leaf answers them. -/
  answered : p.answers (contents es) s = .ok as s₁

variable {p}

theorem calls_append (ts us : List String) : p.calls (ts ++ us) = p.calls ts ++ p.calls us :=
  List.map_append

/-! ## Answers -/

theorem answers_cons_of_ok {s s₁ s₂ : σ} {t a : String} {ts as : List String}
    (h : p.leaf t p.key s = .ok a s₁) (hs : p.answers ts s₁ = .ok as s₂) :
    p.answers (t :: ts) s = .ok (a :: as) s₂ := by
  rw [answers, List.mapM_cons, bind_of_ok h]
  exact bind_of_ok hs

/-- A leaf that succeeds on every call answers all texts. -/
theorem exists_answers (hleaf : ∀ t s, ∃ a s₁, p.leaf t p.key s = .ok a s₁) (ts : List String) :
    ∀ s, ∃ as s₁, p.answers ts s = .ok as s₁ := by
  induction ts with
  | nil => exact fun s ↦ ⟨[], s, rfl⟩
  | cons t ts ih =>
    intro s
    obtain ⟨a, s₁, ha⟩ := hleaf t s
    obtain ⟨as, s₂, has⟩ := ih s₁
    exact ⟨a :: as, s₂, answers_cons_of_ok ha has⟩

theorem recorded_leaf_of_ok {s s₁ : σ} {t a : String} (h : p.leaf t p.key s = .ok a s₁)
    (made : List (String × String)) :
    p.recorded.leaf t p.recorded.key (s, made) = .ok a (s₁, made ++ p.calls [t]) := by
  simp only [recorded, h]
  rfl

theorem recorded_leaf_of_error {s s₁ : σ} {t : String} {e : ε}
    (h : p.leaf t p.key s = .error e s₁) (made : List (String × String)) :
    p.recorded.leaf t p.recorded.key (s, made) = .error e (s₁, made ++ p.calls [t]) := by
  simp only [recorded, h]
  rfl

/-- The record of the answers to some texts holds these texts. -/
theorem recorded_answers {s s₁ : σ} {ts as : List String} (h : p.answers ts s = .ok as s₁)
    (made : List (String × String)) :
    p.recorded.answers ts (s, made) = .ok as (s₁, made ++ p.calls ts) := by
  induction ts generalizing s as made with
  | nil =>
    obtain ⟨rfl, rfl⟩ := EStateM.Result.ok.inj h
    rw [calls, List.map_nil, List.append_nil]
    rfl
  | cons t ts ih =>
    rw [answers, List.mapM_cons] at h
    obtain ⟨a, s', ha, h⟩ := bind_eq_ok h
    obtain ⟨bs, s'', hbs, h⟩ := bind_eq_ok h
    obtain ⟨rfl, rfl⟩ := EStateM.Result.ok.inj h
    have hrest := ih hbs (made ++ p.calls [t])
    rw [List.append_assoc] at hrest
    exact answers_cons_of_ok (recorded_leaf_of_ok ha made) hrest

theorem Passes.recorded {s s₁ : σ} {es : List Event} {as : List String}
    (h : p.Passes s es as s₁) (made : List (String × String)) :
    p.recorded.Passes (s, made) es as (s₁, made ++ p.calls (contents es)) :=
  ⟨h.texts, recorded_answers h.answered made⟩

/-! ## Runs -/

/-- A result without the record of the calls. -/
def forget {ε γ α : Type} : EStateM.Result ε (σ × γ) α → EStateM.Result ε σ α
  | .ok a s => .ok a s.1
  | .error e s => .error e s.1

theorem forget_replace (path t : String) (s : σ) (made : List (String × String)) :
    forget (p.recorded.replace path t (s, made)) = p.replace path t s := by
  cases h : p.leaf t p.key s with
  | ok a s₁ => simp only [replace, EStateM.adaptExcept, recorded_leaf_of_ok h, h, forget]
  | error e s₁ => simp only [replace, EStateM.adaptExcept, recorded_leaf_of_error h, h, forget]

theorem forget_bind {ε γ α β : Type} {x : EStateM ε (σ × γ) α} {y : EStateM ε σ α}
    {f : α → EStateM ε (σ × γ) β} {g : α → EStateM ε σ β} (hx : ∀ s c, forget (x (s, c)) = y s)
    (hf : ∀ a s c, forget (f a (s, c)) = g a s) (s : σ) (c : γ) :
    forget ((x >>= f) (s, c)) = (y >>= g) s := by
  have h := hx s c
  cases hr : x (s, c) with
  | ok a t =>
    rw [hr] at h
    rw [bind_of_ok hr, bind_of_ok h.symm]
    exact hf a t.1 t.2
  | error e t =>
    rw [hr] at h
    rw [bind_of_error hr, bind_of_error h.symm]
    rfl

theorem forget_run (es : List Event) (s : σ) (made : List (String × String)) :
    forget (p.recorded.run es (s, made)) = p.run es s := by
  induction es generalizing s made with
  | nil => rfl
  | cons e es ih =>
    cases e with
    | unsupported found => rfl
    | tooDeep => rfl
    | text path t =>
      exact forget_bind (forget_replace path t) (fun a ↦ forget_bind ih fun _ _ _ ↦ rfl) s made

/-- The record of its calls changes nothing of a transformation. -/
theorem forget_transform {α : Type} [HasRoot α] (x : α) (s : σ) (made : List (String × String)) :
    forget (transform p.recorded x (s, made)) = transform p x s := by
  by_cases hkey : p.key = ""
  · have hempty : p.key.isEmpty = true := by simpa using hkey
    have hempty' : p.recorded.key.isEmpty = true := hempty
    simp only [transform, hempty, hempty', if_true]
    rfl
  · rw [transform_eq p x hkey, transform_eq p.recorded x hkey]
    simp only [map_eq_pure_bind]
    exact forget_bind (forget_run _) (fun _ _ _ ↦ rfl) s made

theorem replace_of_ok {s s₁ : σ} {t a : String} (h : p.leaf t p.key s = .ok a s₁) (path : String) :
    p.replace path t s = .ok a s₁ := by
  simp only [replace, EStateM.adaptExcept, h]

theorem replace_of_error {s s₁ : σ} {t : String} {e : ε} (h : p.leaf t p.key s = .error e s₁)
    (path : String) : p.replace path t s = .error (.leaf path e) s₁ := by
  simp only [replace, EStateM.adaptExcept, h]

/-- Events that pass are run to the answers of the leaf. -/
theorem Passes.run {s s₁ : σ} {es : List Event} {as : List String} (h : p.Passes s es as s₁) :
    p.run es s = .ok as s₁ := by
  obtain ⟨htexts, hanswered⟩ := h
  induction es generalizing s as with
  | nil =>
    obtain ⟨rfl, rfl⟩ := EStateM.Result.ok.inj hanswered
    rfl
  | cons e es ih =>
    obtain ⟨path, t, rfl⟩ := htexts e List.mem_cons_self
    rw [contents_text, answers, List.mapM_cons] at hanswered
    obtain ⟨a, s', ha, h⟩ := bind_eq_ok hanswered
    obtain ⟨bs, s'', hbs, h⟩ := bind_eq_ok h
    obtain ⟨rfl, rfl⟩ := EStateM.Result.ok.inj h
    rw [Pass.run, bind_of_ok (replace_of_ok ha path)]
    exact bind_of_ok (ih (fun e he ↦ htexts e (List.mem_cons_of_mem _ he)) hbs)

/-- A failure after events that pass is the failure of the whole. -/
theorem Passes.run_append {s s₁ s₂ : σ} {es fs : List Event} {as : List String} {f : Failure ε}
    (h : p.Passes s es as s₁) (hf : p.run fs s₁ = .error f s₂) :
    p.run (es ++ fs) s = .error f s₂ := by
  rw [Pass.run_append, bind_of_ok h.run]
  exact bind_of_error hf

/-- **Events pass, or there is a first one that fails**: a text that the leaf refuses, a record that
lies too deep, or a root that cannot be walked. -/
theorem run_cases (p : Pass σ ε) (es : List Event) (s : σ) :
    (∃ as s₁, p.Passes s es as s₁) ∨
    (∃ front path t back as s₁ e s₂, es = front ++ .text path t :: back ∧
      p.Passes s front as s₁ ∧ p.leaf t p.key s₁ = .error e s₂) ∨
    (∃ front e back as s₁, es = front ++ e :: back ∧ p.Passes s front as s₁ ∧
      ∀ path t, e ≠ .text path t) := by
  induction es generalizing s with
  | nil => exact Or.inl ⟨[], s, nofun, rfl⟩
  | cons e es ih =>
    by_cases htext : ∃ path t, e = .text path t
    · obtain ⟨path, t, rfl⟩ := htext
      cases ht : p.leaf t p.key s with
      | error e s₁ => exact Or.inr (Or.inl ⟨[], path, t, es, [], s, e, s₁, rfl, ⟨nofun, rfl⟩, ht⟩)
      | ok a s₁ =>
        have hcons {front : List Event} {as : List String} {s₂ : σ} (h : p.Passes s₁ front as s₂) :
            p.Passes s (.text path t :: front) (a :: as) s₂ := by
          refine ⟨fun e he ↦ ?_, answers_cons_of_ok ht h.answered⟩
          rcases List.mem_cons.mp he with rfl | he
          · exact ⟨path, t, rfl⟩
          · exact h.texts e he
        rcases ih s₁ with ⟨as, s₂, h⟩ | ⟨front, path', t', back, as, s₂, e, s₃, rfl, h, he⟩ |
          ⟨front, e, back, as, s₂, rfl, h, he⟩
        · exact Or.inl ⟨_, _, hcons h⟩
        · exact Or.inr (Or.inl ⟨_, _, _, _, _, _, _, _, rfl, hcons h, he⟩)
        · exact Or.inr (Or.inr ⟨_, _, _, _, _, rfl, hcons h, he⟩)
    · refine Or.inr (Or.inr ⟨[], e, es, [], s, rfl, ⟨nofun, rfl⟩, fun path t he ↦ ?_⟩)
      exact htext ⟨path, t, he⟩

/-- A run that succeeds passes all its events. -/
theorem passes_of_run {es : List Event} {s s₁ : σ} {as : List String}
    (h : p.run es s = .ok as s₁) : p.Passes s es as s₁ := by
  rcases run_cases p es s with ⟨as', s', hes⟩ |
    ⟨front, path, t, back, as', s', e, s₂, rfl, hfront, he⟩ |
    ⟨front, e, back, as', s', rfl, hfront, he⟩
  · rw [hes.run] at h
    obtain ⟨rfl, rfl⟩ := EStateM.Result.ok.inj h
    exact hes
  · rw [hfront.run_append (bind_of_error (replace_of_error he path))] at h
    cases h
  · cases e with
    | text path t => exact absurd rfl (he path t)
    | unsupported found =>
      rw [hfront.run_append rfl] at h
      cases h
    | tooDeep =>
      rw [hfront.run_append rfl] at h
      cases h

/-! ## Walks of two values that agree -/

section

variable {α β γ : Type} [HasRoot α] [HasRoot β] [HasRoot γ]

variable (p) in
/-- It makes no difference whether `f` is applied to `x` before the walk or to the result after it:
the leaf is called with the same texts in the same order, and the end is the same failure or the
same result. -/
structure Commutes (f : α → β) (x : α) : Prop where
  result : transform p (f x) = f <$> transform p x
  calls : transform p.recorded (f x) = f <$> transform p.recorded x

theorem commutes_of_root {f : α → β} {x : α} (hroot : HasRoot.root (f x) = HasRoot.root x)
    (hrefill : ∀ r, HasRoot.refill (f x) r = f (HasRoot.refill x r)) : p.Commutes f x :=
  ⟨transform_map p f x hroot hrefill, transform_map p.recorded f x hroot hrefill⟩

/-- What is met is the same, and it makes no difference either whether the texts are put back before
or after `f`. -/
theorem commutes_of_events {f : α → β} {x : α}
    (hevents : (HasRoot.root (f x)).events p.marker = (HasRoot.root x).events p.marker)
    (hrefill : ∀ ts, HasRoot.refill (f x) ((HasRoot.root (f x)).put p.marker ts) =
      f (HasRoot.refill x ((HasRoot.root x).put p.marker ts))) : p.Commutes f x := by
  have htransform {τ : Type} (q : Pass τ ε) (hq : q.marker = p.marker) :
      transform q (f x) = f <$> transform q x := by
    by_cases hkey : q.key = ""
    · have hempty : q.key.isEmpty = true := by simpa using hkey
      rw [transform, transform, if_pos hempty, if_pos hempty, map_pure]
    · rw [transform_eq q _ hkey, transform_eq q _ hkey, hq, hevents, Functor.map_map]
      simp only [hrefill]
  exact ⟨htransform p rfl, htransform p.recorded rfl⟩

theorem Commutes.comp {f : α → β} {g : β → γ} {x : α} (hg : p.Commutes g (f x))
    (hf : p.Commutes f x) : p.Commutes (fun y ↦ g (f y)) x where
  result := by simp only [hg.result, hf.result, Functor.map_map]
  calls := by simp only [hg.calls, hf.calls, Functor.map_map]

end

/-! ## What every call keeps -/

/-- The state in which a result was reached. -/
def stateOf {α : Type} : EStateM.Result ε σ α → σ
  | .ok _ s => s
  | .error _ s => s

/-- Whatever is so of the state before the computation is so after it, failed or not. -/
def Keeps {α : Type} (inv : σ → Prop) (x : EStateM ε σ α) : Prop :=
  ∀ s, inv s → inv (stateOf (x s))

variable {inv : σ → Prop}

theorem Keeps.bind {α β : Type} {x : EStateM ε σ α} {f : α → EStateM ε σ β} (hx : Keeps inv x)
    (hf : ∀ a, Keeps inv (f a)) : Keeps inv (x >>= f) := by
  intro s hs
  have hafter := hx s hs
  cases h : x s with
  | ok a s₁ =>
    rw [h] at hafter
    rw [bind_of_ok h]
    exact hf a s₁ hafter
  | error e s₁ =>
    rw [h] at hafter
    rw [bind_of_error h]
    exact hafter

theorem keeps_run (hleaf : ∀ t, Keeps inv (p.leaf t p.key)) (es : List Event) :
    Keeps inv (p.run es) := by
  induction es with
  | nil => exact fun _ hs ↦ hs
  | cons e es ih =>
    cases e with
    | unsupported found => exact fun _ hs ↦ hs
    | tooDeep => exact fun _ hs ↦ hs
    | text path t =>
      have hreplace : Keeps inv (p.replace path t) := by
        intro s hs
        have hafter := hleaf t s hs
        cases h : p.leaf t p.key s with
        | ok a s₁ =>
          rw [h] at hafter
          rw [replace_of_ok h]
          exact hafter
        | error e s₁ =>
          rw [h] at hafter
          rw [replace_of_error h]
          exact hafter
      exact hreplace.bind fun a ↦ ih.bind fun as _ hs ↦ hs

/-- **What every call of the leaf keeps, a transformation keeps.** -/
theorem keeps_transform {α : Type} [HasRoot α] (hleaf : ∀ t, Keeps inv (p.leaf t p.key)) (x : α) :
    Keeps inv (transform p x) := by
  by_cases hkey : p.key = ""
  · have hempty : p.key.isEmpty = true := by simpa using hkey
    rw [transform, if_pos hempty]
    exact fun _ hs ↦ hs
  · rw [transform_eq p x hkey, map_eq_pure_bind]
    exact (keeps_run hleaf _).bind fun as _ hs ↦ hs

/-! ## Leaves without a state -/

/-- A computation leaves the state alone, and its result does not depend on it. -/
def Steady {α : Type} (x : EStateM ε σ α) : Prop :=
  (∃ a, ∀ s, x s = .ok a s) ∨ ∃ e, ∀ s, x s = .error e s

theorem Steady.bind {α β : Type} {x : EStateM ε σ α} {f : α → EStateM ε σ β} (hx : Steady x)
    (hf : ∀ a, Steady (f a)) : Steady (x >>= f) := by
  rcases hx with ⟨a, ha⟩ | ⟨e, he⟩
  · have hbind : x >>= f = f a := by
      funext s
      exact bind_of_ok (ha s)
    rw [hbind]
    exact hf a
  · exact .inr ⟨e, fun s ↦ bind_of_error (he s)⟩

variable (hleaf : ∀ t, Steady (p.leaf t p.key))

include hleaf

theorem steady_replace (path t : String) : Steady (p.replace path t) := by
  rcases hleaf t with ⟨a, ha⟩ | ⟨e, he⟩
  · exact .inl ⟨a, fun s ↦ replace_of_ok (ha s) path⟩
  · exact .inr ⟨_, fun s ↦ replace_of_error (he s) path⟩

theorem steady_run (es : List Event) : Steady (p.run es) := by
  induction es with
  | nil => exact .inl ⟨[], fun _ ↦ rfl⟩
  | cons e es ih =>
    cases e with
    | unsupported found => exact .inr ⟨_, fun _ ↦ rfl⟩
    | tooDeep => exact .inr ⟨_, fun _ ↦ rfl⟩
    | text path t =>
      refine (steady_replace hleaf path t).bind fun a ↦ ih.bind fun as ↦ ?_
      exact .inl ⟨a :: as, fun _ ↦ rfl⟩

/-- **A transformation whose leaf leaves the state alone leaves it alone**, and comes to the same
from every state. -/
theorem steady_transform {α : Type} [HasRoot α] (x : α) : Steady (transform p x) := by
  by_cases hkey : p.key = ""
  · have hempty : p.key.isEmpty = true := by simpa using hkey
    rw [transform, if_pos hempty]
    exact .inl ⟨x, fun _ ↦ rfl⟩
  · rw [transform_eq p x hkey, map_eq_pure_bind]
    exact (steady_run hleaf _).bind fun as ↦ .inl ⟨_, fun _ ↦ rfl⟩

end Shroud.Pass
