import Shroud.Log.Key
import Shroud.Proofs.Declared.Restorable
import Shroud.Proofs.Sealed.Concealer

/-!
# The key is installed once

Any number of callers may install a key, look for it, or use it to encrypt and decrypt, all at the
same time.  A call turns to the place of the key once, and is answered later; in between, others may
do the same (`Calls.Step`).  Turning to the place is one step: whoever installs a key finds it empty
and fills it, or finds it taken.

Whatever the order of these steps, the place holds the key of the first call that installs one, from
then on and for good (`KeySlot.after_eq`).  Each call is answered with what the place held when it
turned to it (`Calls.kept_of_leads`), and so everything follows from which key came first
(`Calls.oneKey_of_leads`): who is told that their key was installed, what is found, when values pass
unchanged, and that what is encrypted under this key can be decrypted later.
-/

set_option autoImplicit false

namespace Shroud

/-! ## Calls -/

/-- A call of something that turns to the place of the key. -/
inductive Call : Type 1 where
  | install (key : String)
  | lookup
  | encrypt {α : Type} [HasRoot α] (x : α)
  | decrypt {α : Type} [HasRoot α] (x : α)
  | encryptText (s : String)
  | obscured {α : Type} [HasRoot α] [HasDocument α] (x : α)
  | obscuredErased (x : Erased)

/-- A computation whose failure is part of its answer. -/
def settled {ε σ α : Type} (x : EStateM ε σ α) : StateM σ (Except ε α) := fun s ↦
  match x s with
  | .ok a s => (.ok a, s)
  | .error e s => (.error e, s)

namespace Call

/-- What a call is answered with. -/
def Answer : Call → Type
  | install _ => Bool
  | lookup => Option LogKey
  | @encrypt α _ _ => Except (Failure CipherError) α
  | @decrypt α _ _ => Except (Failure CipherError) α
  | encryptText _ => Except CipherError String
  | obscured _ => Option String
  | obscuredErased _ => Option String

/-- The answer to a call that finds the place of the key like this. -/
def answer (slot : KeySlot) : (call : Call) → StateM Nonces call.Answer
  | install key => return (slot.install key).1
  | lookup => return slot.key
  | encrypt x => settled (slot.encrypt x)
  | decrypt x => settled (slot.decrypt x)
  | encryptText s => settled (slot.encryptText s)
  | obscured x => Obscured.line <$> slot.obscured x
  | obscuredErased x => Obscured.line <$> slot.obscuredErased x

/-- The answer where another concealer is used. -/
def answerBy {σ : Type} (c : Concealer σ) (slot : KeySlot) : (call : Call) → StateM σ call.Answer
  | install key => return (slot.install key).1
  | lookup => return slot.key
  | encrypt x => settled (c.encrypt x slot.current)
  | decrypt x => settled (c.decrypt x slot.current)
  | encryptText s =>
    settled (if slot.current.isEmpty then return s else c.cipher.encrypt s slot.current)
  | obscured x => Obscured.line <$> c.obscured x slot.current
  | obscuredErased x => Obscured.line <$> c.obscuredErased x slot.current

/-- The calls are answered with the standard concealer. -/
theorem answerBy_standard (slot : KeySlot) (call : Call) :
    call.answerBy .standard slot = call.answer slot := by
  cases call <;> rfl

/-- The place of the key after a call. -/
def effect (slot : KeySlot) : Call → KeySlot
  | install key => (slot.install key).2
  | _ => slot

/-- The key that a call installs, if it comes first. -/
def key? : Call → Option String
  | install key => some key
  | _ => none

/-- What a call that needs no key is answered with where there is none: what it was given, and no
line. -/
def unchanged? : (call : Call) → Option call.Answer
  | install _ => none
  | lookup => none
  | encrypt x => some (.ok x)
  | decrypt x => some (.ok x)
  | encryptText s => some (.ok s)
  | obscured _ => some none
  | obscuredErased _ => some none

/-- **Without a key, the cipher is not called.**  The answer is the same with every cipher, even one
that refuses each text, and the cipher, which may keep a record of its calls, is left as it was. -/
theorem answerBy_of_empty {slot : KeySlot} (h : slot.current = "") {call : Call}
    {a : call.Answer} (ha : call.unchanged? = some a) {σ : Type} (c : Concealer σ) (s : σ) :
    call.answerBy c slot s = (a, s) := by
  cases call with
  | install key => cases ha
  | lookup => cases ha
  | _ =>
    obtain rfl := Option.some.inj ha
    simp only [answerBy, h]
    rfl

end Call

/-! ## The place of the key -/

/-- The key of the first call that installs one. -/
def firstKey? (calls : List Call) : Option String := calls.findSome? Call.key?

/-- Later calls do not come first. -/
theorem firstKey?_append {calls : List Call} {key : String} (h : firstKey? calls = some key)
    (more : List Call) : firstKey? (calls ++ more) = some key := by
  rw [firstKey?, List.findSome?_append, ← firstKey?, h]
  rfl

namespace KeySlot

/-- The place of the key after some calls. -/
def after (slot : KeySlot) (calls : List Call) : KeySlot := calls.foldl Call.effect slot

theorem after_append (slot : KeySlot) (calls more : List Call) :
    slot.after (calls ++ more) = (slot.after calls).after more :=
  List.foldl_append

/-- A key that is installed stays. -/
theorem effect_of_taken (key : LogKey) (call : Call) : call.effect ⟨some key⟩ = ⟨some key⟩ := by
  cases call <;> rfl

theorem after_of_taken (key : LogKey) (calls : List Call) :
    after ⟨some key⟩ calls = ⟨some key⟩ := by
  induction calls with
  | nil => rfl
  | cons call calls ih =>
    rw [after, List.foldl_cons, effect_of_taken]
    exact ih

/-- **The first key is the one that is installed.** -/
theorem after_eq (calls : List Call) : vacant.after calls = ⟨(firstKey? calls).map LogKey.mk⟩ := by
  induction calls with
  | nil => rfl
  | cons call calls ih =>
    cases call with
    | install key => exact after_of_taken ⟨key⟩ calls
    | _ => exact ih

/-- Some calls, each with the place of the key as it finds it. -/
def found (slot : KeySlot) : List Call → List (Call × KeySlot)
  | [] => []
  | call :: calls => (call, slot) :: found (call.effect slot) calls

theorem found_append (slot : KeySlot) (calls more : List Call) :
    slot.found (calls ++ more) = slot.found calls ++ (slot.after calls).found more := by
  induction calls generalizing slot with
  | nil => rfl
  | cons call calls ih => exact congrArg ((call, slot) :: ·) (ih (call.effect slot))

theorem length_found (slot : KeySlot) (calls : List Call) :
    (slot.found calls).length = calls.length := by
  induction calls generalizing slot with
  | nil => rfl
  | cons call calls ih => rw [found, List.length_cons, List.length_cons, ih]

end KeySlot

/-! ## Callers -/

/-- A call that has turned to the place of the key, what it found there, and the answer, once it is
given. -/
structure Turned where
  call : Call
  found : KeySlot
  answer? : Option call.Answer

/-- The place of the key, with the calls that wait for it and those that have turned to it, in the
order in which they did. -/
structure Calls where
  slot : KeySlot
  waiting : List Call
  turned : List Turned

namespace Calls

/-- No key is installed, and nobody has called. -/
def start : Calls := ⟨.vacant, [], []⟩

/-- Somebody calls, turns to the place of the key, or is answered.  Nonces may have been drawn in
the meantime, and other keys tried. -/
inductive Step : Calls → Calls → Prop where
  | arrive (t : Calls) (call : Call) : Step t { t with waiting := t.waiting ++ [call] }
  | turn {slot : KeySlot} {before after : List Call} (call : Call) {turned : List Turned} :
      Step ⟨slot, before ++ call :: after, turned⟩
        ⟨call.effect slot, before ++ after, turned ++ [⟨call, slot, none⟩]⟩
  | answer {slot : KeySlot} {waiting : List Call} {before after : List Turned} (call : Call)
      (found : KeySlot) (n : Nonces) :
      Step ⟨slot, waiting, before ++ ⟨call, found, none⟩ :: after⟩
        ⟨slot, waiting, before ++ ⟨call, found, some (call.answer found n).1⟩ :: after⟩

/-- Any number of steps. -/
inductive Leads (t : Calls) : Calls → Prop where
  | refl : Leads t t
  | step {t₁ t₂ : Calls} (h : Leads t t₁) (hstep : Step t₁ t₂) : Leads t t₂

/-- The calls that have turned to the place of the key, with what they found there. -/
def visits (t : Calls) : List (Call × KeySlot) := t.turned.map fun x ↦ (x.call, x.found)

/-- The calls that have turned to the place of the key. -/
def made (turned : List Turned) : List Call := turned.map Turned.call

/-- What each call found is what the calls before it left, and it was answered from that. -/
structure Kept (t : Calls) : Prop where
  slot : t.slot = KeySlot.vacant.after (made t.turned)
  visits : t.visits = KeySlot.vacant.found (made t.turned)
  answered : ∀ x ∈ t.turned, ∀ a, x.answer? = some a → ∃ n, a = (x.call.answer x.found n).1

variable {t t' : Calls}

/-- The step: whoever turns to the place finds what the calls so far have left. -/
theorem kept_step (h : Kept t) (hstep : Step t t') : Kept t' := by
  obtain ⟨hslot, hvisits, hanswered⟩ := h
  cases hstep with
  | arrive call => exact ⟨hslot, hvisits, hanswered⟩
  | @turn slot before after call turned =>
    change slot = KeySlot.vacant.after (made turned) at hslot
    refine ⟨?_, ?_, fun x hx a ha ↦ ?_⟩
    · rw [made, List.map_append, KeySlot.after_append, ← made, ← hslot]
      rfl
    · rw [Calls.visits, made, List.map_append, List.map_append, KeySlot.found_append, ← made,
        ← hslot]
      exact congrArg (· ++ [(call, slot)]) hvisits
    · rcases List.mem_append.mp hx with hx | hx
      · exact hanswered x hx a ha
      · obtain rfl := List.mem_singleton.mp hx
        cases ha
  | @answer slot waiting before after call found n =>
    have hmade : made (before ++ ⟨call, found, some (call.answer found n).1⟩ :: after) =
        made (before ++ ⟨call, found, none⟩ :: after) := by
      rw [made, made, List.map_append, List.map_append, List.map_cons, List.map_cons]
    refine ⟨?_, ?_, fun x hx a ha ↦ ?_⟩
    · rw [hmade]
      exact hslot
    · rw [hmade, ← hvisits, Calls.visits, Calls.visits, List.map_append, List.map_append,
        List.map_cons, List.map_cons]
    · rcases List.mem_append.mp hx with hbefore | hx
      · exact hanswered x (List.mem_append_left _ hbefore) a ha
      rcases List.mem_cons.mp hx with rfl | hafter
      · exact ⟨n, (Option.some.inj ha).symm⟩
      · exact hanswered x (List.mem_append_right _ (List.mem_cons_of_mem _ hafter)) a ha

/-- **Whatever the order of the steps, each call finds what the calls before it left.** -/
theorem kept_of_leads (h : Leads start t) : Kept t := by
  induction h with
  | refl => exact ⟨rfl, rfl, nofun⟩
  | step _ hstep ih => exact kept_step ih hstep

theorem visits_step (hstep : Step t t') : t.visits <+: t'.visits := by
  cases hstep with
  | arrive call => exact List.prefix_rfl
  | turn call =>
    rw [visits, visits, List.map_append]
    exact List.prefix_append _ _
  | @answer slot waiting before after call found n =>
    have hsame : visits ⟨slot, waiting, before ++ ⟨call, found, none⟩ :: after⟩ =
        visits ⟨slot, waiting, before ++ ⟨call, found, some (call.answer found n).1⟩ :: after⟩ := by
      simp only [visits, List.map_append, List.map_cons]
    exact hsame ▸ List.prefix_rfl

/-- Later steps only lengthen the row of calls. -/
theorem visits_prefix (h : Leads t t') : t.visits <+: t'.visits := by
  induction h with
  | refl => exact List.prefix_rfl
  | step _ hstep ih => exact ih.trans (visits_step hstep)

/-- What a call found is the key of the first call before it that installs one. -/
theorem Kept.found_eq (h : Kept t) {before after : List Turned} {x : Turned}
    (ht : t.turned = before ++ x :: after) :
    x.found = ⟨(firstKey? (made before)).map LogKey.mk⟩ := by
  have hvisits := h.visits
  rw [Calls.visits, ht, made, List.map_append, List.map_append, KeySlot.found_append] at hvisits
  have hlength : (before.map fun x ↦ (x.call, x.found)).length =
      (KeySlot.vacant.found (made before)).length := by
    rw [KeySlot.length_found, made, List.length_map, List.length_map]
  obtain ⟨-, hrest⟩ := List.append_inj hvisits hlength
  rw [← KeySlot.after_eq]
  exact congrArg Prod.snd (List.cons.inj hrest).1

/-! ## One key -/

/-- What the calls are answered with comes of one key, which is that of the first call that installs
one. -/
structure OneKey (turned : List Turned) : Prop where
  /-- Every answer is made with the first key, if there is one by then. -/
  answered : ∀ before call found a after, turned = before ++ ⟨call, found, some a⟩ :: after →
    ∃ n, a = (call.answer ⟨(firstKey? (made before)).map LogKey.mk⟩ n).1
  /-- The first who installs a key is told so, and nobody else. -/
  installed : ∀ before key found (b : Bool) after,
    turned = before ++ ⟨.install key, found, some b⟩ :: after →
    (b = true ↔ firstKey? (made before) = none)
  /-- Whoever looks for the key finds the first one, if it is there by then. -/
  lookedUp : ∀ before found (k : Option LogKey) after,
    turned = before ++ ⟨.lookup, found, some k⟩ :: after →
    k = (firstKey? (made before)).map LogKey.mk
  /-- Before there is a key, and for good if the first one is empty, values pass as they are, there
  are no lines, and no cipher is called. -/
  unchanged : ∀ before call found a after, turned = before ++ ⟨call, found, some a⟩ :: after →
    (firstKey? (made before)).getD "" = "" → ∀ a', call.unchanged? = some a' →
    a = a' ∧ ∀ (σ : Type) (c : Concealer σ) (s : σ), call.answerBy c found s = (a, s)
  /-- What is encrypted once there is a key is restored by every later decryption. -/
  restored : ∀ {α : Type} [HasRoot α] (x y : α) before found between found'
    (r : Except (Failure CipherError) α) after,
    turned = before ++ ⟨.encrypt x, found, some (.ok y)⟩ ::
      (between ++ ⟨.decrypt y, found', some r⟩ :: after) →
    firstKey? (made before) ≠ none → Restorable .standard x → r = .ok x

theorem settled_of_ok {ε σ α : Type} {x : EStateM ε σ α} {s s₁ : σ} {a : α} (h : x s = .ok a s₁) :
    (settled x s).1 = .ok a := by
  rw [settled, h]

theorem settled_eq_ok {ε σ α : Type} {x : EStateM ε σ α} {s : σ} {a : α}
    (h : (settled x s).1 = .ok a) : ∃ s₁, x s = .ok a s₁ := by
  rw [settled] at h
  cases hx : x s with
  | ok b s₁ =>
    rw [hx] at h
    exact ⟨s₁, by rw [Except.ok.inj h]⟩
  | error e s₁ =>
    rw [hx] at h
    cases h

/-- What is encrypted under the key of a place is decrypted under it, be it empty or not. -/
theorem decrypt_of_encrypt {slot : KeySlot} {α : Type} [HasRoot α] {x y : α}
    (hx : Restorable .standard x) {n n₁ : Nonces} (h : slot.encrypt x n = .ok y n₁) (n₂ : Nonces) :
    ∃ n₃, slot.decrypt y n₂ = .ok x n₃ := by
  rw [KeySlot.encrypt] at h
  rw [KeySlot.decrypt]
  by_cases hkey : slot.current = ""
  · rw [hkey] at h ⊢
    obtain ⟨rfl, rfl⟩ := EStateM.Result.ok.inj h
    exact ⟨n₂, rfl⟩
  · exact Concealer.decrypt_of_encrypt hkey hx h n₂

/-- Every answer is made with the first key before it. -/
theorem Kept.exists_answer (h : Kept t) {before after : List Turned} {call : Call}
    {found : KeySlot} {a : call.Answer}
    (ht : t.turned = before ++ ⟨call, found, some a⟩ :: after) :
    ∃ n, a = (call.answer ⟨(firstKey? (made before)).map LogKey.mk⟩ n).1 := by
  obtain ⟨n, hn⟩ := h.answered ⟨call, found, some a⟩ (by rw [ht]; simp) a rfl
  have hfound : found = _ := h.found_eq ht
  exact ⟨n, hfound ▸ hn⟩

/-- A call that is made without a key, or with an empty one, is answered with what it was given, and
no cipher hears of it. -/
theorem Kept.unchanged (h : Kept t) {before after : List Turned} {call : Call} {found : KeySlot}
    {a a' : call.Answer} (ht : t.turned = before ++ ⟨call, found, some a⟩ :: after)
    (hkey : (firstKey? (made before)).getD "" = "") (ha' : call.unchanged? = some a') :
    a = a' ∧ ∀ (σ : Type) (c : Concealer σ) (s : σ), call.answerBy c found s = (a, s) := by
  have hfound : found = _ := h.found_eq ht
  have hcurrent : found.current = "" := by
    rw [hfound, ← hkey, KeySlot.current]
    cases firstKey? (made before) <;> rfl
  have hpass {σ : Type} (c : Concealer σ) (s : σ) := Call.answerBy_of_empty hcurrent ha' c s
  obtain ⟨n, ha⟩ := h.exists_answer ht
  rw [← hfound, ← Call.answerBy_standard, hpass] at ha
  exact ⟨ha, fun _ c s ↦ ha ▸ hpass c s⟩

/-- What was encrypted under the first key is decrypted under it, since it is still there. -/
theorem Kept.restored (h : Kept t) {α : Type} [HasRoot α] {x y : α}
    {before between after : List Turned} {found found' : KeySlot}
    {r : Except (Failure CipherError) α}
    (ht : t.turned = before ++ ⟨.encrypt x, found, some (.ok y)⟩ ::
      (between ++ ⟨.decrypt y, found', some r⟩ :: after))
    (hfirst : firstKey? (made before) ≠ none) (hx : Restorable .standard x) : r = .ok x := by
  obtain ⟨first, hfirst⟩ := Option.ne_none_iff_exists'.mp hfirst
  have ht' : t.turned = (before ++ ⟨.encrypt x, found, some (.ok y)⟩ :: between) ++
      ⟨.decrypt y, found', some r⟩ :: after := by
    rw [ht, List.append_assoc]
    rfl
  have hstill : firstKey? (made (before ++ ⟨.encrypt x, found, some (.ok y)⟩ :: between)) =
      some first := by
    rw [made, List.map_append, ← made]
    exact firstKey?_append hfirst _
  obtain ⟨n, hy⟩ := h.exists_answer ht
  obtain ⟨n', hr⟩ := h.exists_answer ht'
  rw [hfirst] at hy
  rw [hstill] at hr
  obtain ⟨n₁, hencrypt⟩ := settled_eq_ok hy.symm
  obtain ⟨n₂, hdecrypt⟩ := decrypt_of_encrypt hx hencrypt n'
  rw [hr]
  exact settled_of_ok hdecrypt

theorem oneKey_of_kept (h : Kept t) : OneKey t.turned := by
  refine ⟨fun _ _ _ _ _ ht ↦ h.exists_answer ht, ?_, ?_, ?_, ?_⟩
  · intro before key found b after ht
    obtain ⟨n, hb⟩ := h.exists_answer ht
    rw [hb]
    cases firstKey? (made before) with
    | none => exact ⟨fun _ ↦ rfl, fun _ ↦ rfl⟩
    | some first => exact ⟨nofun, nofun⟩
  · intro before found k after ht
    obtain ⟨n, hk⟩ := h.exists_answer ht
    exact hk
  · intro before call found a after ht hkey a' ha'
    exact h.unchanged ht hkey ha'
  · intro α _ x y before found between found' r after ht hfirst hx
    exact h.restored ht hfirst hx

/-- **One key for the whole run.**  From a place without a key, let any calls be made by any
callers, each of which turns to the place once, in whatever order.  Then everything that they are
answered with comes of one key, the one that was installed first: it is in the place for good; the
first who installs a key is told so, and nobody else; whoever looks for it finds it once it is there;
values pass as they are and unseen by any cipher as long as there is none, and for good if it is
empty; and what is encrypted once it is there is restored by every later decryption, whatever other
keys were tried in between.  Later steps only add calls at the end.

What is restored are data whose texts are found where a walk puts them, as they are in plain data and
in values that describe themselves. -/
theorem oneKey_of_leads (h : Leads start t) :
    OneKey t.turned ∧ t.slot.key = (firstKey? (made t.turned)).map LogKey.mk ∧
      (∀ t', Leads t t' → t.visits <+: t'.visits) ∧
      (∀ x : Plain, Restorable .standard x) ∧ ∀ v : Value, Restorable .standard v := by
  have hkept := kept_of_leads h
  refine ⟨oneKey_of_kept hkept, ?_, fun t' ht' ↦ visits_prefix ht', Declared.restorable _,
    Value.restorable _⟩
  rw [hkept.slot, KeySlot.after_eq]

/-! ## Calls one after another -/

/-- A call is made and answered before anything else happens. -/
def one (t : Calls) (call : Call) (n : Nonces) : Calls :=
  ⟨call.effect t.slot, t.waiting, t.turned ++ [⟨call, t.slot, some (call.answer t.slot n).1⟩]⟩

theorem Leads.one {t₀ : Calls} (h : Leads t₀ t) (call : Call) (n : Nonces) :
    Leads t₀ (t.one call n) := by
  obtain ⟨slot, waiting, turned⟩ := t
  have hturn := @Step.turn slot waiting [] call turned
  rw [List.append_nil] at hturn
  have hanswer := @Step.answer (call.effect slot) waiting turned [] call slot n
  exact ((h.step (.arrive _ call)).step hturn).step hanswer

/-- A card with its number marked. -/
def card : Plain := .record ⟨"Card", [⟨"number", [("log", "encrypt")], .text "4000"⟩]⟩

/-- A text passes unchanged, a key is installed, a card is encrypted, another key is tried, and the
card is decrypted. -/
theorem oneKey_of_leads_card :
    ∃ (t : Calls) (hidden : Plain), Leads start t ∧ t.slot.key = some ⟨"deadbeef"⟩ ∧
      t.turned = [⟨.encryptText "a", ⟨none⟩, some (.ok "a")⟩,
        ⟨.install "deadbeef", ⟨none⟩, some true⟩,
        ⟨.encrypt card, ⟨some ⟨"deadbeef"⟩⟩, some (.ok hidden)⟩,
        ⟨.install "", ⟨some ⟨"deadbeef"⟩⟩, some false⟩,
        ⟨.decrypt hidden, ⟨some ⟨"deadbeef"⟩⟩, some (.ok card)⟩] := by
  let n : Nonces := ⟨fun _ ↦ .zero, 0⟩
  have htexts : ∀ e ∈ (HasRoot.root card).events .standard, ∃ path t, e = .text path t := by
    have hevents : (HasRoot.root card).events .standard = [.text "number" "4000"] := rfl
    rw [hevents]
    simp
  have hne : "deadbeef" ≠ "" := by decide
  obtain ⟨hidden, n₁, hhidden⟩ := Concealer.exists_encrypt (x := card) hne htexts n
  have hencrypt : ((Call.encrypt card).answer ⟨some ⟨"deadbeef"⟩⟩ n).1 = .ok hidden :=
    settled_of_ok hhidden
  let t := ((((start.one (.encryptText "a") n).one (.install "deadbeef") n).one
    (.encrypt card) n).one (.install "") n).one (.decrypt hidden) n
  have hleads : Leads start t :=
    ((((Leads.refl.one (.encryptText "a") n).one (.install "deadbeef") n).one
      (.encrypt card) n).one (.install "") n).one (.decrypt hidden) n
  have hturned : ∃ (a : Except CipherError String) (b b' : Bool)
      (r : Except (Failure CipherError) Plain),
      t.turned = [⟨.encryptText "a", ⟨none⟩, some a⟩, ⟨.install "deadbeef", ⟨none⟩, some b⟩,
        ⟨.encrypt card, ⟨some ⟨"deadbeef"⟩⟩, some (.ok hidden)⟩,
        ⟨.install "", ⟨some ⟨"deadbeef"⟩⟩, some b'⟩,
        ⟨.decrypt hidden, ⟨some ⟨"deadbeef"⟩⟩, some r⟩] := by
    rw [← hencrypt]
    exact ⟨_, _, _, _, rfl⟩
  obtain ⟨a, b, b', r, hturned⟩ := hturned
  obtain ⟨hone, hkey, -, hrestorable, -⟩ := oneKey_of_leads hleads
  have ha : a = .ok "a" := (hone.unchanged [] _ _ _ _ hturned rfl _ rfl).1
  have hb : b = true := (hone.installed [_] _ _ _ _ hturned).mpr rfl
  have hb' : b' = false :=
    Bool.eq_false_iff.mpr fun h ↦ nomatch (hone.installed [_, _, _] _ _ _ _ hturned).mp h
  have hr : r = .ok card :=
    hone.restored card hidden [_, _] _ [_] _ r [] hturned nofun (hrestorable card)
  rw [hturned] at hkey
  rw [ha, hb, hb', hr] at hturned
  exact ⟨t, hidden, hleads, hkey, hturned⟩

end Calls

end Shroud
