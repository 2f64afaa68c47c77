import Shroud.Proofs.Sealed.Layers
import Shroud.Trial.Script

/-!
# What scripted leaves tell

A scripted leaf puts a record of its calls into its state, and whatever a walk does with it, what is
on record afterwards are the calls of the walk (`Script.stateOf_transform`).  A scripted cipher that
never refuses, and whose action can be undone, is faithful (`Script.cipher_faithful`); so what holds
of layers of encryption under a faithful cipher can be tried out with scripts.
-/

set_option autoImplicit false

namespace Shroud.Trial

/-! ## Calls on record -/

namespace Script

variable {γ : Type} (s : Script) (note : String → String → γ)

theorem stateOf_leaf (text key : String) (calls : List γ) :
    Pass.stateOf (s.leaf note text key calls) = calls ++ [note text key] := by
  rw [leaf]
  cases s.answer (calls ++ [note text key]).length text key <;> rfl

/-- What is in the state of a script are the calls that are on record. -/
theorem keeps_recorded_leaf (p : Pass (List γ) Fault) (hp : p.leaf = s.leaf note) (calls : List γ)
    (t : String) :
    Pass.Keeps (fun st ↦ st.1 = calls ++ st.2.map fun c ↦ note c.1 c.2)
      (p.recorded.leaf t p.recorded.key) := by
  rintro ⟨calls₀, made⟩ hcalls
  obtain rfl : calls₀ = calls ++ made.map fun c ↦ note c.1 c.2 := hcalls
  have hstate := s.stateOf_leaf note t p.key (calls ++ made.map fun c ↦ note c.1 c.2)
  rw [← hp] at hstate
  cases h : p.leaf t p.key (calls ++ made.map fun c ↦ note c.1 c.2) with
  | ok a calls₁ =>
    rw [h] at hstate
    obtain rfl : calls₁ = _ := hstate
    rw [Pass.recorded_leaf_of_ok h]
    simp [Pass.stateOf, Pass.calls]
  | error e calls₁ =>
    rw [h] at hstate
    obtain rfl : calls₁ = _ := hstate
    rw [Pass.recorded_leaf_of_error h]
    simp [Pass.stateOf, Pass.calls]

/-- **A script puts the calls of a walk on record**, however the walk ends. -/
theorem stateOf_transform {α : Type} [HasRoot α] (key : String) (m : Marker) (x : α)
    (calls : List γ) :
    Pass.stateOf (transform ⟨key, m, s.leaf note⟩ x calls) = calls ++
      (Pass.stateOf (transform (Pass.recorded ⟨key, m, s.leaf note⟩) x (calls, []))).2.map
        fun c ↦ note c.1 c.2 := by
  have hkeeps := Pass.keeps_transform (s.keeps_recorded_leaf note ⟨key, m, s.leaf note⟩ rfl calls) x
    (calls, []) (List.append_nil calls).symm
  rw [← Pass.forget_transform x calls []]
  cases h : transform (Pass.recorded ⟨key, m, s.leaf note⟩) x (calls, []) with
  | ok y st =>
    rw [h] at hkeeps
    exact hkeeps
  | error f st =>
    rw [h] at hkeeps
    exact hkeeps

end Script

/-! ## Actions that can be undone -/

theorem between?_append (front cs back : List Char) :
    between? front back (front ++ cs ++ back) = some cs := by
  have hfront : front.isPrefixOf (front ++ cs ++ back) = true := by
    rw [List.isPrefixOf_iff_prefix, List.append_assoc]
    exact List.prefix_append _ _
  have hback : back.isSuffixOf (front ++ cs ++ back) = true := by
    rw [List.isSuffixOf_iff_suffix]
    exact List.suffix_append _ _
  have hlength : front.length + back.length ≤ (front ++ cs ++ back).length := by
    simp only [List.length_append]
    omega
  rw [between?, if_pos ⟨hlength, hfront, hback⟩]
  simp

/-- The action that a cipher undoes an action with. -/
def Action.undoing : Action → Action
  | wrap => unwrap
  | a => a

/-- The action is undone by the one that a cipher undoes it with. -/
def Action.isUndone : Action → Bool
  | wrap => true
  | reverse => true
  | same => true
  | _ => false

theorem Action.run_undoing (a : Action) (h : a.isUndone = true) {text key out : String}
    (hrun : a.run text key = .ok out) : a.undoing.run out key = .ok text := by
  cases a with
  | wrap =>
    obtain rfl := Except.ok.inj hrun
    have hout : (key ++ "(" ++ text ++ ")").toList =
        (key.toList ++ ['(']) ++ text.toList ++ [')'] := by
      simp only [String.toList_append]
      rfl
    rw [undoing, run, hout, between?_append]
    simp
  | reverse =>
    obtain rfl := Except.ok.inj hrun
    show Except.ok (String.ofList (String.ofList text.toList.reverse).toList.reverse) = _
    rw [String.toList_ofList, List.reverse_reverse, String.ofList_toList]
  | same =>
    obtain rfl := Except.ok.inj hrun
    rfl
  | _ => cases h

namespace Script

/-- The script for the way back. -/
def undoing (s : Script) : Script := { s with action := s.action.undoing }

theorem cipher_decrypt (s : Script) (text key : String) :
    s.cipher.decrypt text key = EStateM.adaptExcept Fault.cipherError
      (s.undoing.leaf (fun t k ↦ ["decrypt", t, k]) text key) := by
  obtain ⟨action, failAt, failOn, fault⟩ := s
  cases action <;> rfl

/-- **A scripted cipher that never refuses is faithful**, if its action is undone. -/
theorem cipher_faithful {s : Script} (hat : s.failAt = none) (hon : s.failOn = none)
    (hundone : s.action.isUndone = true) : s.cipher.Faithful := by
  have hanswer (s : Script) (hat : s.failAt = none) (hon : s.failOn = none) (n : Nat)
      (text key : String) : s.answer n text key = s.action.run text key := by
    rw [answer, hat, hon, if_neg (by simp)]
  intro key _ t a calls calls₁ henc calls₂
  have hrun : s.action.run t key = .ok a := by
    simp only [cipher, EStateM.adaptExcept, leaf, hanswer s hat hon] at henc
    cases h : s.action.run t key with
    | ok b =>
      rw [h] at henc
      exact congrArg Except.ok (EStateM.Result.ok.inj henc).1
    | error e =>
      rw [h] at henc
      cases henc
  have hback : s.undoing.action.run a key = .ok t := s.action.run_undoing hundone hrun
  refine ⟨calls₂ ++ [["decrypt", a, key]], ?_⟩
  rw [cipher_decrypt]
  simp only [EStateM.adaptExcept, leaf, hanswer s.undoing hat hon, hback]

end Script

end Shroud.Trial
