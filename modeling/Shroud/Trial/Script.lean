import Shroud.Sealed.Cipher

/-!
# Scripted leaves

A leaf that is described by data, to try out walks: it records its calls, fails at a call of a given
number or at a given text, and otherwise does something simple to the text.
-/

set_option autoImplicit false

namespace Shroud.Trial

/-- What is done to a text. -/
inductive Action where
  /-- The text in parentheses after the key. -/
  | wrap
  /-- The inverse of `wrap`. -/
  | unwrap
  | upper
  | reverse
  | const
  | empty
  | double
  | same
  deriving DecidableEq

/-- Why a scripted leaf failed. -/
inductive Fault where
  | cipher (e : CipherError)
  | other (message : String)
  deriving DecidableEq

/-- The fault in words. -/
def Fault.message : Fault → String
  | cipher e => e.message
  | other m => m

/-- A leaf as data. -/
structure Script where
  action : Action
  /-- The number of the call that fails. -/
  failAt : Option Nat
  /-- The text that fails. -/
  failOn : Option String
  fault : Fault

/-- A text without a prefix and a suffix that together are not longer than it. -/
def between? (front back text : List Char) : Option (List Char) :=
  if front.length + back.length ≤ text.length ∧ front.isPrefixOf text ∧ back.isSuffixOf text then
    some ((text.drop front.length).take (text.length - front.length - back.length))
  else none

/-- A letter of ASCII in upper case; any other character as it is. -/
def upperChar (c : Char) : Char := if 'a' ≤ c ∧ c ≤ 'z' then Char.ofNat (c.toNat - 32) else c

/-- An action on a text under a key. -/
def Action.run (text key : String) : Action → Except Fault String
  | wrap => .ok (key ++ "(" ++ text ++ ")")
  | unwrap =>
    match between? (key.toList ++ ['(']) [')'] text.toList with
    | some cs => .ok (String.ofList cs)
    | none => .error (.cipher .invalidFormat)
  | upper => .ok (String.ofList (text.toList.map upperChar))
  | reverse => .ok (String.ofList text.toList.reverse)
  | const => .ok "***"
  | empty => .ok ""
  | double => .ok (text ++ text)
  | same => .ok text

namespace Script

/-- The answer to a call, which is the one with number `n`. -/
def answer (s : Script) (n : Nat) (text key : String) : Except Fault String :=
  if s.failAt = some n ∨ s.failOn = some text then .error s.fault else s.action.run text key

/-- The leaf, which puts a record of each call behind the earlier ones. -/
def leaf {γ : Type} (s : Script) (note : String → String → γ) : Leaf (List γ) Fault :=
  fun text key calls ↦
    let calls := calls ++ [note text key]
    match s.answer calls.length text key with
    | .ok t => .ok t calls
    | .error e => .error e calls

/-- The refusal of a cipher that a fault stands for. -/
def Fault.cipherError : Fault → CipherError
  | .cipher e => e
  | .other _ => .aead

/-- A cipher that follows a script in both directions, but decrypts by the inverse of `wrap`. -/
def cipher (s : Script) : Cipher (List (List String)) where
  encrypt text key :=
    EStateM.adaptExcept Fault.cipherError (s.leaf (fun t k ↦ ["encrypt", t, k]) text key)
  decrypt text key :=
    let s := if s.action = .wrap then { s with action := .unwrap } else s
    EStateM.adaptExcept Fault.cipherError (s.leaf (fun t k ↦ ["decrypt", t, k]) text key)

end Script

end Shroud.Trial
