import Shroud.Proofs.Log.Obscured
import Shroud.Proofs.Value.Json
import Shroud.Proofs.Value.Trail

/-!
# An obscured line is faithful

The line that stands for a dynamic value in a log is one JSON text, whose only meaning is the value
with its marked texts encrypted.  No control is in it, so it is one line.  Whatever quotes,
backslashes, ends of lines or other controls are in the texts, in the names of fields or in what the
cipher answers, nothing of it breaks out of its place (`Concealer.obscured_faithful`).
-/

set_option autoImplicit false

namespace Shroud

namespace Concealer

variable {σ : Type}

/-- **A line is one JSON text, and tells of the encrypted value alone.**  If there is a line for a
value without floating-point numbers, it starts with a brace or a bracket, no character of it is
below U+0020, and under the grammar of JSON it means the tree of the encrypted value, which the
reader finds in it, and nothing else. -/
theorem obscured_faithful (c : Concealer σ) {v : Value} (hv : v.Floatless) (key : String) (s : σ)
    {line : String} (h : (c.obscured v key s).1.line = some line) :
    ∃ hidden s₁, c.encrypt v key s = .ok hidden s₁ ∧
      (∃ cs, line.toList = '\x7b' :: cs ∨ line.toList = '[' :: cs) ∧
      (∀ d ∈ line.toList, 0x20 ≤ d.toNat) ∧
      (∀ j, Json.TextOf j line ↔ j = hidden.json) ∧
      Json.parse? line = some hidden.json := by
  obtain ⟨hkey, hidden, s₁, hencrypt, htext⟩ := (line_eq_some_iff c v key s).mp h
  have hwalk := Value.walkable_of_transform hkey hencrypt
  obtain ⟨as, -, rfl⟩ := (c.encrypt_eq_ok_iff hkey).mp hencrypt
  obtain ⟨⟨j, hj⟩, rfl⟩ := Value.logText_eq_of_walkable (hwalk.refill _) htext
  have hnumbers := Value.readsBack_of_tree? _ j (Value.Floatless.refill v _ hv) hj
  have htextOf := Json.textOf_print _ hnumbers
  refine ⟨_, s₁, hencrypt, ?_, Json.noControls_print _ hnumbers, fun j ↦ ?_,
    Json.parse?_of_textOf htextOf⟩
  · rcases (hwalk.refill _).json_cases with ⟨fs, -, hfs⟩ | ⟨items, -, hitems⟩
    · exact ⟨_, .inl (hfs ▸ Json.toList_print_map _)⟩
    · exact ⟨_, .inr (hitems ▸ Json.toList_print_seq _)⟩
  · exact ⟨fun hj ↦ hj.unique htextOf, fun hj ↦ hj ▸ htextOf⟩

/-- A concealer whose cipher answers with text that would end a string, a record and a line. -/
def breakingOut : Concealer Unit where
  cipher :=
    { encrypt := fun t _ _ ↦ .ok (t ++ "\"\x7d\n\\") ()
      decrypt := fun t _ _ ↦ .ok t () }
  marker := .standard

/-- An entry of a diary, with a marked text, a field whose name would end its key, a name that
repeats, a moment, the least integer and a reference to nothing. -/
def diary (secret : String) : Value :=
  .ref (.record ⟨"Entry", [.tagged "a\":0,\"" (.text secret) [("log", "encrypt")],
    .tagged "n" (.int (-9223372036854775808)) [], .tagged "n" (.ref (.text "\u0007\t")) [],
    .tagged "when" (.timestamp ⟨0, 0⟩) [], .tagged "rest" (.seq [.null, .bool true]) []]⟩)

theorem obscured_faithful_diary :
    ∃ line, (breakingOut.obscured (diary "x") "k" ()).1.line = some line ∧
      (∀ d ∈ line.toList, 0x20 ≤ d.toNat) ∧
      ∀ j, Json.TextOf j line ↔
        j = .map [("a\":0,\"", .text "x\"\x7d\n\\"), ("n", .number (.int (-9223372036854775808))),
          ("n", .text "\u0007\t"), ("when", .text "1970-01-01T00:00:00Z"),
          ("rest", .seq [.null, .bool true])] := by
  obtain ⟨line, hline⟩ : ∃ line, (breakingOut.obscured (diary "x") "k" ()).1.line = some line :=
    ⟨_, rfl⟩
  have hrun : breakingOut.encrypt (diary "x") "k" () = .ok (diary "x\"\x7d\n\\") () := rfl
  have hfloatless : (diary "x").Floatless :=
    ⟨trivial, trivial, trivial, trivial, ⟨trivial, trivial, trivial⟩, trivial⟩
  obtain ⟨hidden, s₁, hencrypt, -, hcontrols, hmeaning, -⟩ :=
    obscured_faithful breakingOut hfloatless "k" () hline
  obtain ⟨rfl, -⟩ := EStateM.Result.ok.inj (hrun.symm.trans hencrypt)
  exact ⟨line, hline, hcontrols, hmeaning⟩

end Concealer

end Shroud
