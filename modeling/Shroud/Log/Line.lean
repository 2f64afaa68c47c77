import Shroud.Log.Notice
import Shroud.Json.Writing
import Shroud.Declared.Arranged
import Shroud.Declared.Erased
import Shroud.Sealed.Concealer

/-!
# Obscured lines

The line that stands for a value in a log: the value with its marked texts encrypted, as text.
Where that cannot be had there is no line at all, and a notice says why; so a text that is marked
never appears in clear.
-/

set_option autoImplicit false

namespace Shroud

/-- The notice that a value could not be encrypted. -/
def Notice.notObscured (f : Failure CipherError) : Notice :=
  ⟨.warn, "fieldcloak::obscure", "failed to obscure value for logging",
    [("error", .text f.message)]⟩

/-- A notice about data of a layout known only at run time. -/
def Notice.about (n : Notice) (l : Layout) : Notice :=
  { n with members := n.members ++ [("value_type", .text l.text)] }

/-- The notice that an encrypted value has no text. -/
def Notice.notRendered (u : Unwritable) : Notice :=
  ⟨.warn, "fieldcloak::obscure", "failed to render obscured value",
    [("error", .text u.logMessage)]⟩

/-- The notice that the copy of erased data has another layout than the data. -/
def Notice.layoutChanged : Notice :=
  ⟨.warn, "fieldcloak::obscure", "obscured value changed type", []⟩

/-- A line, if there is one, and what is told to the log about it. -/
structure Obscured where
  line : Option String
  notices : List Notice

namespace Obscured

/-- The line of an encrypted value. -/
def ofHidden {α : Type} [HasDocument α] (x : α) : Obscured :=
  match logText x with
  | .ok line => ⟨some line, []⟩
  | .error u => ⟨none, [.notRendered u]⟩

/-- No line, since a value could not be encrypted. -/
def ofFailure (f : Failure CipherError) : Obscured := ⟨none, f.notices ++ [.notObscured f]⟩

/-- No line, since data of a layout known only at run time could not be encrypted. -/
def ofErasedFailure (f : Failure CipherError) (l : Layout) : Obscured :=
  ⟨none, f.notices ++ [(Notice.notObscured f).about l]⟩

end Obscured

namespace Concealer

variable {σ : Type} (c : Concealer σ)

/-- The obscured line of a value; with an empty key there is none. -/
def obscured {α : Type} [HasRoot α] [HasDocument α] (x : α) (key : String) : StateM σ Obscured :=
  fun s ↦
    if key.isEmpty then (⟨none, []⟩, s)
    else match c.encrypt x key s with
      | .ok hidden s => (.ofHidden hidden, s)
      | .error f s => (.ofFailure f, s)

/-- The obscured line of data of a type known only at run time. -/
def obscuredErased (x : Erased) (key : String) : StateM σ Obscured :=
  fun s ↦
    if key.isEmpty then (⟨none, []⟩, s)
    else match c.encrypt x key s with
      | .ok hidden s =>
        match hidden.downcast? x.layout with
        | some content => (.ofHidden content, s)
        | none => (⟨none, [Notice.layoutChanged.about hidden.layout]⟩, s)
      | .error f s => (.ofErasedFailure f x.layout, s)

/-! ## Tables

Each call makes a copy of its own, and what is written is the copy: so a line has the entries of
every table in an order of the copy.  With tables in the data, the definitions above are for copies
that keep the entries as they are listed. -/

end Concealer

end Shroud
