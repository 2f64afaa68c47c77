import Shroud.Declared.Document
import Shroud.Declared.Outline
import Shroud.Outline.Walk

/-!
# Data of a type known only at run time

`Erased` data carries its layout along.  A walk keeps the layout, and whoever knows it gets the data
back; for any other layout there is nothing to get.

Data with pointers is erased by its contents: each target is written out in its place, and only the
layout tells of pointers.  This is enough, since a walk of data with pointers makes a duplicate of
it first, in which no target is shared, and does to the duplicate what it does to the contents
(`Heap.writtenOut_transform`).
-/

set_option autoImplicit false

namespace Shroud

/-- The layout of declared data. -/
inductive Layout where
  /-- A text, a scalar, a moment or a self-describing value: a type without parts, by its name. -/
  | basic (name : String)
  | optional (content : Layout)
  | owned (content : Layout)
  /-- A pointer of a named sort. -/
  | pointer (sort : String) (target : Layout)
  /-- A sequence of a named sort. -/
  | list (sort : String) (element : Layout)
  /-- A map of a named sort. -/
  | dict (sort : String) (key value : Layout)
  | record (name : String)
  deriving DecidableEq

/-- A layout in words. -/
def Layout.text : Layout → String
  | basic name => name
  | record name => name
  | optional content => "optional " ++ content.text
  | owned content => "owned " ++ content.text
  | pointer sort target => sort ++ " of " ++ target.text
  | list sort element => sort ++ " of " ++ element.text
  | dict sort key value => sort ++ " from " ++ key.text ++ " to " ++ value.text

/-- Data with its layout. -/
structure Erased where
  layout : Layout
  /-- The data, with every target written out in its place. -/
  content : Plain

namespace Erased

/-- The data, if its layout is the one asked for. -/
def downcast? (e : Erased) (l : Layout) : Option Plain :=
  if e.layout = l then some e.content else none

end Erased

instance : HasRoot Erased where
  root e := HasRoot.root e.content
  refill e r := ⟨e.layout, HasRoot.refill e.content r⟩

instance : HasDocument Erased := ⟨fun e ↦ HasDocument.document e.content⟩

end Shroud
