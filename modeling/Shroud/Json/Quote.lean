import Shroud.Text.Hex

/-!
# Strings of JSON

A string stands between double quotes.  The quote, the backslash and the characters below U+0020 are
escaped, the latter with the short escape where there is one; every other character stands for
itself.
-/

set_option autoImplicit false

namespace Shroud.Json

/-- One character inside the quotes. -/
def escape (c : Char) : List Char :=
  if c = '"' then ['\\', '"']
  else if c = '\\' then ['\\', '\\']
  else if c = '\x08' then ['\\', 'b']
  else if c = '\x0c' then ['\\', 'f']
  else if c = '\n' then ['\\', 'n']
  else if c = '\r' then ['\\', 'r']
  else if c = '\t' then ['\\', 't']
  else if c.toNat < 0x20 then '\\' :: 'u' :: Text.hexOfNat 4 c.toNat
  else [c]

/-- The characters inside the quotes. -/
def escaped (s : String) : String := String.ofList (s.toList.flatMap escape)

/-- The text between quotes. -/
def quote (s : String) : String := "\"" ++ escaped s ++ "\""

end Shroud.Json
