import Shroud.Text.Graphic
import Shroud.Text.Extender
import Shroud.Text.Hex

/-!
# Quoted texts in diagnostics

How a diagnostic shows a text so that nothing in it stays invisible: between double quotes, with the
quote and the backslash escaped, short escapes for tab, newline, carriage return and NUL, and the
code point in hexadecimal for everything that is not graphic or attaches to the character before it.
-/

set_option autoImplicit false

namespace Shroud.Text

/-- One character inside the quotes. -/
def quoteChar (c : Char) : List Char :=
  if c = '"' then ['\\', '"']
  else if c = '\\' then ['\\', '\\']
  else if c = '\t' then ['\\', 't']
  else if c = '\n' then ['\\', 'n']
  else if c = '\r' then ['\\', 'r']
  else if c = '\x00' then ['\\', '0']
  else if isExtender c || !isGraphic c then
    ['\\', 'u', '\x7b'] ++ hexMinimal c.toNat ++ ['\x7d']
  else [c]

/-- The text between quotes. -/
def quoted (s : String) : String := String.ofList ('"' :: s.toList.flatMap quoteChar ++ ['"'])

end Shroud.Text
