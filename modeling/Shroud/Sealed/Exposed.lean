import Shroud.Sealed.Cipher
import Shroud.Json.Quote

/-!
# Texts with their sealed parts exposed

Two encryptions of one text differ, since each takes a nonce of its own.  To compare texts that hold
encrypted fields, each sealed part that one of the known keys opens is replaced by a mark with its
plaintext; in the plaintext the same is done.
-/

set_option autoImplicit false

namespace Shroud.Sealed

/-- A character that can stand in the text form of an encrypted field. -/
def isSealedChar (c : Char) : Bool :=
  c.isAlphanum || c == '_' || c == '.' || c == '-'

/-- The plaintext of a sealed text under the first of some keys that opens it. -/
def openWith? (keys : List String) (run : List Char) : Option String :=
  keys.findSome? fun key ↦
    if key.isEmpty then none else (decryptText (String.ofList run) key).toOption

/-- A text with its sealed parts replaced, put behind the characters in `acc`, which are in reverse.
Each step takes at least one character, or goes on inside a plaintext, which is shorter than its
sealed text. -/
def exposeFrom (keys : List String) : Nat → List Char → List Char → List Char
  | 0, acc, cs => acc.reverse ++ cs
  | _ + 1, acc, [] => acc.reverse
  | fuel + 1, acc, c :: rest =>
    if c = 'v' ∧ rest.take 2 = ['1', '.'] then
      let run := (c :: rest).takeWhile isSealedChar
      match openWith? keys run with
      | some plain =>
        let inside := (Json.escaped (String.ofList (exposeFrom keys fuel [] plain.toList))).toList
        exposeFrom keys fuel ("<enc:".toList ++ inside ++ ['>'] |>.reverseAux acc)
          ((c :: rest).dropWhile isSealedChar)
      | none => exposeFrom keys fuel ('.' :: '1' :: 'v' :: acc) (rest.drop 2)
    else exposeFrom keys fuel (c :: acc) rest

/-- A text with the sealed parts that some keys open replaced by their plaintexts. -/
def expose (keys : List String) (s : String) : String :=
  if keys.isEmpty then s else String.ofList (exposeFrom keys (s.length + 1) [] s.toList)

end Shroud.Sealed
