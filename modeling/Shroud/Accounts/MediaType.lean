/-!
# Media types

A media type has a type, a subtype that may end in a suffix after a plus sign, and parameters.  A
body is taken as JSON when it is declared as `application/json`, or as another subtype of
`application` with the suffix `json`.
-/

set_option autoImplicit false

namespace Shroud.Accounts.MediaType

/-- A character of a token. -/
def isTokenChar (c : Char) : Bool :=
  c.isAlphanum || "!#$%&'*+-.^_`|~".toList.contains c

/-- A character between quotes. -/
def isQuotedChar (c : Char) : Bool := 0x20 ≤ c.toNat && c.toNat < 0x7f

/-- A token at the start of a text. -/
def token (cs : List Char) : List Char := cs.takeWhile isTokenChar

/-- What follows the token at the start of a text. -/
def afterToken (cs : List Char) : List Char := cs.dropWhile isTokenChar

/-- What follows a quoted value whose opening quote has been passed.  It holds at least one
character, which may itself be a quote. -/
def afterQuoted? : List Char → Option (List Char)
  | [] => none
  | c :: rest =>
    if isQuotedChar c then
      match rest.dropWhile fun c ↦ isQuotedChar c && c != '"' with
      | '"' :: rest => some rest
      | _ => none
    else none

/-- The text is a list of parameters; `fuel` is at least its length. -/
def areParameters : Nat → List Char → Bool
  | 0, cs => cs.isEmpty
  | fuel + 1, cs =>
    match cs.dropWhile (· == ' ') with
    | [] => true
    | cs =>
      if (token cs).isEmpty then false
      else match afterToken cs with
        | '=' :: '"' :: rest =>
          match (afterQuoted? rest).map fun rest ↦ rest.dropWhile (· == ' ') with
          | some [] => true
          | some (';' :: rest) => areParameters fuel rest
          | _ => false
        | '=' :: rest =>
          match afterToken rest with
          | [] => true
          | ';' :: more => !(token rest).isEmpty && areParameters fuel more
          | _ => false
        | _ => false

/-- The part of a subtype before its last plus sign, and the suffix after it.  A plus sign at the
start does not count. -/
def splitSuffix (cs : List Char) : List Char × Option (List Char) :=
  let back := cs.reverse.takeWhile (· != '+')
  if back.length + 1 < cs.length then
    (cs.take (cs.length - back.length - 1), some back.reverse)
  else (cs, none)

/-- A type and a subtype, in lower case, say that something is JSON. -/
def namesJson (type subtype : List Char) : Bool :=
  let p := splitSuffix subtype
  type == "application".toList && (p.1 == "json".toList || p.2 == some "json".toList)

/-- The declaration of a body says that it is JSON. -/
def isJson (declared : String) : Bool :=
  let cs := declared.toList.map Char.toLower
  match afterToken cs with
  | '/' :: rest =>
    !(token cs).isEmpty && !(token rest).isEmpty && namesJson (token cs) (token rest) &&
      match afterToken rest with
      | [] => true
      | ';' :: rest => areParameters rest.length rest
      | _ => false
  | _ => false

end Shroud.Accounts.MediaType
