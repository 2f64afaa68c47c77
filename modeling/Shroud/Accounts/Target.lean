/-!
# Targets of requests

A target is a path, possibly with a query after `?`.  It may come with the site that it belongs to:
a scheme, `://` and an authority.  A target that is neither is the name of an authority, and has no
path.  What follows `#` is left out.
-/

set_option autoImplicit false

namespace Shroud.Accounts

/-- The target of a request. -/
structure Target where
  /-- The scheme and the authority, as far as they were given. -/
  site : List Char
  path : List Char
  /-- What follows the path after `?`. -/
  query : Option (List Char)
  deriving DecidableEq

namespace Target

/-- The target in words, without what follows `#`. -/
def text (t : Target) : String :=
  String.ofList (t.site ++ t.path ++ match t.query with
    | some q => '?' :: q
    | none => [])

/-- The target of a path and a query on a site. -/
def ofPath (site cs : List Char) : Target :=
  let cs := cs.takeWhile (· != '#')
  ⟨site, cs.takeWhile (· != '?'),
    match cs.dropWhile (· != '?') with
    | _ :: q => some q
    | [] => none⟩

/-- A character of a scheme. -/
def isSchemeChar (c : Char) : Bool := c.isAlphanum || ['+', '-', '.', '~'].contains c

/-- The scheme of a target and what follows `://`, if the target has a scheme. -/
def scheme? (cs : List Char) : Option (List Char × List Char) :=
  let scheme := cs.takeWhile isSchemeChar
  match cs.dropWhile isSchemeChar with
  | ':' :: '/' :: '/' :: rest =>
    let lower := scheme.map Char.toLower
    let known := lower == "http".toList || lower == "https".toList
    some (if known then lower else scheme, rest)
  | _ => none

/-- The character ends an authority. -/
def endsAuthority (c : Char) : Bool := c == '/' || c == '?' || c == '#'

/-- The target of a path and a query on a site, with the root for no path. -/
def onSite (scheme cs : List Char) : Target :=
  let site := scheme ++ "://".toList ++ cs.takeWhile fun c ↦ !endsAuthority c
  let t := ofPath site (cs.dropWhile fun c ↦ !endsAuthority c)
  if t.path.isEmpty then { t with path := ['/'] } else t

/-- The target that a text stands for. -/
def parse (s : String) : Target :=
  let cs := s.toList
  if cs.head? = some '/' ∨ cs = ['*'] then ofPath [] cs
  else match scheme? cs with
    | some (scheme, rest) => onSite scheme rest
    | none => ⟨cs, [], none⟩

end Target

end Shroud.Accounts
