import Shroud.Text.Pattern.Source

/-!
# Sets of characters in patterns

A set in brackets holds characters, ranges such as `a-z`, classes by name such as `[:alpha:]`, and
other sets in brackets; after `^` it holds all other characters.  `&&`, `--` and `~~` combine what
is before them with what follows, from left to right.
-/

set_option autoImplicit false

namespace Shroud.Text.Pattern

/-! ## Classes by name -/

/-- The classes of characters by name. -/
def namedClasses : List (String × List (Nat × Nat)) :=
  [("alnum", [(0x30, 0x39), (0x41, 0x5A), (0x61, 0x7A)]),
   ("alpha", [(0x41, 0x5A), (0x61, 0x7A)]),
   ("ascii", [(0x00, 0x7F)]),
   ("blank", [(0x09, 0x09), (0x20, 0x20)]),
   ("cntrl", [(0x00, 0x1F), (0x7F, 0x7F)]),
   ("digit", [(0x30, 0x39)]),
   ("graph", [(0x21, 0x7E)]),
   ("lower", [(0x61, 0x7A)]),
   ("print", [(0x20, 0x7E)]),
   ("punct", [(0x21, 0x2F), (0x3A, 0x40), (0x5B, 0x60), (0x7B, 0x7E)]),
   ("space", [(0x09, 0x0D), (0x20, 0x20)]),
   ("upper", [(0x41, 0x5A)]),
   ("word", [(0x30, 0x39), (0x41, 0x5A), (0x5F, 0x5F), (0x61, 0x7A)]),
   ("xdigit", [(0x30, 0x39), (0x41, 0x46), (0x61, 0x66)])]

/-- A class by name, as it stands in a set. -/
structure NamedClass where
  /-- All other characters are meant. -/
  outside : Bool
  set : CharSet
  /-- What follows the class. -/
  rest : List Char

/-- The class by name after an opening bracket, if there is one. -/
def namedClass? (cs : List Char) : Option NamedClass :=
  match cs with
  | ':' :: cs =>
    let (outside, cs) := match cs with
      | '^' :: rest => (true, rest)
      | cs => (false, cs)
    match cs.dropWhile (· != ':') with
    | ':' :: ']' :: rest =>
      let name := String.ofList (cs.takeWhile (· != ':'))
      (namedClasses.find? (·.1 == name)).map fun c ↦ ⟨outside, .ofRanges c.2, rest⟩
    | _ => none
  | _ => none

/-! ## Members -/

/-- A character that stands for itself in a set. -/
def readMemberChar (c : Char) : Reading CharSet := do
  if (← flags).latin && 128 ≤ c.toNat then failure else return .single c

/-- A member of a set: a character and nothing else, or a set. -/
def readMember : Reading (Option Char × CharSet) := do
  match ← peek with
  | [] => failure
  | '\\' :: rest =>
    moveTo rest
    match ← readMark with
    | .char c => return (some c, ← readMemberChar c)
    | .set s => return (none, s)
    | .anchor _ => failure
  | c :: rest =>
    moveTo rest
    return (some c, ← readMemberChar c)

/-- A hyphen joins what is before it with what follows, unless a closing bracket or another hyphen
does. -/
def joins (f : Flags) : List Char → Option (List Char)
  | '-' :: rest =>
    match if f.spaced then withoutSpace false rest else rest with
    | ']' :: _ => none
    | '-' :: _ => none
    | _ => some rest
  | _ => none

/-- A member of a set, or a range between two characters. -/
def readRange : Reading CharSet := do
  let (first, set) ← readMember
  skip
  match joins (← flags) (← peek) with
  | none => return set
  | some rest =>
    moveTo rest
    skip
    let (last, _) ← readMember
    match first, last with
    | some a, some b => if a ≤ b then return .range a.toNat b.toNat else failure
    | _, _ => failure

/-! ## Sets -/

/-- A way to combine two sets. -/
inductive Combination where
  | inter
  | diff
  | symmDiff

/-- Two sets combined. -/
def Combination.apply : Combination → CharSet → CharSet → CharSet
  | inter => .inter
  | diff => .diff
  | symmDiff => .symmDiff

/-- The mark of a combination, and what follows it. -/
def combination? : List Char → Option (Combination × List Char)
  | '&' :: '&' :: rest => some (.inter, rest)
  | '-' :: '-' :: rest => some (.diff, rest)
  | '~' :: '~' :: rest => some (.symmDiff, rest)
  | _ => none

/-- What is before a combination, if there is one, combined with a set. -/
def combine (f : Flags) (left : Option (CharSet × Combination)) (s : CharSet) : CharSet :=
  match left with
  | some (a, op) => op.apply (f.close a) (f.close s)
  | none => s

/-- Hyphens at the start of a set; whether there is one. -/
def readHyphens : Nat → Reading Bool
  | 0 => return false
  | fuel + 1 => do
    skip
    match ← peek with
    | '-' :: rest =>
      moveTo rest
      let _ ← readHyphens fuel
      return true
    | _ => return false

/-- What a set begins with: hyphens, or else a closing bracket, which then is a member. -/
def readFirst : Reading CharSet := do
  if ← readHyphens (← peek).length then return .single '-'
  match ← peek with
  | ']' :: rest =>
    moveTo rest
    return .single ']'
  | _ => return .empty

/-- Whether all other characters are meant. -/
def readOutside : Reading Bool := do
  skip
  match ← peek with
  | '^' :: rest =>
    moveTo rest
    return true
  | _ => return false

/-- All other characters than those of a set, where these are not half characters. -/
def otherThan (s : CharSet) : Reading CharSet := do
  if (← flags).latin then failure else return s.compl

mutual

/-- A set, after its opening bracket. -/
def readSet : Nat → Reading CharSet
  | 0 => failure
  | fuel + 1 => do
    let f ← flags
    if f.anyCase && !f.latin then failure
    let outside ← readOutside
    let s := f.close (← readMembers fuel none (← readFirst))
    if outside then otherThan s else return s

/-- The members of a set up to its closing bracket, after some others. -/
def readMembers : Nat → Option (CharSet × Combination) → CharSet → Reading CharSet
  | 0, _, _ => failure
  | fuel + 1, left, s => do
    skip
    let cs ← peek
    match cs with
    | ']' :: rest =>
      moveTo rest
      return combine (← flags) left s
    | '[' :: rest =>
      match namedClass? rest with
      | some named =>
        moveTo named.rest
        let t ← if named.outside then otherThan named.set else pure named.set
        readMembers fuel left (s.union t)
      | none =>
        moveTo rest
        readMembers fuel left (s.union (← readSet fuel))
    | _ =>
      match combination? cs with
      | some (op, rest) =>
        moveTo rest
        readMembers fuel (some (combine (← flags) left s, op)) .empty
      | none => readMembers fuel left (s.union (← readRange))

end

end Shroud.Text.Pattern
