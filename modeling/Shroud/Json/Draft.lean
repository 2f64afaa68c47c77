import Shroud.Json.Literal

/-!
# Drafts

A draft is a JSON text as far as it can be read.  Where the text stops to follow the grammar, the
draft ends with `broken`, and what was read before stays.  So whoever looks at a draft from its
start meets the faults of a text in the order of the text, be they faults of grammar or of content.

Numbers and strings without a meaning are kept as such: they matter only to those who ask for them.
-/

set_option autoImplicit false

namespace Shroud

/-- A JSON text as far as it can be read. -/
inductive Draft where
  /-- The text does not go on as a value. -/
  | broken
  | null
  | bool (b : Bool)
  /-- A number; nothing if it is out of range. -/
  | number (n : Option Number)
  /-- A string; nothing if it is no text. -/
  | text (s : Option String)
  | seq (items : List Draft)
  /-- The entries in order; a key is nothing if it is no text. -/
  | map (entries : List (Option String × Draft))

namespace Draft

open Json (Glyphs skipSpace readString? Numeral)

/-- A word at the start of a text: what follows it. -/
def skipWord? : List Char → Glyphs → Option Glyphs
  | [], gs => some gs
  | c :: cs, some d :: gs => if c = d then skipWord? cs gs else none
  | _ :: _, _ => none

/-- A literal at the start of a text. -/
def readWord (d : Draft) (word : List Char) (gs : Glyphs) : Draft × Option Glyphs :=
  match skipWord? word gs with
  | some rest => (d, some rest)
  | none => (broken, none)

/-- A number at the start of a text. -/
def readNumber (gs : Glyphs) : Draft × Option Glyphs :=
  match Numeral.read? gs with
  | some (x, rest) => (number x.value?, some rest)
  | none => (broken, none)

mutual

/-- A value at the start of a text, and what follows it unless the draft is broken. -/
def readValue : Nat → Glyphs → Draft × Option Glyphs
  | 0, _ => (broken, none)
  | fuel + 1, gs =>
    match skipSpace gs with
    | some '"' :: rest =>
      match readString? rest with
      | some (s, rest) => (text s, some rest)
      | none => (broken, none)
    | some '[' :: rest =>
      match skipSpace rest with
      | some ']' :: rest => (seq [], some rest)
      | rest =>
        let r := readItems fuel rest
        (seq r.1, r.2)
    | some '\x7b' :: rest =>
      match skipSpace rest with
      | some '\x7d' :: rest => (map [], some rest)
      | rest =>
        let r := readEntries fuel rest
        (map r.1, r.2)
    | some 'n' :: rest => readWord null ['u', 'l', 'l'] rest
    | some 't' :: rest => readWord (bool true) ['r', 'u', 'e'] rest
    | some 'f' :: rest => readWord (bool false) ['a', 'l', 's', 'e'] rest
    | rest => readNumber rest

/-- The elements of a sequence from the next one on, and what follows the sequence. -/
def readItems : Nat → Glyphs → List Draft × Option Glyphs
  | 0, _ => ([broken], none)
  | fuel + 1, gs =>
    match readValue fuel gs with
    | (d, none) => ([d], none)
    | (d, some rest) =>
      match skipSpace rest with
      | some ',' :: rest =>
        let r := readItems fuel rest
        (d :: r.1, r.2)
      | some ']' :: rest => ([d], some rest)
      | _ => ([d, broken], none)

/-- The entries of a map from the next one on, and what follows the map. -/
def readEntries : Nat → Glyphs → List (Option String × Draft) × Option Glyphs
  | 0, _ => ([(none, broken)], none)
  | fuel + 1, gs =>
    match skipSpace gs with
    | some '"' :: rest =>
      match readString? rest with
      | some (key, rest) =>
        match skipSpace rest with
        | some ':' :: rest =>
          match readValue fuel rest with
          | (d, none) => ([(key, d)], none)
          | (d, some rest) =>
            match skipSpace rest with
            | some ',' :: rest =>
              let r := readEntries fuel rest
              ((key, d) :: r.1, r.2)
            | some '\x7d' :: rest => ([(key, d)], some rest)
            | _ => ([(key, d), (none, broken)], none)
        | _ => ([(key, broken)], none)
      | none => ([(none, broken)], none)
    | _ => ([(none, broken)], none)

end

/-- The first value of a text, and what follows it unless the draft is broken. -/
def read (gs : Glyphs) : Draft × Option Glyphs := readValue (2 * gs.length + 2) gs

mutual

/-- The draft holds no fault of grammar.  Numbers out of range and strings without a text are no
such fault. -/
def complete : Draft → Bool
  | broken => false
  | seq items => completeItems items
  | map entries => completeEntries entries
  | _ => true

/-- All the elements are complete. -/
def completeItems : List Draft → Bool
  | [] => true
  | d :: rest => complete d && completeItems rest

/-- All the entries are complete. -/
def completeEntries : List (Option String × Draft) → Bool
  | [] => true
  | (_, d) :: rest => complete d && completeEntries rest

end

mutual

/-- The value that a draft stands for, when every part of it has a meaning. -/
def json? : Draft → Option Json
  | broken => none
  | null => some .null
  | bool b => some (.bool b)
  | number n => n.map .number
  | text s => s.map .text
  | seq items => (jsonItems? items).map .seq
  | map entries => (jsonEntries? entries).map .map

/-- The values of elements. -/
def jsonItems? : List Draft → Option (List Json)
  | [] => some []
  | d :: rest => do
    let v ← json? d
    return v :: (← jsonItems? rest)

/-- The values of entries. -/
def jsonEntries? : List (Option String × Draft) → Option (List (String × Json))
  | [] => some []
  | (k, d) :: rest => do
    let k ← k
    let v ← json? d
    return (k, v) :: (← jsonEntries? rest)

end

mutual

/-- A value as the draft of its text. -/
def ofJson : Json → Draft
  | .null => null
  | .bool b => bool b
  | .number n => number (some n)
  | .text s => text (some s)
  | .seq items => seq (ofItems items)
  | .map entries => map (ofEntries entries)

/-- Elements as drafts. -/
def ofItems : List Json → List Draft
  | [] => []
  | v :: rest => ofJson v :: ofItems rest

/-- Entries as drafts. -/
def ofEntries : List (String × Json) → List (Option String × Draft)
  | [] => []
  | (k, v) :: rest => (some k, ofJson v) :: ofEntries rest

end

end Draft

/-- The value of a JSON text: nothing but blanks may follow it. -/
def Json.parse? (s : String) : Option Json :=
  match Draft.read (s.toList.map some) with
  | (d, some rest) => if (Json.skipSpace rest).isEmpty then d.json? else none
  | _ => none

end Shroud
