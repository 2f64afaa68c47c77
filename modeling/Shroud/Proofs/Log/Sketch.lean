import Shroud.Log.Span
import Shroud.Proofs.Json.ReadBack
import Shroud.Proofs.Outline.Calls
import Shroud.Proofs.Sealed.Cipher

/-!
# Sketches

A sketch is what is left to see of a text when some parts of it are covered: the parts that are in
clear, and gaps for the others.  Two texts that are one sketch with other texts in its gaps are the
same once whatever stands in a gap is replaced by a fixed text.

`Made` says which texts a cipher makes from some nonces on, so that `LogSketch.Tells` can say of a log
that it is a sketch in whose gaps stand the texts made by the cipher, all of them and nothing else.
-/

set_option autoImplicit false

namespace Shroud

/-! ## Texts that a cipher makes -/

/-- From the nonces `n` on, the cipher makes the texts `as`, one after another, and leaves the nonces
`n₁`. -/
inductive Made (key : String) : Nonces → List String → Nonces → Prop where
  | nil (n : Nonces) : Made key n [] n
  | cons {n n₁ n₂ : Nonces} {t a : String} {as : List String}
      (h : fieldCipher.encrypt t key n = .ok a n₁) (rest : Made key n₁ as n₂) :
      Made key n (a :: as) n₂

namespace Made

variable {key : String} {n n₁ n₂ : Nonces} {as bs : List String}

theorem append (h : Made key n as n₁) (hrest : Made key n₁ bs n₂) : Made key n (as ++ bs) n₂ := by
  induction h with
  | nil n => exact hrest
  | cons h _ ih => exact .cons h (ih hrest)

end Made

/-! ## Texts in pieces -/

/-- A piece of a text: one that can be seen, or a gap. -/
inductive Piece where
  | clear (s : String)
  | gap

/-- A text in pieces. -/
abbrev Sketch := List Piece

namespace Sketch

/-- The number of gaps. -/
def gaps : Sketch → Nat
  | [] => 0
  | .clear _ :: p => gaps p
  | .gap :: p => gaps p + 1

/-- The text with other texts in its gaps, in order. -/
def fill : Sketch → List String → String
  | [], _ => ""
  | .clear s :: p, ts => s ++ fill p ts
  | .gap :: p, t :: ts => t ++ fill p ts
  | .gap :: p, [] => fill p []

theorem gaps_append (p q : Sketch) : gaps (p ++ q) = gaps p + gaps q := by
  induction p with
  | nil => simp [gaps]
  | cons x p ih =>
    cases x with
    | clear s => exact ih
    | gap =>
      rw [List.cons_append, gaps, gaps, ih]
      omega

theorem fill_append (p q : Sketch) {ts : List String} (h : ts.length = p.gaps) (us : List String) :
    fill (p ++ q) (ts ++ us) = fill p ts ++ fill q us := by
  induction p generalizing ts with
  | nil =>
    obtain rfl : ts = [] := List.eq_nil_of_length_eq_zero h
    simp [fill]
  | cons x p ih =>
    cases x with
    | clear s =>
      rw [List.cons_append, fill, fill, ih h, String.append_assoc]
    | gap =>
      match ts, h with
      | t :: ts, h =>
        rw [List.cons_append, List.cons_append, fill, fill, ih (Nat.succ.inj h),
          String.append_assoc]

/-! ## JSON texts in pieces -/

/-- A string. -/
def ofText (s : String) : Sketch := [.clear (Json.quote s)]

/-- A string that is a gap. -/
def covered : Sketch := [.clear "\"", .gap, .clear "\""]

/-- Null. -/
def null : Sketch := [.clear "null"]

/-- The entries of a map. -/
def entries : List (String × Sketch) → Sketch
  | [] => []
  | [(k, p)] => .clear (Json.quote k ++ ":") :: p
  | (k, p) :: e :: rest => .clear (Json.quote k ++ ":") :: (p ++ .clear "," :: entries (e :: rest))

/-- A map. -/
def map (es : List (String × Sketch)) : Sketch := .clear "\x7b" :: (entries es ++ [.clear "\x7d"])

/-- With some texts in its gaps, the sketch is the text of a JSON value. -/
structure Prints (p : Sketch) (as : List String) (j : Json) : Prop where
  length : as.length = p.gaps
  fill : p.fill as = j.print

/-- So it is for the entries of a map. -/
inductive PrintsEntries : List (String × Sketch) → List String → List (String × Json) → Prop where
  | nil : PrintsEntries [] [] []
  | cons {p : Sketch} {as bs : List String} {j : Json} {es : List (String × Sketch)}
      {js : List (String × Json)} (k : String) (h : Prints p as j) (rest : PrintsEntries es bs js) :
      PrintsEntries ((k, p) :: es) (as ++ bs) ((k, j) :: js)

theorem prints_ofText (s : String) : Prints (ofText s) [] (.text s) :=
  ⟨rfl, String.append_empty⟩

theorem prints_null : Prints null [] .null := ⟨rfl, rfl⟩

theorem flatMap_escape {cs : List Char} (h : ∀ c ∈ cs, Json.escape c = [c]) :
    cs.flatMap Json.escape = cs := by
  induction cs with
  | nil => rfl
  | cons c cs ih =>
    rw [List.flatMap_cons, h c List.mem_cons_self, ih fun d hd ↦ h d (List.mem_cons_of_mem c hd),
      List.singleton_append]

/-- The text of an encrypted field needs no escapes. -/
theorem escaped_text (x : Sealed) : Json.escaped x.text = x.text := by
  have hdigits : ∀ n < 64, Json.escape (Text.Base64Url.digit n) = [Text.Base64Url.digit n] := by
    decide
  have hplain : ∀ c ∈ x.chars, Json.escape c = [c] := by
    intro c hc
    rw [Sealed.chars, List.mem_append, List.mem_cons, List.mem_append, List.mem_cons] at hc
    rcases hc with hversion | rfl | hnonce | rfl | hpayload
    · rw [Sealed.version, List.mem_cons, List.mem_singleton] at hversion
      rcases hversion with rfl | rfl
      · decide
      · decide
    · decide
    · obtain ⟨n, hn, rfl⟩ := Text.Base64Url.exists_digit_of_mem_encode hnonce
      exact hdigits n hn
    · decide
    · obtain ⟨n, hn, rfl⟩ := Text.Base64Url.exists_digit_of_mem_encode hpayload
      exact hdigits n hn
  rw [Json.escaped, Sealed.text, String.toList_ofList, flatMap_escape hplain]

theorem prints_covered (x : Sealed) : Prints covered [x.text] (.text x.text) := by
  refine ⟨rfl, ?_⟩
  rw [Json.print, Json.quote, escaped_text]
  simp [covered, Sketch.fill, String.append_assoc]

theorem fill_clear (s : String) (p : Sketch) (ts : List String) :
    Sketch.fill (.clear s :: p) ts = s ++ Sketch.fill p ts :=
  rfl

theorem PrintsEntries.fill {es : List (String × Sketch)} {as : List String}
    {js : List (String × Json)} (h : PrintsEntries es as js) :
    as.length = (entries es).gaps ∧ ((entries es).fill as).toList = Json.entryChars js := by
  induction h with
  | nil => exact ⟨rfl, rfl⟩
  | @cons p as bs j es js k h rest ih =>
    obtain ⟨hlength, hfill⟩ := ih
    cases rest with
    | nil =>
      rw [List.append_nil, Json.entryChars_singleton]
      refine ⟨h.length, ?_⟩
      rw [entries, fill_clear, h.fill]
      simp
    | cons k' h' rest' =>
      rw [entries, Json.entryChars_cons_cons, ← hfill]
      constructor
      · rw [List.length_append, hlength, h.length]
        exact (gaps_append p (.clear "," :: _)).symm
      · rw [fill_clear, fill_append _ _ h.length, fill_clear, h.fill]
        simp

theorem prints_map {es : List (String × Sketch)} {as : List String} {js : List (String × Json)}
    (h : PrintsEntries es as js) : Prints (map es) as (.map js) := by
  obtain ⟨hlength, hfill⟩ := h.fill
  constructor
  · rw [hlength, map]
    exact (gaps_append (entries es) [.clear "\x7d"]).symm
  · rw [← String.toList_inj, Json.toList_print_map, ← hfill, map, fill_clear]
    have hend := fill_append (entries es) [.clear "\x7d"] hlength []
    rw [List.append_nil] at hend
    rw [hend]
    simp [Sketch.fill]

end Sketch

/-! ## Logs -/

/-- Parts that are filled one after another, each of them with as many texts as it has gaps. -/
def fillParts {α β : Type} (gaps : α → Nat) (fill : α → List String → β) :
    List α → List String → List β
  | [], _ => []
  | x :: xs, ts => fill x (ts.take (gaps x)) :: fillParts gaps fill xs (ts.drop (gaps x))

/-- The number of gaps that parts have together. -/
def totalGaps {α : Type} (gaps : α → Nat) : List α → Nat
  | [] => 0
  | x :: xs => gaps x + totalGaps gaps xs

section

variable {α β : Type} {gaps : α → Nat} {fill : α → List String → β}

end

/-- A notice with further members, which are texts in pieces. -/
structure NoticeSketch where
  clear : Notice
  texts : List (String × Sketch)

namespace NoticeSketch

/-- The number of gaps. -/
def gaps (x : NoticeSketch) : Nat := totalGaps (fun m ↦ m.2.gaps) x.texts

/-- Members that are texts in pieces, with other texts in their gaps, in order. -/
def fillTexts : List (String × Sketch) → List String → List (String × Json) :=
  fillParts (fun m ↦ m.2.gaps) fun m ts ↦ (m.1, .text (m.2.fill ts))

/-- The notice with other texts in its gaps, in order. -/
def fill (x : NoticeSketch) (ts : List String) : Notice :=
  { x.clear with members := x.clear.members ++ fillTexts x.texts ts }

end NoticeSketch

/-- What a log is told: notices, each with the spans around it, the outer one first. -/
abbrev Log := List (List Span × Notice)

/-- A log with gaps. -/
abbrev LogSketch := List (List Span × NoticeSketch)

namespace LogSketch

/-- The number of gaps. -/
def gaps (sketch : LogSketch) : Nat := totalGaps (fun x ↦ x.2.gaps) sketch

/-- The log with texts in its gaps, in order. -/
def fill (sketch : LogSketch) (ts : List String) : Log :=
  fillParts (fun x ↦ x.2.gaps) (fun x ts ↦ (x.1, x.2.fill ts)) sketch ts

end LogSketch

end Shroud
