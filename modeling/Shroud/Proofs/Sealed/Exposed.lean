import Mathlib.Data.List.TakeWhile
import Shroud.Proofs.Sealed.Form
import Shroud.Sealed.Exposed

/-!
# What is exposed of an encrypted text

With the key of an encrypted text, nothing is exposed of it but its plaintext, in which encrypted
texts are exposed likewise (`expose_of_encrypt`).  So two encryptions of one text, which differ in
their nonces, are the same once they are exposed.

There are always steps enough to come to the end (`exposeFrom_steps`): a plaintext is shorter than
its encrypted text.
-/

set_option autoImplicit false

namespace Shroud.Sealed

/-! ## Encrypted texts among other characters -/

theorem isSealedChar_of_mem_text {x : Sealed} {c : Char} (h : c ∈ x.text.toList) :
    isSealedChar c = true := by
  have hform : HasForm x.text :=
    isSome_parse?_iff.mp (Option.isSome_iff_exists.mpr ⟨x, parse?_text x⟩)
  have hletters : Text.Base64Url.alphabet.all isSealedChar = true := by decide
  rcases hform.letters h with rfl | hc
  · rfl
  · exact List.all_eq_true.mp hletters c hc

theorem takeWhile_text (x : Sealed) : x.text.toList.takeWhile isSealedChar = x.text.toList :=
  List.takeWhile_eq_self_iff.mpr fun _ ↦ isSealedChar_of_mem_text

theorem dropWhile_text (x : Sealed) : x.text.toList.dropWhile isSealedChar = [] :=
  List.dropWhile_eq_nil_iff.mpr fun _ ↦ isSealedChar_of_mem_text

/-- A plaintext is shorter than its encrypted text. -/
theorem length_lt_of_decryptText {s key p : String} (h : decryptText s key = .ok p) :
    p.toList.length < s.toList.length := by
  obtain ⟨x, rfl, hx⟩ : ∃ x : Sealed, s = x.text ∧ Encloses key (Text.utf8 p) x := by
    cases decryptText_eq_iff.mp h with
    | text hx => exact ⟨_, rfl, hx⟩
  have hpayload : x.payload.length = (Text.utf8 p).length + GcmSiv.tagSize := by
    rw [(encloses_iff.mp hx).2, GcmSiv.length_encrypt]
  have hplain := Text.length_le_length_utf8 p
  have hencoded := Text.Base64Url.length_le_length_encode x.payload
  rw [toList_text]
  simp only [List.length_append, List.length_cons]
  omega

theorem exists_of_openWith? {keys : List String} {run : List Char} {p : String}
    (h : openWith? keys run = some p) : ∃ key, decryptText (String.ofList run) key = .ok p := by
  obtain ⟨key, -, hkey⟩ := List.exists_of_findSome?_eq_some h
  refine ⟨key, ?_⟩
  split at hkey
  · cases hkey
  · cases hrun : decryptText (String.ofList run) key with
    | ok q =>
      rw [hrun] at hkey
      obtain rfl := Option.some.inj hkey
      rfl
    | error e =>
      rw [hrun] at hkey
      cases hkey

/-- What is opened of a run is shorter than the run. -/
theorem length_lt_of_openWith? {keys : List String} {run : List Char} {p : String}
    (h : openWith? keys run = some p) : p.toList.length < run.length := by
  obtain ⟨key, hkey⟩ := exists_of_openWith? h
  have hlt := length_lt_of_decryptText hkey
  rwa [String.toList_ofList] at hlt

/-! ## Steps -/

/-- **More steps than characters are enough.** -/
theorem exposeFrom_steps (keys : List String) {steps steps' : Nat} (acc cs : List Char)
    (h : cs.length < steps) (h' : cs.length < steps') :
    exposeFrom keys steps acc cs = exposeFrom keys steps' acc cs := by
  induction steps generalizing steps' acc cs with
  | zero => exact absurd h (Nat.not_lt_zero _)
  | succ steps ih =>
    obtain ⟨steps', rfl⟩ := Nat.exists_eq_succ_of_ne_zero (Nat.ne_of_gt (Nat.zero_lt_of_lt h'))
    cases cs with
    | nil => rfl
    | cons c rest =>
      have hrest : rest.length < steps := Nat.succ_lt_succ_iff.mp h
      have hrest' : rest.length < steps' := Nat.succ_lt_succ_iff.mp h'
      rw [exposeFrom, exposeFrom]
      split
      case isTrue hv =>
        have hfirst : isSealedChar c = true := by
          rw [hv.1]
          rfl
        have hdrop : ((c :: rest).dropWhile isSealedChar).length ≤ rest.length := by
          rw [List.dropWhile_cons_of_pos hfirst]
          exact (List.dropWhile_sublist _).length_le
        have htake : ((c :: rest).takeWhile isSealedChar).length ≤ rest.length + 1 :=
          (List.takeWhile_sublist _).length_le
        dsimp only
        cases hopen : openWith? keys ((c :: rest).takeWhile isSealedChar) with
        | some plain =>
          have hplain := length_lt_of_openWith? hopen
          -- The plaintext takes its own steps, of which there are as many in both cases.
          have hinside : exposeFrom keys steps [] plain.toList =
              exposeFrom keys steps' [] plain.toList := ih [] _ (by omega) (by omega)
          dsimp only
          rw [hinside]
          exact ih _ _ (by omega) (by omega)
        | none =>
          have htwo : (rest.drop 2).length ≤ rest.length := (List.drop_sublist _ _).length_le
          exact ih _ _ (by omega) (by omega)
      case isFalse => exact ih _ _ hrest hrest'

/-! ## One encrypted text -/

theorem expose_cons (key : String) (keys : List String) (s : String) :
    expose (key :: keys) s =
      String.ofList (exposeFrom (key :: keys) (s.toList.length + 1) [] s.toList) := by
  rw [String.length_toList]
  rfl

/-- What stands for an encrypted text whose plaintext is known. -/
def mark (keys : List String) (plain : String) : String :=
  "<enc:" ++ Json.escaped (expose keys plain) ++ ">"

theorem openWith?_text {key p : String} {x : Sealed} (h : Encloses key (Text.utf8 p) x) :
    openWith? [key] x.text.toList = some p := by
  have hkey : ¬ key.isEmpty = true := mt String.isEmpty_iff.mp (encloses_iff.mp h).1
  have hopen : decryptText x.text key = .ok p := Result.decryptText_eq (.text h)
  rw [openWith?, List.findSome?_cons, if_neg hkey, String.ofList_toList, hopen]
  rfl

/-- **What is exposed of an encrypted text is its plaintext**, whatever the nonce is. -/
theorem expose_text {key p : String} {x : Sealed} (h : Encloses key (Text.utf8 p) x) :
    expose [key] x.text = mark [key] p := by
  obtain ⟨rest, hrest⟩ : ∃ rest, x.text.toList = 'v' :: '1' :: '.' :: rest := ⟨_, toList_text x⟩
  have hopen := openWith?_text h
  have hshort := length_lt_of_openWith? hopen
  have htake := takeWhile_text x
  have hdrop := dropWhile_text x
  -- One step opens the text, and as many as its characters are left for the plaintext.
  obtain ⟨steps, hsteps⟩ := Nat.exists_eq_succ_of_ne_zero (Nat.ne_of_gt (Nat.zero_lt_of_lt hshort))
  have hinside : exposeFrom [key] (steps + 1) [] p.toList = (expose [key] p).toList := by
    rw [expose_cons, String.toList_ofList]
    rw [hsteps] at hshort
    exact exposeFrom_steps [key] [] _ hshort (Nat.lt_succ_self _)
  rw [expose_cons, hsteps]
  rw [hrest] at hopen htake hdrop ⊢
  rw [exposeFrom, if_pos ⟨rfl, rfl⟩]
  dsimp only
  rw [htake, hopen, hdrop]
  dsimp only
  rw [hinside, exposeFrom, List.reverseAux_eq, List.append_nil, List.reverse_reverse]
  refine String.toList_inj.mp ?_
  simp only [mark, String.toList_append, String.toList_ofList, String.ofList_toList]
  rfl

/-- **Two encryptions of one text are exposed alike.** -/
theorem expose_of_encrypt {key p a : String} {n n₁ : Nonces} (hkey : key ≠ "")
    (h : fieldCipher.encrypt p key n = .ok a n₁) : expose [key] a = mark [key] p := by
  rw [encrypt_of_ne hkey] at h
  obtain ⟨rfl, -⟩ := EStateM.Result.ok.inj h
  exact expose_text (encloses_enclose hkey _ _)

end Shroud.Sealed
