import Shroud.Accounts.Settings
import Shroud.Proofs.Accounts.Environment
import Shroud.Proofs.Accounts.Exchange
import Shroud.Proofs.Value.Json

/-!
# What settings are accepted

Settings are loaded exactly if each of them can be read (`Settings.ReadFrom`) and all of them
together can work (`Settings.Usable`).  From this follow the two main statements.

* `Settings.load_usable`: settings of an ordinary environment keep the spelling of their texts, they
  have a key if they let texts be revealed, and what can never work is refused.
* `Settings.load_port`: no port wraps.  A decimal number becomes the port that it is, or is refused.
-/

set_option autoImplicit false

namespace Shroud

/-! ## Decimal numbers -/

namespace Text

/-- The text is a decimal number: digits, possibly after a sign. -/
inductive IsDecimal (s : String) : Int → Prop where
  | plain {n : Nat} (h : natOfDigits? s.toList = some n) : IsDecimal s n
  | plus {ds : List Char} {n : Nat} (hs : s.toList = '+' :: ds) (h : natOfDigits? ds = some n) :
      IsDecimal s n
  | minus {ds : List Char} {n : Nat} (hs : s.toList = '-' :: ds) (h : natOfDigits? ds = some n) :
      IsDecimal s (-n)

theorem isDigit_of_natOfDigits? {ds : List Char} {n : Nat} (h : natOfDigits? ds = some n) :
    ∀ c ∈ ds, c.isDigit = true := by
  rw [natOfDigits?] at h
  split at h
  case isTrue => cases h
  case isFalse hds =>
    simp only [Bool.or_eq_true, Bool.not_eq_true', not_or, Bool.not_eq_false, List.all_eq_true]
      at hds
    exact hds.2

/-- The number of some digits is read if it fits into eight bytes. -/
theorem filter_natOfDigits? {ds : List Char} {n : Nat} (h : natOfDigits? ds = some n) :
    ((natOfDigits? ds).filter fun n ↦ n ≤ greatestWord) =
      if n ≤ greatestWord then some n else none := by
  rw [h, Option.filter_some]
  simp only [decide_eq_true_eq]

theorem wordOf?_of_digits {ds : List Char} {n : Nat} (h : natOfDigits? ds = some n) :
    wordOf? ds = if n ≤ greatestWord then some n else none := by
  rw [wordOf?, filter_natOfDigits? h]
  rintro rest rfl
  exact absurd (isDigit_of_natOfDigits? h '+' List.mem_cons_self) (by decide)

theorem wordOf?_of_plus {ds : List Char} {n : Nat} (h : natOfDigits? ds = some n) :
    wordOf? ('+' :: ds) = if n ≤ greatestWord then some n else none := by
  rw [wordOf?, filter_natOfDigits? h]

theorem wordOf?_of_minus (ds : List Char) : wordOf? ('-' :: ds) = none := by
  rw [wordOf?, natOfDigits?, if_pos]
  · rfl
  · have hminus : '-'.isDigit = false := by decide
    simp [hminus]
  · intro rest h
    exact absurd (List.cons.inj h).1 (by decide)

/-- All characters of a decimal number come before `A`. -/
theorem IsDecimal.lt {s : String} {n : Int} (h : IsDecimal s n) :
    ∀ c ∈ s.toList, c.toNat < 0x41 := by
  have hdigit {c : Char} (hc : c.isDigit = true) : c.toNat < 0x41 := by
    simp only [Char.isDigit, Bool.and_eq_true, decide_eq_true_eq] at hc
    have hle : c.toNat ≤ '9'.toNat := hc.2
    exact Nat.lt_of_le_of_lt hle (by decide)
  cases h with
  | plain h => exact fun c hc ↦ hdigit (isDigit_of_natOfDigits? h c hc)
  | plus hs h | minus hs h =>
    rw [hs]
    exact List.forall_mem_cons.mpr ⟨by decide, fun c hc ↦ hdigit (isDigit_of_natOfDigits? h c hc)⟩

end Text

namespace Settings

/-- A decimal number is none of the words, and is read as a number. -/
theorem readNumber?_of_isDecimal {text : String} {n : Int} (h : Text.IsDecimal text n) :
    readNumber? text = Text.wordOf? text.toList := by
  have hwords : ((yesWords ++ noWords).all fun word ↦
      word.toList.any fun c ↦ 0x41 ≤ c.toNat) = true := by decide
  have hno : text ∉ yesWords ++ noWords := by
    intro hmem
    obtain ⟨c, hc, hle⟩ := List.any_eq_true.mp (List.all_eq_true.mp hwords text hmem)
    exact absurd (h.lt c hc) (Nat.not_lt.mpr (of_decide_eq_true hle))
  rw [List.mem_append, not_or] at hno
  rw [readNumber?, Text.lowercase_eq_self h.lt, if_neg hno.1, if_neg hno.2]

/-- The refusal is about the port: what was given is no number of eight bytes, or it is too large
for a port, or it is zero. -/
def RefusesPort (text : String) (n : Int) (r : Refusal) : Prop :=
  r = .portNotANumber text ∨ r = .portTooLarge n.toNat ∨ r = .portZero

theorem readPort_of_number {text : String} {n : Nat}
    (h : readNumber? text = if n ≤ Text.greatestWord then some n else none) :
    (n < 65536 ∧ readPort text = .ok (UInt16.ofNat n)) ∨
      (65536 ≤ n ∧ ∃ r, readPort text = .error r ∧ RefusesPort text n r) := by
  rw [readPort, h]
  by_cases hword : n ≤ Text.greatestWord
  · rw [if_pos hword]
    by_cases hport : n < 65536
    · exact .inl ⟨hport, if_pos hport⟩
    · exact .inr ⟨Nat.le_of_not_lt hport, _, if_neg hport, .inr (.inl rfl)⟩
  · rw [if_neg hword]
    have hlarge : 65536 ≤ n := Nat.le_trans (by decide) (Nat.le_of_not_le hword)
    exact .inr ⟨hlarge, _, rfl, .inl rfl⟩

/-- A decimal number is read as the port that it is, or refused. -/
theorem readPort_of_isDecimal {text : String} {n : Int} (h : Text.IsDecimal text n) :
    (0 ≤ n ∧ n ≤ 65535 ∧ readPort text = .ok (UInt16.ofNat n.toNat)) ∨
      (¬ (1 ≤ n ∧ n ≤ 65535) ∧ ∃ r, readPort text = .error r ∧ RefusesPort text n r) := by
  have hnumber := readNumber?_of_isDecimal h
  -- with or without a plus sign, the digits are read alike
  have hcases {m : Nat} (hm : n = m)
      (hword : Text.wordOf? text.toList = if m ≤ Text.greatestWord then some m else none) :
      (0 ≤ n ∧ n ≤ 65535 ∧ readPort text = .ok (UInt16.ofNat n.toNat)) ∨
        (¬ (1 ≤ n ∧ n ≤ 65535) ∧ ∃ r, readPort text = .error r ∧ RefusesPort text n r) := by
    subst hm
    rcases readPort_of_number (hnumber.trans hword) with ⟨hlt, hread⟩ | ⟨hle, hread⟩
    · exact .inl ⟨by omega, by omega, hread⟩
    · exact .inr ⟨by omega, hread⟩
  cases h with
  | plain h => exact hcases rfl (Text.wordOf?_of_digits h)
  | plus hs h => exact hcases rfl (hs ▸ Text.wordOf?_of_plus h)
  | minus hs h =>
    have hnone : readPort text = .error (.portNotANumber text) := by
      rw [readPort, hnumber, hs, Text.wordOf?_of_minus]
    exact .inr ⟨by omega, _, hnone, .inl rfl⟩

variable {env : Environment} {s t base : Settings} {r : Refusal}

/-! ## Reading -/

/-- The port of an environment. -/
def portOf (env : Environment) : Except Refusal UInt16 := do
  match ← textOf? env "listen_port" "an integer" with
  | some s => readPort s
  | none => .ok 8080

/-- The switch of an environment for revealing. -/
def switchOf (env : Environment) : Except Refusal Bool := do
  match ← textOf? env "enable_reveal" "a boolean" with
  | some s => readSwitch s
  | none => .ok false

theorem read_eq (env : Environment) : read env = (do
    let name ← textOf? env "service_name" "a string"
    let level ← textOf? env "log_level" "a string"
    let key ← textOf? env "log_encryption_key" "a string"
    let port ← portOf env
    let reveal ← switchOf env
    match name with
    | none => .error .nameMissing
    | some name => return ⟨name, level.getD "info", port, key, reveal⟩) := by
  -- the reader goes on within each branch; the branches are joined again here
  rw [Settings.read, portOf, switchOf]
  rcases textOf? env "listen_port" "an integer" with e | (_ | port)
  all_goals rcases textOf? env "enable_reveal" "a boolean" with e' | (_ | reveal)
  all_goals rfl

/-- Each of the settings is read from the environment. -/
structure ReadFrom (env : Environment) (s : Settings) : Prop where
  name : textOf? env "service_name" "a string" = .ok (some s.serviceName)
  level : ∃ level, textOf? env "log_level" "a string" = .ok level ∧ s.logLevel = level.getD "info"
  key : textOf? env "log_encryption_key" "a string" = .ok s.logEncryptionKey
  port : portOf env = .ok s.listenPort
  reveal : switchOf env = .ok s.enableReveal

theorem read_eq_ok_iff : read env = .ok s ↔ ReadFrom env s := by
  rw [read_eq]
  constructor
  · intro h
    obtain ⟨name, hname, h⟩ := exists_of_except_bind h
    obtain ⟨level, hlevel, h⟩ := exists_of_except_bind h
    obtain ⟨key, hkey, h⟩ := exists_of_except_bind h
    obtain ⟨port, hport, h⟩ := exists_of_except_bind h
    obtain ⟨reveal, hreveal, h⟩ := exists_of_except_bind h
    cases name with
    | none => cases h
    | some name =>
      obtain rfl := Except.ok.inj h
      exact ⟨hname, ⟨level, hlevel, rfl⟩, hkey, hport, hreveal⟩
  · rintro ⟨hname, ⟨level, hlevel, hlogLevel⟩, hkey, hport, hreveal⟩
    rw [hname, hlevel, hkey, hport, hreveal]
    obtain ⟨name, logLevel, port, key, reveal⟩ := s
    subst hlogLevel
    rfl

/-! ## Validation -/

/-- Settings that can work: the name and the level are not blank, the port is not zero, and there is
a key if texts may be revealed. -/
structure Usable (s : Settings) : Prop where
  name : Text.isBlank s.serviceName = false
  level : Text.isBlank s.logLevel = false
  port : s.listenPort ≠ 0
  key : s.enableReveal = true → s.logKey? ≠ none

theorem ite_error_eq_ok_iff {ε α : Type} {c : Prop} [Decidable c] {e : ε} {x : Except ε α} {a : α} :
    (if c then .error e else x) = .ok a ↔ ¬ c ∧ x = .ok a := by
  by_cases h : c
  · rw [if_pos h]
    exact iff_of_false nofun fun h' ↦ h'.1 h
  · rw [if_neg h, and_iff_right h]

theorem validate_eq_ok_iff : validate s = .ok t ↔ s.Usable ∧ t = s := by
  rw [validate, ite_error_eq_ok_iff, ite_error_eq_ok_iff, ite_error_eq_ok_iff,
    ite_error_eq_ok_iff, Except.ok.injEq, Bool.not_eq_true, Bool.not_eq_true, not_and,
    Option.isNone_iff_eq_none]
  constructor
  · rintro ⟨hname, hlevel, hport, hkey, rfl⟩
    exact ⟨⟨hname, hlevel, hport, hkey⟩, rfl⟩
  · rintro ⟨⟨hname, hlevel, hport, hkey⟩, rfl⟩
    exact ⟨hname, hlevel, hport, hkey, rfl⟩

theorem load_eq_ok_iff : load env = .ok s ↔ ReadFrom env s ∧ s.Usable := by
  rw [load, ← read_eq_ok_iff]
  constructor
  · intro h
    obtain ⟨t, ht, h⟩ := exists_of_except_bind h
    obtain ⟨husable, rfl⟩ := validate_eq_ok_iff.mp h
    exact ⟨ht, husable⟩
  · rintro ⟨hread, husable⟩
    rw [hread]
    exact validate_eq_ok_iff.mpr ⟨husable, rfl⟩

/-! ## The port -/

section

variable {text : String} {n : Int} {p : UInt16}

theorem textOf?_without (env : Environment) {name other : String} (h : name ≠ other)
    (wanted : String) : textOf? (env.without other) name wanted = textOf? env name wanted := by
  rw [textOf?, textOf?, Environment.get?_without_of_ne env h]

/-- With another port, the other settings are the same. -/
theorem ReadFrom.withPort (h : ReadFrom (env.without "listen_port") base)
    (hport : portOf env = .ok p) : ReadFrom env { base with listenPort := p } := by
  obtain ⟨hname, hlevel, hkey, -, hreveal⟩ := h
  rw [switchOf] at hreveal
  rw [textOf?_without env (by decide)] at hname hkey hreveal
  simp only [textOf?_without env (show "log_level" ≠ "listen_port" by decide)] at hlevel
  exact ⟨hname, hlevel, hkey, hport, hreveal⟩

theorem ReadFrom.read_of_port_error (h : ReadFrom (env.without "listen_port") base)
    (hport : portOf env = .error r) : read env = .error r := by
  obtain ⟨hname, ⟨level, hlevel, -⟩, hkey, -, -⟩ := h
  rw [textOf?_without env (by decide)] at hname hlevel hkey
  rw [read_eq, hname, hlevel, hkey, hport]
  rfl

theorem portOf_of_get? (h : env.get? "listen_port" = some (.text text)) :
    portOf env = readPort text := by
  have htext : textOf? env "listen_port" "an integer" = .ok (some text) := by rw [textOf?, h]
  rw [portOf, htext]
  rfl

theorem toNat_ofNat_port {n : Int} (hle : 0 ≤ n) (hlt : n ≤ 65535) :
    ((UInt16.ofNat n.toNat).toNat : Int) = n := by
  rw [UInt16.toNat_ofNat']
  omega

/-- Usable settings stay usable with another port, unless it is zero. -/
theorem load_of_port (hread : ReadFrom (env.without "listen_port") base) (husable : base.Usable)
    (hport : portOf env = .ok p) :
    load env = if p = 0 then .error .portZero else .ok { base with listenPort := p } := by
  have hread := read_eq_ok_iff.mpr (hread.withPort hport)
  by_cases hp : p = 0
  · rw [if_pos hp, load, hread]
    show validate { base with listenPort := p } = _
    rw [validate, if_neg (by simp [husable.name]), if_neg (by simp [husable.level]), if_pos hp]
  · rw [if_neg hp, load, hread]
    exact validate_eq_ok_iff.mpr ⟨⟨husable.name, husable.level, hp, husable.key⟩, rfl⟩

theorem load_port_cases (hport : env.get? "listen_port" = some (.text text))
    (hn : Text.IsDecimal text n) (hbase : load (env.without "listen_port") = .ok base) :
    (1 ≤ n ∧ n ≤ 65535 ∧ load env = .ok { base with listenPort := UInt16.ofNat n.toNat }) ∨
      (¬ (1 ≤ n ∧ n ≤ 65535) ∧ ∃ r, load env = .error r ∧ RefusesPort text n r) := by
  obtain ⟨hread, husable⟩ := load_eq_ok_iff.mp hbase
  rcases readPort_of_isDecimal hn with ⟨hle, hlt, hok⟩ | ⟨hout, r, herror, hr⟩
  · have hload := load_of_port hread husable ((portOf_of_get? hport).trans hok)
    have hnat := toNat_ofNat_port hle hlt
    -- zero is read as a port, and is refused afterwards
    by_cases hzero : UInt16.ofNat n.toNat = 0
    · rw [if_pos hzero] at hload
      rw [hzero, UInt16.toNat_zero] at hnat
      exact .inr ⟨by omega, _, hload, .inr (.inr rfl)⟩
    · rw [if_neg hzero] at hload
      have hpos : n ≠ 0 := by
        rintro rfl
        exact hzero rfl
      exact .inl ⟨by omega, hlt, hload⟩
  · have hload := hread.read_of_port_error ((portOf_of_get? hport).trans herror)
    refine .inr ⟨hout, r, ?_, hr⟩
    rw [load, hload]
    rfl

/-- **No port wraps.**  Let an environment hold a decimal number `n` as the port, whatever its size
and its sign are, and let it be accepted apart from its port.  Then it is accepted exactly if
`1 ≤ n ≤ 65535`.  The settings are then the others with the port `n`, and otherwise the refusal is
about the port. -/
theorem load_port (hport : env.get? "listen_port" = some (.text text))
    (hn : Text.IsDecimal text n) (hbase : load (env.without "listen_port") = .ok base) :
    ((∃ s, load env = .ok s) ↔ 1 ≤ n ∧ n ≤ 65535) ∧
      (∀ s, load env = .ok s →
        s = { base with listenPort := s.listenPort } ∧ (s.listenPort.toNat : Int) = n) ∧
      ∀ r, load env = .error r → RefusesPort text n r := by
  rcases load_port_cases hport hn hbase with ⟨hle, hlt, hload⟩ | ⟨hout, r, hload, hr⟩
  · rw [hload]
    refine ⟨iff_of_true ⟨_, rfl⟩ ⟨hle, hlt⟩, ?_, nofun⟩
    intro s hs
    obtain rfl := Except.ok.inj hs
    exact ⟨rfl, toNat_ofNat_port (by omega) hlt⟩
  · rw [hload]
    refine ⟨iff_of_false nofun hout, nofun, ?_⟩
    intro r' hr'
    obtain rfl := Except.error.inj hr'
    exact hr

/-- An environment with a name for the service and a port. -/
def servingAt (port : String) : Environment := [("SERVICE_NAME", "svc"), ("Listen_Port", port)]

/-- A number that would wrap to 80 is refused, and the greatest port may be written at length. -/
theorem load_port_at_the_border :
    (¬ ∃ s, load (servingAt "65616") = .ok s) ∧ ∃ s, load (servingAt "+0065535") = .ok s := by
  constructor
  · have hdigits : Text.natOfDigits? "65616".toList = some 65616 := by decide
    have hport : (servingAt "65616").get? "listen_port" = some (.text "65616") := by
      decide +kernel
    have hbase : load ((servingAt "65616").without "listen_port") =
        .ok ⟨"svc", "info", 8080, none, false⟩ := by decide +kernel
    intro h
    exact absurd ((load_port hport (.plain hdigits) hbase).1.mp h) (by decide)
  · have hdigits : Text.natOfDigits? "0065535".toList = some 65535 := by decide
    have hport : (servingAt "+0065535").get? "listen_port" = some (.text "+0065535") := by
      decide +kernel
    have hbase : load ((servingAt "+0065535").without "listen_port") =
        .ok ⟨"svc", "info", 8080, none, false⟩ := by decide +kernel
    exact (load_port hport (.plus rfl hdigits) hbase).1.mpr (by decide)

end

/-! ## Texts and the key -/

/-- Each text in the settings is, character for character, that of the variable with its name, and
the level is `info` where there is no such variable. -/
structure SpelledIn (env : Environment) (s : Settings) : Prop where
  name : env.named? "service_name" = some s.serviceName
  level : s.logLevel = (env.named? "log_level").getD "info"
  key : s.logEncryptionKey = env.named? "log_encryption_key"

/-- The variable is absent or blank. -/
def Missing (env : Environment) (name : String) : Prop :=
  ∀ text, env.named? name = some text → Text.isBlank text = true

/-- The environment can never be accepted: the name of the service is absent or blank, or the level
is there but blank, or texts may be revealed but the key is absent or blank. -/
inductive Hopeless (env : Environment) : Prop where
  | name (h : Missing env "service_name")
  | level {text : String} (h : env.named? "log_level" = some text)
      (hblank : Text.isBlank text = true)
  | key {text : String} (h : env.named? "enable_reveal" = some text)
      (hon : readSwitch text = .ok true) (hkey : Missing env "log_encryption_key")

/-- In an ordinary environment every setting is a text, if it is there. -/
theorem textOf?_of_ordinary (h : env.Ordinary) {name : String}
    (hname : name.toList.all Variable.isNameChar = true) (wanted : String) :
    textOf? env name wanted = .ok (env.named? name) := by
  rw [textOf?, h.get?_eq hname]
  cases env.named? name <;> rfl

theorem ReadFrom.spelledIn (h : env.Ordinary) (hread : ReadFrom env s) : s.SpelledIn env := by
  obtain ⟨hname, ⟨level, hlevel, hlogLevel⟩, hkey, -, -⟩ := hread
  rw [textOf?_of_ordinary h (by decide)] at hname hlevel hkey
  obtain rfl := Except.ok.inj hlevel
  exact ⟨Except.ok.inj hname, hlogLevel, (Except.ok.inj hkey).symm⟩

theorem switchOf_of_ordinary (h : env.Ordinary) {text : String}
    (htext : env.named? "enable_reveal" = some text) : switchOf env = readSwitch text := by
  rw [switchOf, textOf?_of_ordinary h (by decide), htext]
  rfl

/-- The key is the text of its variable, unless this text is blank. -/
theorem SpelledIn.logKey?_eq_some_iff (h : SpelledIn env s) {k : String} :
    s.logKey? = some k ↔ env.named? "log_encryption_key" = some k ∧
      ∃ c ∈ k.toList, Text.isBlankChar c = false := by
  rw [logKey?, Option.filter_eq_some_iff, h.key, Text.isBlank]
  simp

theorem Hopeless.ne_ok (h : env.Ordinary) (hopeless : Hopeless env) (s : Settings) :
    load env ≠ .ok s := by
  intro hload
  obtain ⟨hread, husable⟩ := load_eq_ok_iff.mp hload
  have hspelled := hread.spelledIn h
  cases hopeless with
  | name hmissing =>
    have hblank := hmissing _ hspelled.name
    rw [husable.name] at hblank
    cases hblank
  | @level text htext hblank =>
    have hlevel := hspelled.level
    rw [htext, Option.getD_some] at hlevel
    rw [← hlevel, husable.level] at hblank
    cases hblank
  | @key text htext hon hmissing =>
    have hreveal := hread.reveal
    rw [switchOf_of_ordinary h htext, hon] at hreveal
    obtain ⟨k, hk⟩ := Option.ne_none_iff_exists'.mp (husable.key (Except.ok.inj hreveal).symm)
    obtain ⟨hnamed, c, hc, hblank⟩ := hspelled.logKey?_eq_some_iff.mp hk
    rw [(Text.isBlank_iff k).mp (hmissing k hnamed) c hc] at hblank
    cases hblank

/-- **Accepted settings can work and keep the spelling of their texts.**  When an ordinary
environment is accepted, the settings are usable and their texts are those of the variables.  The
key is the text of its variable, to the character, exactly if one of these characters is not white
space.  So a service that takes its key and its switch from the settings never answers that it has
no key to reveal with, whatever else it is and whatever is asked.  A hopeless environment is
refused. -/
theorem load_usable (h : env.Ordinary) :
    (∀ s, load env = .ok s →
      s.Usable ∧ s.SpelledIn env ∧
      (∀ k, s.logKey? = some k ↔ env.named? "log_encryption_key" = some k ∧
        ∃ c ∈ k.toList, Text.isBlankChar c = false) ∧
      ∀ (server : Accounts.Server) (c : Accounts.Circumstances) (q : Accounts.Request)
        (n : Nonces), server.revealEnabled = s.enableReveal →
        server.logKey = s.logKey?.map LogKey.mk →
        (server.serve c q n).1.response.status ≠ 503) ∧
    (Hopeless env → ∃ r, load env = .error r) := by
  refine ⟨fun s hload ↦ ?_, fun hopeless ↦ ?_⟩
  · obtain ⟨hread, husable⟩ := load_eq_ok_iff.mp hload
    have hspelled := hread.spelledIn h
    refine ⟨husable, hspelled, fun k ↦ hspelled.logKey?_eq_some_iff, ?_⟩
    intro server c q n henabled hkey
    refine server.status_serve_ne_503 (fun hserver ↦ ?_) c q n
    rw [hkey]
    exact mt Option.map_eq_none_iff.mp (husable.key (henabled.symm.trans hserver))
  · cases hload : load env with
    | ok s => exact absurd hload (hopeless.ne_ok h s)
    | error r => exact ⟨r, rfl⟩

/-- An environment with a key that looks like a number. -/
def numericKey : Environment :=
  [("Service_Name", "svc"), ("LOG_ENCRYPTION_KEY", "00123456"), ("ENABLE_REVEAL", "YES")]

theorem load_usable_numericKey :
    load numericKey = .ok ⟨"svc", "info", 8080, some "00123456", true⟩ ∧
      (⟨"svc", "info", 8080, some "00123456", true⟩ : Settings).logKey? = some "00123456" ∧
      ∃ r, load [("SERVICE_NAME", "svc"), ("LOG_LEVEL", "\u2003")] = .error r := by
  have hordinary : numericKey.Ordinary := ⟨by decide, by decide +kernel⟩
  have hload : load numericKey = .ok ⟨"svc", "info", 8080, some "00123456", true⟩ := by
    decide +kernel
  obtain ⟨-, -, hkey, -⟩ := (load_usable hordinary).1 _ hload
  have hblank : Environment.Ordinary [("SERVICE_NAME", "svc"), ("LOG_LEVEL", "\u2003")] :=
    ⟨by decide, by decide +kernel⟩
  have hlevel : Environment.named? [("SERVICE_NAME", "svc"), ("LOG_LEVEL", "\u2003")]
      "log_level" = some "\u2003" := by decide +kernel
  refine ⟨hload, (hkey _).mpr ⟨by decide +kernel, '0', by decide, by decide⟩, ?_⟩
  exact (load_usable hblank).2 (.level hlevel (by decide))

end Settings

end Shroud
