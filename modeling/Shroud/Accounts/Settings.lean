import Shroud.Accounts.Environment
import Shroud.Text.Blank
import Shroud.Text.Quoted

/-!
# Settings

The settings of the service come from the variables of its environment.  Texts are taken as they
are, a port and a switch are read from text, and what is absent has a default, except for the name
of the service.  Maps and sequences are no settings, and settings that cannot work are refused.
-/

set_option autoImplicit false

namespace Shroud

/-- The settings of the service. -/
structure Settings where
  serviceName : String
  logLevel : String
  listenPort : UInt16
  logEncryptionKey : Option String
  enableReveal : Bool
  deriving DecidableEq

/-- Why settings were refused. -/
inductive Settings.Refusal where
  /-- A setting is a map or a sequence; `wanted` says what it should be. -/
  | notAText (found wanted name : String)
  /-- The port is no number. -/
  | portNotANumber (text : String)
  /-- The port has more than 16 bits. -/
  | portTooLarge (n : Nat)
  /-- The switch is no truth value; its text is in lower case. -/
  | notASwitch (text : String)
  /-- The name of the service is absent. -/
  | nameMissing
  /-- A variable holds nothing but white space. -/
  | blank (name : String)
  | portZero
  /-- Texts may be revealed, but there is no key. -/
  | keyMissing
  deriving DecidableEq

namespace Settings

/-- The refusal in words. -/
def Refusal.message : Refusal → String
  | notAText found wanted name =>
    "failed to deserialise configuration: invalid type: " ++ found ++ ", expected " ++ wanted ++
      " for key `" ++ name ++ "`"
  | portNotANumber s =>
    "failed to deserialise configuration: invalid type: string " ++ Text.quoted s ++
      ", expected an integer for key `listen_port` in the environment"
  | portTooLarge n =>
    "failed to deserialise configuration: invalid type: 64-bit unsigned integer `" ++
      toString n ++ "`, expected an unsigned 16 bit integer for key `listen_port`"
  | notASwitch s =>
    "failed to deserialise configuration: invalid type: string " ++ Text.quoted s ++
      ", expected a boolean for key `enable_reveal` in the environment"
  | nameMissing => "failed to deserialise configuration: missing field `service_name`"
  | blank name => name ++ " is required and must not be empty"
  | portZero => "LISTEN_PORT must be > 0"
  | keyMissing => "ENABLE_REVEAL requires LOG_ENCRYPTION_KEY to be set"

/-! ## Reading -/

/-- The words that turn a switch on. -/
def yesWords : List String := ["true", "on", "yes"]

/-- The words that turn a switch off. -/
def noWords : List String := ["false", "off", "no"]

/-- The number that a text stands for; words of consent and refusal are 1 and 0. -/
def readNumber? (s : String) : Option Nat :=
  let word := Text.lowercase s
  if word ∈ yesWords then some 1 else if word ∈ noWords then some 0 else Text.wordOf? word.toList

/-- A port. -/
def readPort (s : String) : Except Refusal UInt16 :=
  match readNumber? s with
  | none => .error (.portNotANumber s)
  | some n => if n < 65536 then .ok (UInt16.ofNat n) else .error (.portTooLarge n)

/-- A switch. -/
def readSwitch (s : String) : Except Refusal Bool :=
  let word := Text.lowercase s
  if word = "1" ∨ word ∈ yesWords then .ok true
  else if word = "0" ∨ word ∈ noWords then .ok false
  else .error (.notASwitch word)

/-- The text of a setting, if it is there; `wanted` says what it should be. -/
def textOf? (env : Environment) (name wanted : String) : Except Refusal (Option String) :=
  match env.get? name with
  | none => .ok none
  | some (.text s) => .ok (some s)
  | some .map => .error (.notAText "map" wanted name)
  | some .sequence => .error (.notAText "sequence" wanted name)

/-- The settings of an environment, not yet validated. -/
def read (env : Environment) : Except Refusal Settings := do
  let name ← textOf? env "service_name" "a string"
  let level ← textOf? env "log_level" "a string"
  let key ← textOf? env "log_encryption_key" "a string"
  let port ← match ← textOf? env "listen_port" "an integer" with
    | some s => readPort s
    | none => .ok 8080
  let reveal ← match ← textOf? env "enable_reveal" "a boolean" with
    | some s => readSwitch s
    | none => .ok false
  match name with
  | none => .error .nameMissing
  | some name => return ⟨name, level.getD "info", port, key, reveal⟩

/-! ## Validation -/

/-- The key of the log: one that is blank counts as none. -/
def logKey? (s : Settings) : Option String := s.logEncryptionKey.filter fun k ↦ !Text.isBlank k

/-- The settings, unless they cannot work. -/
def validate (s : Settings) : Except Refusal Settings :=
  if Text.isBlank s.serviceName then .error (.blank "SERVICE_NAME")
  else if Text.isBlank s.logLevel then .error (.blank "LOG_LEVEL")
  else if s.listenPort = 0 then .error .portZero
  else if s.enableReveal ∧ s.logKey?.isNone then .error .keyMissing
  else .ok s

/-- The settings of an environment. -/
def load (env : Environment) : Except Refusal Settings := do validate (← read env)

/-- What a diagnostic shows of the settings: everything but the key. -/
def diagnostic (s : Settings) : String :=
  let key := if s.logEncryptionKey.isSome then "Some(\"[REDACTED]\")" else "None"
  "Config \x7b service_name: " ++ Text.quoted s.serviceName ++
    ", log_level: " ++ Text.quoted s.logLevel ++
    ", listen_port: " ++ toString s.listenPort.toNat ++
    ", log_encryption_key: " ++ key ++
    ", enable_reveal: " ++ (if s.enableReveal then "true" else "false") ++ " \x7d"

end Settings

end Shroud
