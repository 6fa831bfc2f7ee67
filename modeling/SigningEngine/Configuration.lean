import SigningEngine.Environment
import SigningEngine.Text.Blank
import SigningEngine.Text.Case
import SigningEngine.Text.Numeral

/-!
# Settings from environment variables

Counts and flags are read with the blanks around them taken off, flags in any letter case. Both
configurations of this library share these readers, so they accept the same spellings.
-/

namespace SigningEngine

/-- Why a configuration is refused. -/
inductive ConfigError where
  | badCount (name : String) (fault : Text.NumeralError)
  | badFlag (name value : String)
  | unknownPolicy (value : String)
  | noAttempts
  deriving DecidableEq, Repr

namespace ConfigError

def message : ConfigError → String
  | badCount name fault => "Invalid " ++ name ++ ": " ++ fault.message
  | badFlag name value => "Invalid " ++ name ++ ": " ++ value ++ ". Expected true or false"
  | unknownPolicy value =>
    "Unknown retry exhaustion policy: " ++ value ++ ". Valid options: fail, invalid-handle"
  | noAttempts => "max_fips_attempts must be at least 1"

def text (e : ConfigError) : String := "Configuration error: " ++ e.message

end ConfigError

namespace Setting

def readCount (name value : String) : Except ConfigError UInt32 :=
  (Text.readUInt32 (Text.trim value)).mapError (.badCount name)

/-- A refused flag is reported trimmed and in lower case. -/
def readFlag (name value : String) : Except ConfigError Bool :=
  let word := Text.lower (Text.trim value)
  if word ∈ ["1", "true", "yes", "on"] then .ok true
  else if word ∈ ["0", "false", "no", "off"] then .ok false
  else .error (.badFlag name word)

/-- The setting that a variable gives, or `unset`. -/
def ofVariable (lookup : Lookup) (name : String) (unset : α)
    (read : String → String → Except ConfigError α) : Except ConfigError α :=
  match lookup name with
  | none => .ok unset
  | some value => read name value

end Setting

end SigningEngine
