import SigningEngine.Environment
import SigningEngine.Text.Blank
import SigningEngine.Text.Case

/-!
# How logging is set up

Levels and formats are read with the blanks around them taken off and in any case of the letters A
to Z; characters beyond those keep their case, also in the report of a refused word.
-/

namespace SigningEngine.Logging

inductive Level where
  | trace
  | debug
  | info
  | warn
  | error
  deriving DecidableEq, Repr

inductive Format where
  /-- Several lines an event. -/
  | pretty
  /-- One line an event. -/
  | compact
  | json
  deriving DecidableEq, Repr

inductive LoggingError where
  | alreadyInitialized
  | invalidFilter (directives reason : String)
  | unknownLevel (word : String)
  | unknownFormat (word : String)
  deriving DecidableEq, Repr

namespace LoggingError

def text : LoggingError → String
  | alreadyInitialized => "Logging is already initialized"
  | invalidFilter directives reason =>
    "Invalid log filter '" ++ directives ++ "': " ++ reason
  | unknownLevel word => "Invalid logging configuration: unknown log level '" ++ word ++ "'"
  | unknownFormat word => "Invalid logging configuration: unknown log format '" ++ word ++ "'"

end LoggingError

namespace Level

def name : Level → String
  | trace => "trace"
  | debug => "debug"
  | info => "info"
  | warn => "warn"
  | error => "error"

def read (s : String) : Except LoggingError Level :=
  let word := Text.lowerAscii (Text.trim s)
  if word = "trace" then .ok .trace
  else if word = "debug" then .ok .debug
  else if word = "info" then .ok .info
  else if word ∈ ["warn", "warning"] then .ok .warn
  else if word = "error" then .ok .error
  else .error (.unknownLevel word)

end Level

namespace Format

def read (s : String) : Except LoggingError Format :=
  let word := Text.lowerAscii (Text.trim s)
  if word = "pretty" then .ok .pretty
  else if word = "compact" then .ok .compact
  else if word = "json" then .ok .json
  else .error (.unknownFormat word)

end Format

structure Config where
  level : Level := .info
  format : Format := .pretty
  /-- Filter directives that follow the level. -/
  directives : Option String := none
  withThreadIds : Bool := false
  deriving DecidableEq, Repr

namespace Config

instance : Inhabited Config := ⟨{}⟩

/-- The configuration that an environment describes over the defaults. -/
def ofLookup (lookup : Lookup) : Except LoggingError Config := do
  let defaults : Config := {}
  let level ← ((lookup "ENGINE_LOG_LEVEL").map Level.read).getD (.ok defaults.level)
  let format ← ((lookup "ENGINE_LOG_FORMAT").map Format.read).getD (.ok defaults.format)
  return { level, format, directives := lookup "ENGINE_LOG_DIRECTIVES" }

end Config

end SigningEngine.Logging
