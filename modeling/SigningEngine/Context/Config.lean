import SigningEngine.Configuration
import SigningEngine.Json.Record

/-!
# How contexts are created

A context configuration bounds the attempts at creating a FIPS context, says which validations of
the library follow, and what happens when every attempt fails.
-/

namespace SigningEngine

/-- What happens when every attempt failed without the engine reporting, at the last one, that it
is not in FIPS mode. -/
inductive RetryExhaustion where
  /-- Creation fails with the last report. -/
  | fail
  /-- The context is built on the invalid handle. -/
  | invalidHandle
  deriving DecidableEq, Repr

namespace RetryExhaustion

/-- The name in documents. -/
def name : RetryExhaustion → String
  | fail => "fail"
  | invalidHandle => "invalid-handle"

def ofName? (s : String) : Option RetryExhaustion :=
  if s = "fail" then some .fail else if s = "invalid-handle" then some .invalidHandle else none

/-- Each policy has several spellings, in any letter case; a refused one is reported as given. -/
def read (s : String) : Except ConfigError RetryExhaustion :=
  let word := Text.lower s
  if word ∈ ["fail", "error"] then .ok .fail
  else if word ∈ ["invalid-handle", "invalid_handle", "legacy"] then .ok .invalidHandle
  else .error (.unknownPolicy s)

/-- In a document the policy is its name, or an object with that name as its one key and no
value. -/
def ofJson? : Json → Option RetryExhaustion
  | .string (some s) => ofName? s
  | .object [(some s, .null)] => ofName? s
  | _ => none

end RetryExhaustion

/-- Which validations are made by default is chosen when the library is built. The defaults here are
those of the default build, which validates the location and not the version. -/
structure ContextConfig where
  maxFipsAttempts : UInt32 := 10
  validateLocation : Bool := true
  validateVersion : Bool := false
  onExhaustedRetries : RetryExhaustion := .fail
  deriving DecidableEq, Repr

namespace ContextConfig

instance : Inhabited ContextConfig := ⟨{}⟩

def withoutValidation (config : ContextConfig) : ContextConfig :=
  { config with validateLocation := false, validateVersion := false }

def validate (config : ContextConfig) : Except ConfigError Unit :=
  if config.maxFipsAttempts = 0 then .error .noAttempts else .ok ()

/-- The configuration that an environment describes over the defaults. -/
def ofLookup (lookup : Lookup) : Except ConfigError ContextConfig := do
  let defaults : ContextConfig := {}
  let maxFipsAttempts ←
    Setting.ofVariable lookup "ENGINE_MAX_FIPS_ATTEMPTS" defaults.maxFipsAttempts
      Setting.readCount
  let validateLocation ←
    Setting.ofVariable lookup "ENGINE_VALIDATE_LOCATION" defaults.validateLocation
      Setting.readFlag
  let validateVersion ←
    Setting.ofVariable lookup "ENGINE_VALIDATE_VERSION" defaults.validateVersion
      Setting.readFlag
  let onExhaustedRetries ←
    Setting.ofVariable lookup "ENGINE_ON_EXHAUSTED_RETRIES" defaults.onExhaustedRetries
      fun _ value => RetryExhaustion.read (Text.trim value)
  let config : ContextConfig :=
    { maxFipsAttempts, validateLocation, validateVersion, onExhaustedRetries }
  config.validate
  return config

def jsonFields : List (Json.Field ContextConfig) :=
  [.of "max_fips_attempts" Json.uint32? fun v c => { c with maxFipsAttempts := v },
    .of "validate_location" Json.bool? fun v c => { c with validateLocation := v },
    .of "validate_version" Json.bool? fun v c => { c with validateVersion := v },
    .of "on_exhausted_retries" RetryExhaustion.ofJson? fun v c =>
      { c with onExhaustedRetries := v }]

def ofJson? (document : Json) : Option ContextConfig := Json.readRecord jsonFields {} document

def toJson (config : ContextConfig) : Json :=
  .record [("max_fips_attempts", .nat config.maxFipsAttempts.toNat),
    ("validate_location", .bool config.validateLocation),
    ("validate_version", .bool config.validateVersion),
    ("on_exhausted_retries", .text config.onExhaustedRetries.name)]

end ContextConfig

end SigningEngine
