import SigningEngine.Context.Config
import SigningEngine.Native.Boundary
import SigningEngine.Text.Quoted

/-!
# Contexts of an engine

A context is what the engine created under a handle, with the values it reports about itself kept
from the first time they are asked for.

A FIPS context may fail its self test while it loads, so its creation is attempted several times. A
report at the last attempt that the context is not in FIPS mode ends creation under every policy.
-/

namespace SigningEngine

structure Context where
  handle : ContextHandle
  fips : Bool
  /-- The version, once it has been asked for with success. -/
  version : Option String := none
  /-- The install path, once it has been asked for with success. -/
  installPath : Option String := none
  deriving DecidableEq, Repr

namespace Context

variable {σ κ : Type} (boundary : Boundary σ κ)

/-- How many attempts there are at creating a context. -/
def attempts (fips : Bool) (config : ContextConfig) : Nat :=
  if fips then config.maxFipsAttempts.toNat else 1

/-- Makes up to `remaining` of all `attempts`. Without success, the last report is left. -/
def attemptCreation (fips : Bool) (attempts : Nat) :
    (remaining : Nat) → Option NativeError → Attempt σ (Except (Option NativeError) ContextHandle)
  | 0, last => return .error last
  | remaining + 1, _ => do
    let attempt := attempts - remaining
    match (← boundary.request (.createContext fips) : Except NativeError ContextHandle) with
    | .ok handle =>
      Attempt.log (.initialized attempt fips)
      return .ok handle
    | .error e =>
      if remaining = 0 && fips && e.isNotInFipsMode then
        Attempt.fail (.init e.message)
      Attempt.log (.initializationFailed attempt attempts fips e)
      attemptCreation fips attempts remaining (some e)

def exhaustedMessage (attempts : Nat) : Option NativeError → String
  | none => "gave up after " ++ toString attempts ++ " attempt(s)"
  | some e => "gave up after " ++ toString attempts ++ " attempt(s): " ++ e.message

/-- The handle to build a context on. -/
def obtainHandle (fips : Bool) (config : ContextConfig) : Attempt σ ContextHandle := do
  let attempts := attempts fips config
  match ← attemptCreation boundary fips attempts attempts none with
  | .ok handle => return handle
  | .error last =>
    match config.onExhaustedRetries with
    | .fail => Attempt.fail (.init (exhaustedMessage attempts last))
    | .invalidHandle =>
      Attempt.log (.attemptsExhausted attempts fips)
      return .invalid

/-- Checks the configuration, obtains a handle, and makes the validations asked for, the location
before the version. -/
def create (fips : Bool) (config : ContextConfig) : Attempt σ Context := do
  if let .error e := config.validate then
    Attempt.fail (.configuration e.message)
  let handle ← obtainHandle boundary fips config
  if config.validateLocation then
    (boundary.request (.validateLocation handle)).orError fun e =>
      .init ("library location validation failed: " ++ e.message)
  if config.validateVersion then
    (boundary.request (.validateVersion handle)).orError fun e =>
      .init ("library version validation failed: " ++ e.message)
  Attempt.log (.contextCreated fips handle)
  return { handle, fips }

/-- Creates a context as the environment configures it. -/
def createFromEnvironment (fips : Bool) (lookup : Lookup) : Attempt σ Context := do
  match ContextConfig.ofLookup lookup with
  | .ok config => create boundary fips config
  | .error e => Attempt.fail (.configuration e.message)

/-! ### Values that the engine reports -/

/-- The value kept in a cell, or else the one that `fetch` gives, to be kept from now on. A failed
fetch leaves the cell empty. -/
def fetchOnce (cell : Option String) (fetch : Attempt σ String) :
    Native σ (Except Failure String × Option String) := do
  match cell with
  | some value => return (.ok value, some value)
  | none =>
    match ← fetch.outcome with
    | .ok value => return (.ok value, some value)
    | .error failure => return (.error failure, none)

def fetchValue (context : Context) (value : EngineValue) : Attempt σ String := do
  Attempt.log (.valueRequested value context.handle)
  (boundary.request (.scalarValue context.handle value)).orError (.query value)

/-- The version of the engine. -/
def readVersion (context : Context) : Native σ (Except Failure String × Context) := do
  let (outcome, version) ← fetchOnce context.version (context.fetchValue boundary .version)
  return (outcome, { context with version })

/-- The install path of the engine. -/
def readInstallPath (context : Context) : Native σ (Except Failure String × Context) := do
  let (outcome, installPath) ←
    fetchOnce context.installPath (context.fetchValue boundary .installPath)
  return (outcome, { context with installPath })

/-- The truth value that an engine's report spells. -/
def approvedMode? (report : String) : Option Bool :=
  if report ∈ ["1", "true"] then some true
  else if report ∈ ["0", "false", ""] then some false
  else none

/-- Whether the engine is in FIPS approved mode now. This is asked anew each time. -/
def fipsApprovedMode (context : Context) : Attempt σ Bool := do
  let report ←
    (boundary.request (.scalarValue context.handle .fipsApprovedMode)).orError
      (.query .fipsApprovedMode)
  let word := Text.lower (Text.trim report)
  match approvedMode? word with
  | some approved => return approved
  | none =>
    Attempt.fail (.query .fipsApprovedMode
      ⟨"unexpected FIPS approved mode value " ++ Text.quoted word⟩)

/-- The build date of the library, which a process asks for once, whatever the engine. -/
def readBuildDate (cell : Option String) : Native σ (Except Failure String × Option String) :=
  fetchOnce cell do
    Attempt.log .buildDateRequested
    boundary.request .libraryBuildDate

/-! ### Texts -/

def text (context : Context) : String :=
  "EngineContext [isFIPS=" ++ toString context.fips ++ ", id=" ++ context.handle.text ++ "]"

def diagnostic (context : Context) : String :=
  "EngineContext \x7b handle: " ++ context.handle.diagnostic ++
    ", fips: " ++ toString context.fips ++
    ", version: " ++ Text.quotedOption context.version ++
    ", install_path: " ++ Text.quotedOption context.installPath ++ ", .. \x7d"

end Context

end SigningEngine
