import SigningEngine.Error

/-!
# Log events

An event says what happened. Its level, its message and the text of its fields follow from that, so
what an event can reveal is what its constructor carries: handles, flags, counts, names and reports
of the engine, and neither key material nor message bytes.
-/

namespace SigningEngine

inductive Event where
  | initialized (attempt : Nat) (fips : Bool)
  | initializationFailed (attempt attempts : Nat) (fips : Bool) (error : NativeError)
  | attemptsExhausted (attempts : Nat) (fips : Bool)
  | contextCreated (fips : Bool) (handle : ContextHandle)
  | valueRequested (value : EngineValue) (handle : ContextHandle)
  | buildDateRequested
  | digestNotFreed (algorithm : String) (handle : DigestHandle) (error : NativeError)
  | signatureInitialized (algorithm digest : String) (plainRsa : Bool)
  | resetFailedAfterFailure (operation : String) (error : EngineError)
  | resetFailedUnwinding (error : EngineError)
  | softwareContextCreated (handle : UInt64) (fips : Bool)
  deriving DecidableEq, Repr

/-- The levels at which events are logged. -/
inductive EventLevel where
  | debug
  | info
  | warn
  deriving DecidableEq, Repr

namespace EventLevel

def name : EventLevel → String
  | debug => "DEBUG"
  | info => "INFO"
  | warn => "WARN"

end EventLevel

namespace Event

def level : Event → EventLevel
  | initialized .. | valueRequested .. | buildDateRequested | signatureInitialized ..
  | softwareContextCreated .. => .debug
  | contextCreated .. => .info
  | initializationFailed .. | attemptsExhausted .. | digestNotFreed ..
  | resetFailedAfterFailure .. | resetFailedUnwinding .. => .warn

def message : Event → String
  | initialized .. => "native engine initialized"
  | initializationFailed .. => "native engine initialization failed"
  | attemptsExhausted .. =>
    "engine initialization exhausted; continuing with an invalid context handle"
  | contextCreated .. => "engine context created"
  | valueRequested .. => "fetching engine value"
  | buildDateRequested => "fetching native library build date"
  | digestNotFreed .. => "failed to free native digest"
  | signatureInitialized .. => "signature initialized"
  | resetFailedAfterFailure .. => "digest reset failed after native failure"
  | resetFailedUnwinding .. => "digest reset failed while unwinding"
  | softwareContextCreated .. => "software engine context initialized"

def fields : Event → List (String × String)
  | initialized attempt fips => [("attempt", toString attempt), ("fips", toString fips)]
  | initializationFailed attempt attempts fips error =>
    [("attempt", toString attempt), ("max_attempts", toString attempts), ("fips", toString fips),
      ("error", error.message)]
  | attemptsExhausted attempts fips =>
    [("max_attempts", toString attempts), ("fips", toString fips)]
  | contextCreated fips handle => [("fips", toString fips), ("handle", handle.text)]
  | valueRequested value handle =>
    [("value", value.name), ("code", toString value.code), ("handle", handle.text)]
  | buildDateRequested => []
  | digestNotFreed algorithm handle error =>
    [("algorithm", algorithm), ("handle", handle.text), ("error", error.message)]
  | signatureInitialized algorithm digest plainRsa =>
    [("algorithm", algorithm), ("digest", digest),
      ("convert_key_for_plain_rsa", toString plainRsa)]
  | resetFailedAfterFailure operation error => [("operation", operation), ("error", error.text)]
  | resetFailedUnwinding error => [("error", error.text)]
  | softwareContextCreated handle fips =>
    [("handle", toString handle.toNat), ("fips", toString fips)]

end Event

end SigningEngine
