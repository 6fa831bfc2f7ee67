import SigningEngine.Native.Call

/-!
# Errors of the binding layer

An error is either a misuse by the caller, which the same call would meet again, or a failure of
the engine or of its surroundings. Every error is exactly one of the two.
-/

namespace SigningEngine

inductive EngineError where
  | invalidArgument (message : String)
  | illegalState (message : String)
  | invalidKey (message : String)
  | init (message : String)
  | query (value : EngineValue) (source : NativeError)
  | operation (message : String)
  | configuration (message : String)
  deriving DecidableEq, Repr

namespace EngineError

def text : EngineError → String
  | invalidArgument message => "Invalid argument: " ++ message
  | illegalState message => "Illegal state: " ++ message
  | invalidKey message => "Invalid key: " ++ message
  | init message => "Engine initialization failed: " ++ message
  | query value source => "Failed to query engine value " ++ value.name ++ ": " ++ source.message
  | operation message => "Engine operation failed: " ++ message
  | configuration message => "Configuration error: " ++ message

/-- The caller used the interface wrongly. -/
def isUsageError : EngineError → Bool
  | invalidArgument _ | illegalState _ | invalidKey _ | configuration _ => true
  | init _ | query _ _ | operation _ => false

/-- The engine or its surroundings failed. -/
def isEngineFailure : EngineError → Bool
  | init _ | query _ _ | operation _ => true
  | invalidArgument _ | illegalState _ | invalidKey _ | configuration _ => false

/-- The engine's own report behind the error. -/
def source? : EngineError → Option NativeError
  | query _ source => some source
  | _ => none

end EngineError

end SigningEngine
