import SigningEngine.Scripted
import SigningEngine.Signature
import SigningEngine.Software.Engine

/-!
# Steps of a session

A session works on objects that it keeps in named slots, of one kind each. A step either makes an
object and puts it into a slot, or does something with the objects in the slots it names. It is
answered by a value, or by the reason why there is none.
-/

namespace SigningEngine.Session

/-- Bytes that a step works on. -/
inductive Operand where
  | given (data : Bytes)
  /-- The signature saved under a name. -/
  | saved (name : String)
  deriving DecidableEq, Repr

/-- Where the configuration of a new context comes from. -/
inductive ConfigSource where
  | document (document : Json)
  | environment (environment : Environment)

inductive ContextStep where
  | handle
  | fips
  | text
  | diagnostic
  | version
  | installPath
  | buildDate
  | fipsApprovedMode
  /-- As many callers at once ask for the version. -/
  | versions (callers : Nat)
  | installPaths (callers : Nat)
  deriving DecidableEq, Repr

inductive DigestStep where
  | update (data : Operand)
  | reset
  | handle
  | algorithm
  | diagnostic
  deriving DecidableEq, Repr

inductive SignatureStep where
  | start (key : String) (plainRsa : Bool)
  | isInitialized
  | update (data : Operand) (span : Span)
  | updateAll (data : Operand)
  /-- Signs, and saves the signature under a name if there is one. -/
  | sign (save : Option String)
  | verify (candidate : Operand)
  | algorithm
  | context
  | diagnostic
  /-- As many callers at once sign. -/
  | signs (callers : Nat)
  deriving DecidableEq, Repr

inductive SlotKind where
  | signature
  | digest
  | context
  | key
  | engine
  deriving DecidableEq, Repr

inductive Step where
  /-- Without a document the engine has the default configuration. -/
  | newEngine (slot : String) (document : Option Json)
  | newScripted (slot : String) (engine : Scripted.Engine)
  | engineDiagnostic (engine : String)
  | buildDate (engine : String)
  /-- Calls an engine. An operand takes the place of the bytes of the call, and a signature is saved
  under a name if there is one. -/
  | native (engine : String) (call : NativeCall) (operand : Option Operand) (save : Option String)
  | generateEc (engine slot : String) (entropy : Operand)
  | generateRsa (engine slot : String) (bits : UInt64) (p q : Nat)
  | freeKey (engine : String) (handle : KeyHandle)
  | keyInfo (key : String)
  | shareKey (key slot : String)
  | keysEqual (a b : String)
  | newKey (slot : String) (handles : List KeyHandle) (algorithm : String)
  | setKey (key : String) (handles : List KeyHandle)
  | createContext (slot engine : String) (fips : Bool) (source : ConfigSource)
  | context (context : String) (step : ContextStep)
  | newDigest (slot context algorithm : String)
  | digest (digest : String) (step : DigestStep)
  | newSignature (slot context algorithm : String)
  | signature (signature : String) (step : SignatureStep)
  | drop (kind : SlotKind) (name : String)

/-- Why a step has no value. -/
inductive StepError where
  | noSlot (name : String)
  /-- A document that describes no configuration. -/
  | unreadable
  | generation (fault : Software.GenerationFault)
  | native (error : NativeError)
  | failed (failure : Failure)
  deriving DecidableEq, Repr

inductive Answer where
  | done
  | flag (value : Bool)
  | text (value : String)
  | bytes (value : Bytes)
  | handle (raw : UInt64)
  | engineConfig (config : Software.Config)
  | keyPair (handles : Software.Halves KeyHandle)
  | keyInfo (handle : KeyHandle) (algorithm : String) (isPrivate : Option Bool)
  | context (handle : ContextHandle) (fips : Bool)
  /-- What several callers got, in any order. -/
  | texts (outcomes : List (Except Failure String))
  | signatures (outcomes : List (Except Failure Bytes))

/-- What a call gives back as an answer. -/
def Answer.ofReply : (call : NativeCall) → call.Reply → Except NativeError Answer
  | .createContext _, reply => reply.map fun (handle : ContextHandle) => .handle handle.raw
  | .validateLocation _, reply => reply.map fun (_ : Unit) => .done
  | .validateVersion _, reply => reply.map fun (_ : Unit) => .done
  | .scalarValue _ _, reply => reply.map .text
  | .libraryBuildDate, date => .ok (.text date)
  | .digestCreate _ _, reply => reply.map fun (handle : DigestHandle) => .handle handle.raw
  | .digestUpdate _ _ _, reply => reply.map fun (_ : Unit) => .done
  | .digestReset _ _, reply => reply.map fun (_ : Unit) => .done
  | .digestFree _ _, reply => reply.map fun (_ : Unit) => .done
  | .sign _ _ _ _, reply => reply.map .bytes
  | .verify _ _ _ _, reply => reply.map .flag

/-- The call with other bytes, if it carries any. -/
def withData (data : Bytes) : NativeCall → NativeCall
  | .digestUpdate context digest _ => .digestUpdate context digest data
  | .verify context digest key _ => .verify context digest key data
  | call => call

end SigningEngine.Session
