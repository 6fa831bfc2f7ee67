import SigningEngine.Bytes
import SigningEngine.Handle
import SigningEngine.Native.Error

/-!
# Calls to a native engine

All that the binding layer knows of an engine goes through these calls. A call carries its
arguments, and its reply has the type that the call determines.
-/

namespace SigningEngine

/-- A value that an engine reports about one of its contexts. -/
inductive EngineValue where
  | fipsApprovedMode
  | installPath
  | version
  deriving DecidableEq, Repr

namespace EngineValue

/-- The number by which engines know the value. -/
def code : EngineValue → Nat
  | fipsApprovedMode => 0
  | installPath => 1
  | version => 2

def name : EngineValue → String
  | fipsApprovedMode => "FipsApprovedMode"
  | installPath => "InstallPath"
  | version => "Version"

end EngineValue

inductive NativeCall where
  | createContext (fips : Bool)
  | validateLocation (context : ContextHandle)
  | validateVersion (context : ContextHandle)
  | scalarValue (context : ContextHandle) (value : EngineValue)
  | libraryBuildDate
  | digestCreate (context : ContextHandle) (algorithm : String)
  | digestUpdate (context : ContextHandle) (digest : DigestHandle) (data : Bytes)
  | digestReset (context : ContextHandle) (digest : DigestHandle)
  | digestFree (context : ContextHandle) (digest : DigestHandle)
  | sign (context : ContextHandle) (digest : DigestHandle) (key : KeyHandle) (plainRsa : Bool)
  | verify (context : ContextHandle) (digest : DigestHandle) (key : KeyHandle)
      (signature : Bytes)
  deriving DecidableEq, Repr

namespace NativeCall

/-- What a successful call gives back. -/
abbrev Value : NativeCall → Type
  | createContext _ => ContextHandle
  | validateLocation _ => Unit
  | validateVersion _ => Unit
  | scalarValue _ _ => String
  | libraryBuildDate => String
  | digestCreate _ _ => DigestHandle
  | digestUpdate _ _ _ => Unit
  | digestReset _ _ => Unit
  | digestFree _ _ => Unit
  | sign _ _ _ _ => Bytes
  | verify _ _ _ _ => Bool

/-- Every call but the one for the build date may report a failure. -/
abbrev Reply : NativeCall → Type
  | libraryBuildDate => String
  | call => Except NativeError call.Value

end NativeCall

end SigningEngine
