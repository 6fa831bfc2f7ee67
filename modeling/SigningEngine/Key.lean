import SigningEngine.Handle
import SigningEngine.Software.KeyMaterial

/-!
# Keys

What a caller holds is a reference to a key. A key that a software engine generated has a fixed
handle, and its material is in the keeping of that engine. A scripted key may show another handle
each time it is asked.
-/

namespace SigningEngine

/-- Which of the engines of a process. -/
abbrev EngineId := Nat

structure SoftwareKey where
  engine : EngineId
  handle : KeyHandle
  algorithm : Software.KeyAlgorithm
  isPrivate : Bool
  deriving DecidableEq, Repr

namespace SoftwareKey

/-- Two keys are taken for the same by their handles. -/
def same (a b : SoftwareKey) : Bool := a.handle = b.handle

end SoftwareKey

structure ScriptedKey where
  index : Nat
  algorithm : String
  deriving DecidableEq, Repr

inductive Key where
  | software (key : SoftwareKey)
  | scripted (key : ScriptedKey)
  deriving DecidableEq, Repr

namespace Key

def algorithmName : Key → String
  | software key => key.algorithm.name
  | scripted key => key.algorithm

/-- Whether a key is private, where that is known. -/
def isPrivate? : Key → Option Bool
  | software key => some key.isPrivate
  | scripted _ => none

/-- Scripted keys are not compared. -/
def same : Key → Key → Bool
  | software a, software b => a.same b
  | _, _ => false

end Key

end SigningEngine
