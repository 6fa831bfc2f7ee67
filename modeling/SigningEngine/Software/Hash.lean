import SigningEngine.Crypto.Sha2
import SigningEngine.Text.Case

/-!
# Hash algorithms of the software engine

An algorithm is asked for by name. Hyphens and underscores in a name say nothing, nor does the case
of its letters.
-/

namespace SigningEngine.Software

inductive HashAlgorithm where
  | sha256
  | sha384
  | sha512
  deriving DecidableEq, Repr

namespace HashAlgorithm

def isSeparator (c : Char) : Bool := c = '-' || c = '_'

/-- What is compared of a name. -/
def canonicalName (name : String) : List Char :=
  Text.upperChars (name.toList.filter (!isSeparator ·))

def ofName? (name : String) : Option HashAlgorithm :=
  let canonical := canonicalName name
  if canonical = "SHA256".toList then some .sha256
  else if canonical = "SHA384".toList then some .sha384
  else if canonical = "SHA512".toList then some .sha512
  else none

def hash : HashAlgorithm → Bytes → Bytes
  | sha256 => Sha2.sha256
  | sha384 => Sha2.sha384
  | sha512 => Sha2.sha512

/-- The length of a hash in bytes. -/
def length : HashAlgorithm → UInt8
  | sha256 => 32
  | sha384 => 48
  | sha512 => 64

/-- The last number of the algorithm's object identifier. -/
def identifier : HashAlgorithm → UInt8
  | sha256 => 1
  | sha384 => 2
  | sha512 => 3

/-- The header that names the algorithm in front of its hash: the identifier
`2.16.840.1.101.3.4.2.n`, no parameters, and the hash as a string of bytes. -/
def header (algorithm : HashAlgorithm) : Bytes :=
  [0x30, 17 + algorithm.length,
    0x30, 13, 0x06, 9, 0x60, 0x86, 0x48, 0x01, 0x65, 0x03, 0x04, 0x02, algorithm.identifier,
    0x05, 0,
    0x04, algorithm.length]

/-- The header in front of a hash that is signed; a plain key signs the bare hash. -/
def signedHeader (algorithm : HashAlgorithm) (plainRsa : Bool) : Bytes :=
  if plainRsa then [] else algorithm.header

end HashAlgorithm

/-- What a digest has been fed since it was created or reset. -/
structure Accumulator where
  algorithm : HashAlgorithm
  input : Bytes := []
  deriving DecidableEq, Repr

namespace Accumulator

def update (state : Accumulator) (data : Bytes) : Accumulator :=
  { state with input := state.input ++ data }

def reset (state : Accumulator) : Accumulator := { state with input := [] }

/-- The hash of everything fed. -/
def hash (state : Accumulator) : Bytes := state.algorithm.hash state.input

@[simp] theorem reset_update (state : Accumulator) (data : Bytes) :
    (state.update data).reset = state.reset := rfl

end Accumulator

end SigningEngine.Software
