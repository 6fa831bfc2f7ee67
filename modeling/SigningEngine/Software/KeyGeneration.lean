import SigningEngine.Software.KeyMaterial

/-!
# Key generation

Both halves of a key pair follow from what a random source gives: a scalar for a key on the curve,
two primes for an RSA key.
-/

namespace SigningEngine.Software

/-- Why no key is generated. -/
inductive GenerationFault where
  | modulusTooSmall (bits : UInt64)
  /-- The standard exponent has no inverse for the primes that were found. -/
  | noPrivateExponent
  /-- The random source gave no number in range. -/
  | noScalar
  deriving DecidableEq, Repr

/-- The fewest bits that an RSA modulus is generated with. -/
def minimumModulusBits : UInt64 := 1024

namespace GenerationFault

def reason : GenerationFault → String
  | modulusTooSmall bits =>
    "RSA modulus of " ++ toString bits.toNat ++ " bits is below the " ++
      toString minimumModulusBits.toNat ++ " bit minimum"
  | noPrivateExponent => "the primes admit no private exponent"
  | noScalar => "the random source is exhausted"

def text (fault : GenerationFault) : String := "Key generation failed: " ++ fault.reason

end GenerationFault

/-- Two values, one for each half of a key pair. -/
structure Halves (α : Type) where
  privateKey : α
  publicKey : α
  deriving DecidableEq, Repr

namespace KeyMaterial

/-- A key pair on the curve P-256 with the first scalar that a random source gives. -/
def generateEc (source : Bytes) : Except GenerationFault (Halves KeyMaterial) :=
  match Ecdsa.PrivateKey.draw? source with
  | some key => .ok { privateKey := .ecPrivate key, publicKey := .ecPublic key.publicKey }
  | none => .error .noScalar

/-- An RSA key pair from the two primes that were found for a modulus of `bits` bits. A modulus that
is too small is refused before any prime is looked at. -/
def generateRsa (bits : UInt64) (p q : Nat) : Except GenerationFault (Halves KeyMaterial) :=
  if bits < minimumModulusBits then .error (.modulusTooSmall bits)
  else
    match Rsa.PrivateKey.ofPrimes? p q with
    | some key => .ok { privateKey := .rsaPrivate key, publicKey := .rsaPublic key.publicKey }
    | none => .error .noPrivateExponent

end KeyMaterial

end SigningEngine.Software
