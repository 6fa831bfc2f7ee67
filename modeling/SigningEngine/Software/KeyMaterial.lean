import SigningEngine.Crypto.Ecdsa
import SigningEngine.Crypto.Rsa
import SigningEngine.Native.Error
import SigningEngine.Software.Hash

/-!
# Key material of the software engine

A private key signs and verifies, a public key only verifies. A signature is made over the hash of
what a digest has been fed.
-/

namespace SigningEngine.Software

/-- The algorithms that keys are made for. -/
inductive KeyAlgorithm where
  | rsa
  | ec
  deriving DecidableEq, Repr

namespace KeyAlgorithm

def name : KeyAlgorithm → String
  | rsa => "RSA"
  | ec => "EC"

end KeyAlgorithm

inductive KeyMaterial where
  | rsaPrivate (key : Rsa.PrivateKey)
  | rsaPublic (key : Rsa.PublicKey)
  | ecPrivate (key : Ecdsa.PrivateKey)
  | ecPublic (key : Ecdsa.PublicKey)
  deriving DecidableEq, Repr

/-- Whether a signature is one of a hash, with the header of its algorithm in front or without. -/
def acceptsRsa (key : Rsa.PublicKey) (digest : Accumulator) (signature : Bytes) : Bool :=
  key.verify (digest.algorithm.signedHeader false) digest.hash signature ||
    key.verify (digest.algorithm.signedHeader true) digest.hash signature

namespace KeyMaterial

def isPrivate : KeyMaterial → Bool
  | rsaPrivate _ | ecPrivate _ => true
  | rsaPublic _ | ecPublic _ => false

/-- A signature, or the reason why there is none. -/
def signatureOr (reason : String) : Option Bytes → Except NativeError Bytes
  | some signature => .ok signature
  | none => .error ⟨reason⟩

def sign (digest : Accumulator) (plainRsa : Bool) : KeyMaterial → Except NativeError Bytes
  | rsaPrivate key =>
    signatureOr "RSA sign failed: message too long"
      (key.sign? (digest.algorithm.signedHeader plainRsa) digest.hash)
  | ecPrivate key =>
    signatureOr "ECDSA sign failed: signature error" (key.sign? digest.hash)
  | rsaPublic _ | ecPublic _ => .error ⟨"cannot sign with a public key"⟩

/-- Every byte string either is a signature or is none; no byte string is an error. -/
def verify (digest : Accumulator) (signature : Bytes) : KeyMaterial → Bool
  | rsaPrivate key => acceptsRsa key.publicKey digest signature
  | rsaPublic key => acceptsRsa key digest signature
  | ecPrivate key => key.publicKey.verify digest.hash signature
  | ecPublic key => key.verify digest.hash signature

theorem signatureOr_eq_ok {reason : String} {made : Option Bytes} {signature : Bytes} :
    signatureOr reason made = .ok signature ↔ made = some signature := by
  cases made with
  | none => simp [signatureOr]
  | some made => simp [signatureOr]

theorem sign_rsaPrivate_eq_ok {key : Rsa.PrivateKey} {digest : Accumulator} {plainRsa : Bool}
    {signature : Bytes} :
    (rsaPrivate key).sign digest plainRsa = .ok signature ↔
      key.sign? (digest.algorithm.signedHeader plainRsa) digest.hash = some signature :=
  signatureOr_eq_ok

theorem sign_ecPrivate_eq_ok {key : Ecdsa.PrivateKey} {digest : Accumulator} {plainRsa : Bool}
    {signature : Bytes} :
    (ecPrivate key).sign digest plainRsa = .ok signature ↔
      key.sign? digest.hash = some signature :=
  signatureOr_eq_ok

theorem sign_of_isPrivate_eq_false {material : KeyMaterial} (digest : Accumulator)
    (plainRsa : Bool) (h : material.isPrivate = false) :
    material.sign digest plainRsa = .error ⟨"cannot sign with a public key"⟩ := by
  cases material with
  | rsaPrivate | ecPrivate => simp [isPrivate] at h
  | rsaPublic | ecPublic => rfl

end KeyMaterial

end SigningEngine.Software
