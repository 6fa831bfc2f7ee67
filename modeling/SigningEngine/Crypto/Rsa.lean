import SigningEngine.Bytes
import SigningEngine.Crypto.Modular

/-!
# Signatures with RSA keys

What is signed is a block as long as the modulus: the bytes 0 and 1, at least eight bytes 255, a
zero byte, and the hash behind a header that names its algorithm. The header may be left out. A
signature is the block raised to the private exponent.
-/

namespace SigningEngine.Rsa

structure PublicKey where
  modulus : Nat
  exponent : Nat
  deriving DecidableEq, Repr

structure PrivateKey where
  p : Nat
  q : Nat
  publicExponent : Nat
  privateExponent : Nat
  deriving DecidableEq, Repr

/-- The exponent of every public key that is generated here. -/
def standardExponent : Nat := 65537

namespace PrivateKey

def modulus (key : PrivateKey) : Nat := key.p * key.q

def publicKey (key : PrivateKey) : PublicKey := ⟨key.modulus, key.publicExponent⟩

/-- The key with two primes, if the public exponent has an inverse. -/
def ofPrimes? (p q : Nat) : Option PrivateKey :=
  (Modular.inverse? standardExponent ((p - 1) * (q - 1))).map fun d =>
    ⟨p, q, standardExponent, d⟩

end PrivateKey

/-- The length of a number in bytes. -/
def byteLength (n : Nat) : Nat := if n = 0 then 0 else Nat.log2 n / 8 + 1

/-- The block of `length` bytes that is signed for a header and a hash, if they fit. -/
def block? (length : Nat) (header hash : Bytes) : Option Bytes :=
  let content := header ++ hash
  if content.length + 11 ≤ length then
    some ([0, 1] ++ List.replicate (length - content.length - 3) 0xff ++ 0 :: content)
  else none

def PrivateKey.sign? (key : PrivateKey) (header hash : Bytes) : Option Bytes :=
  let length := byteLength key.modulus
  (block? length header hash).map fun block =>
    Bytes.ofNat length (Modular.pow (Bytes.toNat block) key.privateExponent key.modulus)

/-- A signature is as long as the modulus and denotes a smaller number. -/
def PublicKey.verify (key : PublicKey) (header hash signature : Bytes) : Bool :=
  let length := byteLength key.modulus
  signature.length = length && Bytes.toNat signature < key.modulus &&
    some (Bytes.ofNat length (Modular.pow (Bytes.toNat signature) key.exponent key.modulus)) =
      block? length header hash

end SigningEngine.Rsa
