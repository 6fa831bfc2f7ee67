import SigningEngine.Crypto.Der
import SigningEngine.Crypto.Hmac
import SigningEngine.Crypto.P256

/-!
# Signatures on the curve P-256

A signature is a pair of numbers below the order of the group, in distinguished encoding. What is
signed is the number of the first 32 bytes of a hash. The secret multiple of a signature is drawn
from the private key and those bytes, so the same hash gets the same signature again. The second
number of a signature is taken as it comes, in the upper half of its range as well as in the lower.
-/

namespace SigningEngine.Ecdsa

open P256 (order)

structure PrivateKey where
  scalar : Nat
  point : P256.Point
  deriving DecidableEq, Repr

structure PublicKey where
  point : P256.Point
  deriving DecidableEq, Repr

def isScalar (n : Nat) : Bool := 0 < n && n < order

namespace PrivateKey

def ofScalar (scalar : Nat) : PrivateKey := ⟨scalar, P256.generator.multiple scalar⟩

def publicKey (key : PrivateKey) : PublicKey := ⟨key.point⟩

end PrivateKey

/-- The first number in range among `draws` draws of 32 bytes from a random source. -/
def drawScalar : (draws : Nat) → Bytes → Option Nat
  | 0, _ => none
  | draws + 1, source =>
    let n := Bytes.toNat (source.take 32)
    if isScalar n then some n else drawScalar draws (source.drop 32)

/-- The private key that a random source gives. -/
def PrivateKey.draw? (source : Bytes) : Option PrivateKey :=
  (drawScalar (source.length / 32) source).map ofScalar

/-- How many draws are tried for the secret multiple. Less than one draw in `2 ^ 32` is out of
range. -/
def drawLimit : Nat := 256

/-- The part of a hash that is signed. -/
def signedPart (hash : Bytes) : Bytes := hash.take 32

def secretMultiple? (key : PrivateKey) (hash : Bytes) : Option Nat :=
  Hmac.Generator.drawNumber isScalar drawLimit
    (.seed (Bytes.ofNat 32 key.scalar ++ signedPart hash))

/-- The first coordinate of a point modulo the order; no point of a signature is at infinity. -/
def pointNumber? : P256.Point → Option Nat
  | .infinity => none
  | .affine x _ => some (x.val % order)

/-- The two numbers of a signature with the secret multiple `k`. -/
def numbers? (key : PrivateKey) (hash : Bytes) (k : Nat) : Option (Nat × Nat) := do
  let r ← pointNumber? (P256.generator.multiple k)
  let inverse ← Modular.inverse? k order
  let s := inverse * ((Bytes.toNat (signedPart hash) + r * key.scalar) % order) % order
  if r = 0 || s = 0 then none else some (r, s)

def PrivateKey.sign? (key : PrivateKey) (hash : Bytes) : Option Bytes := do
  let k ← secretMultiple? key hash
  let (r, s) ← numbers? key hash k
  return Der.pair r s

/-- Whether two numbers in range are a signature of a hash. -/
def PublicKey.accepts (key : PublicKey) (hash : Bytes) (r s : Nat) : Bool :=
  match Modular.inverse? s order with
  | none => false
  | some inverse =>
    let z := Bytes.toNat (signedPart hash)
    pointNumber? (P256.Point.combination (z * inverse % order) P256.generator
      (r * inverse % order) key.point) = some r

/-- A byte string that encodes no pair of numbers in range is no signature. -/
def PublicKey.verify (key : PublicKey) (hash signature : Bytes) : Bool :=
  match Der.pair? signature with
  | none => false
  | some (r, s) => isScalar r && isScalar s && key.accepts hash r s

end SigningEngine.Ecdsa
