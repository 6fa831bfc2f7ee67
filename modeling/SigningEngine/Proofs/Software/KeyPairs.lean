import SigningEngine.Proofs.Crypto.Ecdsa
import SigningEngine.Proofs.Software.RsaSignatures
import SigningEngine.Software.KeyGeneration

/-!
# Both halves of a generated pair accept what the private one signs

A key on the curve is genuine as its public point is computed from its scalar. An RSA key is genuine
when its primes are primes, and distinct.

The main statement is `GenuinePair.verify_of_sign`.
-/

namespace SigningEngine.Software

open KeyMaterial

/-- The two halves of one genuine key. -/
inductive GenuinePair : Halves KeyMaterial → Prop where
  | ec {key : Ecdsa.PrivateKey} (genuine : key.Genuine) :
      GenuinePair { privateKey := ecPrivate key, publicKey := ecPublic key.publicKey }
  | rsa {key : Rsa.PrivateKey} (genuine : key.Genuine) :
      GenuinePair { privateKey := rsaPrivate key, publicKey := rsaPublic key.publicKey }

theorem generateEc_genuine {source : Bytes} {pair : Halves KeyMaterial}
    (h : generateEc source = .ok pair) : GenuinePair pair := by
  rw [generateEc] at h
  cases hkey : Ecdsa.PrivateKey.draw? source with
  | none =>
      rw [hkey] at h
      cases h
  | some key =>
      rw [hkey] at h
      cases h
      exact .ec (Ecdsa.PrivateKey.draw?_genuine hkey)

theorem generateRsa_genuine {bits : UInt64} {p q : Nat} {pair : Halves KeyMaterial}
    (hp : p.Prime) (hq : q.Prime) (hne : p ≠ q) (h : generateRsa bits p q = .ok pair) :
    GenuinePair pair := by
  rw [generateRsa] at h
  split at h
  · cases h
  · cases hkey : Rsa.PrivateKey.ofPrimes? p q with
    | none =>
        rw [hkey] at h
        cases h
    | some key =>
        rw [hkey] at h
        cases h
        exact .rsa (Rsa.PrivateKey.ofPrimes?_genuine hp hq hne hkey)

/-- What the private half signs, with the header of the algorithm or without, both halves accept. -/
theorem GenuinePair.verify_of_sign {pair : Halves KeyMaterial} (h : GenuinePair pair)
    {digest : Accumulator} {plainRsa : Bool} {signature : Bytes}
    (hsigned : pair.privateKey.sign digest plainRsa = .ok signature) :
    pair.privateKey.verify digest signature = true ∧
      pair.publicKey.verify digest signature = true := by
  cases h with
  | ec hkey =>
      have haccepts := Ecdsa.verify_of_sign? hkey (sign_ecPrivate_eq_ok.mp hsigned)
      exact ⟨haccepts, haccepts⟩
  | rsa hkey =>
      have haccepts := (acceptsRsa_iff hkey).mpr ⟨plainRsa, hsigned⟩
      exact ⟨haccepts, haccepts⟩

end SigningEngine.Software
