import SigningEngine.Proofs.Crypto.Primality
import SigningEngine.Proofs.Crypto.Rsa
import SigningEngine.Software.KeyMaterial

/-!
# The two signatures that an RSA key accepts over a digest

A private key signs a hash behind the header of its algorithm, or bare. What is signed has a length
of its own for each of the six pairs of an algorithm and a flag, so it tells them apart.

The main statement is `rsa_accepts_two_signatures`.
-/

namespace SigningEngine.Software

/-! ### What is signed -/

/-- A hash is made of eight words. -/
theorem length_familyHash {W : Type} [Add W] [AndOp W] [XorOp W] [Complement W] [Inhabited W]
    (family : Sha2.Family W) (start : Sha2.Registers W) (message : Bytes) :
    (family.hash start message).length = 8 * family.wordBytes := by
  simp only [Sha2.Family.hash, Sha2.Registers.toList, List.length_flatMap, Bytes.length_ofNat,
    List.map_cons, List.map_nil, List.sum_cons, List.sum_nil]
  omega

theorem HashAlgorithm.length_hash (algorithm : HashAlgorithm) (input : Bytes) :
    (algorithm.hash input).length = algorithm.length.toNat := by
  cases algorithm with
  | sha256 => exact length_familyHash Sha2.narrow Sha2.start256 input
  | sha384 =>
    rw [hash, Sha2.sha384, List.length_take, length_familyHash]
    rfl
  | sha512 => exact length_familyHash Sha2.wide Sha2.start512 input

namespace Accumulator

/-- The bytes that an RSA key signs over a digest. -/
def signedContent (digest : Accumulator) (plainRsa : Bool) : Bytes :=
  digest.algorithm.signedHeader plainRsa ++ digest.hash

theorem length_hash (digest : Accumulator) :
    digest.hash.length = digest.algorithm.length.toNat :=
  digest.algorithm.length_hash digest.input

theorem length_signedContent (digest : Accumulator) (plainRsa : Bool) :
    (digest.signedContent plainRsa).length =
      (if plainRsa then 0 else 19) + digest.algorithm.length.toNat := by
  rw [signedContent, List.length_append, length_hash]
  cases plainRsa <;> rfl

theorem length_signedContent_le (digest : Accumulator) (plainRsa : Bool) :
    (digest.signedContent plainRsa).length ≤ 83 := by
  rw [length_signedContent]
  cases digest.algorithm <;> cases plainRsa <;> decide

theorem signedContent_inj {digest other : Accumulator} {plainRsa otherPlain : Bool}
    (h : digest.signedContent plainRsa = other.signedContent otherPlain) :
    plainRsa = otherPlain ∧ digest.algorithm = other.algorithm ∧ digest.hash = other.hash := by
  have hlength := congrArg List.length h
  rw [length_signedContent, length_signedContent] at hlength
  have hsame : plainRsa = otherPlain ∧ digest.algorithm = other.algorithm := by
    revert hlength
    cases plainRsa <;> cases otherPlain <;> cases digest.algorithm <;>
      cases other.algorithm <;> decide
  obtain ⟨rfl, halgorithm⟩ := hsame
  rw [signedContent, signedContent, halgorithm] at h
  exact ⟨rfl, halgorithm, List.append_cancel_left h⟩

end Accumulator

/-! ### Signing and verifying -/

namespace KeyMaterial

variable {key : Rsa.PrivateKey}

/-- A genuine key accepts what it signs, with the header or without. -/
theorem acceptsRsa_iff (hkey : key.Genuine) {digest : Accumulator} {signature : Bytes} :
    acceptsRsa key.publicKey digest signature = true ↔
      ∃ plainRsa, (rsaPrivate key).sign digest plainRsa = .ok signature := by
  rw [acceptsRsa, Bool.or_eq_true, hkey.verify_iff, hkey.verify_iff, Bool.exists_bool,
    sign_rsaPrivate_eq_ok, sign_rsaPrivate_eq_ok]

/-- A modulus of 1024 bits has room for every hash and header. -/
theorem exists_sign_rsaPrivate (hsize : 2 ^ 1023 ≤ key.modulus) (digest : Accumulator)
    (plainRsa : Bool) : ∃ signature, (rsaPrivate key).sign digest plainRsa = .ok signature ∧
      signature.length = Rsa.byteLength key.modulus := by
  have hroom : 127 < Rsa.byteLength key.modulus := Rsa.lt_byteLength (by decide) hsize
  have hcontent := digest.length_signedContent_le plainRsa
  rw [Accumulator.signedContent, List.length_append] at hcontent
  have hfits : (digest.algorithm.signedHeader plainRsa).length + digest.hash.length + 11 ≤
      Rsa.byteLength key.modulus := by
    omega
  obtain ⟨signature, hsignature⟩ :=
    Option.isSome_iff_exists.mp (Rsa.PrivateKey.sign?_isSome.mpr hfits)
  exact ⟨signature, sign_rsaPrivate_eq_ok.mpr hsignature, Rsa.PrivateKey.length_of_sign? hsignature⟩

end KeyMaterial

open KeyMaterial in
/-- An RSA key signs every digest in two ways, and both halves of its pair accept the two signatures
and nothing else. Signatures agree only where the flag, the algorithm and the hash do. -/
theorem rsa_accepts_two_signatures {p q : Nat} (hp : p.Prime) (hq : q.Prime) (hne : p ≠ q)
    (hcoprime : Rsa.standardExponent.Coprime ((p - 1) * (q - 1))) (hsize : 2 ^ 1023 ≤ p * q) :
    ∃ key, Rsa.PrivateKey.ofPrimes? p q = some key ∧ key.modulus = p * q ∧
      (∀ digest : Accumulator, ∃ prefixed bare,
        (rsaPrivate key).sign digest false = .ok prefixed ∧
        (rsaPrivate key).sign digest true = .ok bare ∧
        prefixed.length = Rsa.byteLength key.modulus ∧
        bare.length = Rsa.byteLength key.modulus ∧
        ∀ signature,
          ((rsaPrivate key).verify digest signature = true ↔
            signature = prefixed ∨ signature = bare) ∧
          ((rsaPublic key.publicKey).verify digest signature = true ↔
            signature = prefixed ∨ signature = bare)) ∧
      ∀ (digest other : Accumulator) (plainRsa otherPlain : Bool),
        (rsaPrivate key).sign digest plainRsa = (rsaPrivate key).sign other otherPlain →
          plainRsa = otherPlain ∧ digest.algorithm = other.algorithm ∧
            digest.hash = other.hash := by
  obtain ⟨key, hprimes, hmodulus⟩ := Rsa.PrivateKey.exists_ofPrimes? hcoprime
  have hkey := Rsa.PrivateKey.ofPrimes?_genuine hp hq hne hprimes
  rw [← hmodulus] at hsize
  refine ⟨key, hprimes, hmodulus, fun digest => ?_, fun digest other plainRsa otherPlain h => ?_⟩
  · obtain ⟨prefixed, hprefixed, hlengthPrefixed⟩ := exists_sign_rsaPrivate hsize digest false
    obtain ⟨bare, hbare, hlengthBare⟩ := exists_sign_rsaPrivate hsize digest true
    refine ⟨prefixed, bare, hprefixed, hbare, hlengthPrefixed, hlengthBare, fun signature => ?_⟩
    have haccepts : acceptsRsa key.publicKey digest signature = true ↔
        signature = prefixed ∨ signature = bare := by
      rw [acceptsRsa_iff hkey, Bool.exists_bool, hprefixed, hbare]
      simp only [Except.ok.injEq, eq_comm]
    exact ⟨haccepts, haccepts⟩
  · obtain ⟨signature, hsignature, -⟩ := exists_sign_rsaPrivate hsize digest plainRsa
    exact Accumulator.signedContent_inj (hkey.content_eq_of_sign
      (sign_rsaPrivate_eq_ok.mp hsignature) (sign_rsaPrivate_eq_ok.mp (h ▸ hsignature)))

/-- A prime of 536 bits whose predecessor has no prime divisors but 2 and 3. -/
def prime536 : Nat := 3 * 2 ^ 534 + 1

/-- A prime of 521 bits whose predecessor has no prime divisors but 2, 3 and 5. -/
def prime521 : Nat := 15 * 2 ^ 517 + 1

theorem prime_prime536 : prime536.Prime :=
  Primality.prime_of_lucasTest 5 [(2, 534), (3, 1)]
    (by simp [Nat.prime_two, Nat.prime_three]) (by decide +kernel)

theorem prime_prime521 : prime521.Prime :=
  Primality.prime_of_lucasTest 14 [(2, 517), (3, 1), (5, 1)]
    (by simp [Nat.prime_two, Nat.prime_three, Nat.prime_five]) (by decide +kernel)

theorem coprime_standardExponent :
    Rsa.standardExponent.Coprime ((prime536 - 1) * (prime521 - 1)) := by decide +kernel

open KeyMaterial in
theorem rsa_accepts_two_signatures_fedNothing :
    Rsa.standardExponent.Coprime ((prime536 - 1) * (prime521 - 1)) ∧
    2 ^ 1023 ≤ prime536 * prime521 ∧
    ∃ key, Rsa.PrivateKey.ofPrimes? prime536 prime521 = some key ∧
      ∃ prefixed bare,
        (rsaPrivate key).sign { algorithm := .sha256 } false = .ok prefixed ∧
        (rsaPrivate key).sign { algorithm := .sha256 } true = .ok bare ∧
        prefixed ≠ bare ∧
        ∀ signature, (rsaPublic key.publicKey).verify { algorithm := .sha256 } signature = true ↔
          signature = prefixed ∨ signature = bare := by
  have hsize : 2 ^ 1023 ≤ prime536 * prime521 := by decide +kernel
  obtain ⟨key, hkey, -, hsigned, hapart⟩ := rsa_accepts_two_signatures prime_prime536
    prime_prime521 (by decide +kernel) coprime_standardExponent hsize
  obtain ⟨prefixed, bare, hprefixed, hbare, -, -, haccepts⟩ := hsigned { algorithm := .sha256 }
  refine ⟨coprime_standardExponent, hsize, key, hkey, prefixed, bare, hprefixed, hbare, ?_,
    fun signature => (haccepts signature).2⟩
  rintro rfl
  exact Bool.false_ne_true (hapart _ _ _ _ (hprefixed.trans hbare.symm)).1

end SigningEngine.Software
