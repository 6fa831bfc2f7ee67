import Mathlib.FieldTheory.Finite.Basic
import SigningEngine.Bytes.Lemmas
import SigningEngine.Crypto.Modular.Lemmas
import SigningEngine.Crypto.Rsa

/-!
# The signature that an RSA key accepts

The exponents of a key undo each other modulo its two primes, and so modulo their product. Every
block is below the modulus, since it starts with a zero byte. Hence a byte string is accepted for a
block exactly if it is the power of that block to the private exponent, and blocks differ when their
contents do.

The main statements are `verify_iff` and `content_eq_of_sign`.
-/

namespace SigningEngine.Rsa

/-! ### Powers that undo each other -/

theorem pow_modEq_self {p k : Nat} (hp : p.Prime) (hpos : k ≠ 0) (hk : k ≡ 1 [MOD p - 1])
    (x : Nat) : x ^ k ≡ x [MOD p] := by
  have : Fact p.Prime := ⟨hp⟩
  obtain ⟨j, hj⟩ := (Nat.modEq_iff_dvd' (Nat.one_le_iff_ne_zero.mpr hpos)).mp hk.symm
  have hsplit : k = (p - 1) * j + 1 := by omega
  rw [← ZMod.natCast_eq_natCast_iff, Nat.cast_pow]
  rcases eq_or_ne (x : ZMod p) 0 with hzero | hne
  · rw [hzero, zero_pow hpos]
  · rw [hsplit, pow_succ, pow_mul, ZMod.pow_card_sub_one_eq_one hne, one_pow, one_mul]

/-- Two distinct primes, and exponents that are inverse to each other modulo the order of the
units. -/
structure PrivateKey.Genuine (key : PrivateKey) : Prop where
  prime_p : key.p.Prime
  prime_q : key.q.Prime
  distinct : key.p ≠ key.q
  exponents : key.publicExponent * key.privateExponent ≡ 1 [MOD (key.p - 1) * (key.q - 1)]

namespace PrivateKey

variable {key : PrivateKey}

theorem ofPrimes?_genuine {p q : Nat} (hp : p.Prime) (hq : q.Prime) (hne : p ≠ q)
    (h : ofPrimes? p q = some key) : key.Genuine := by
  obtain ⟨d, hd, rfl⟩ := Option.map_eq_some_iff.mp h
  have : NeZero ((p - 1) * (q - 1)) :=
    ⟨Nat.mul_ne_zero (Nat.sub_ne_zero_of_lt hp.one_lt) (Nat.sub_ne_zero_of_lt hq.one_lt)⟩
  refine ⟨hp, hq, hne, ?_⟩
  change standardExponent * d ≡ 1 [MOD (p - 1) * (q - 1)]
  rw [Nat.mul_comm standardExponent, ← ZMod.natCast_eq_natCast_iff, Nat.cast_mul, Nat.cast_one]
  exact Modular.inverse?_mul hd

theorem exists_ofPrimes? {p q : Nat} (h : standardExponent.Coprime ((p - 1) * (q - 1))) :
    ∃ key, ofPrimes? p q = some key ∧ key.modulus = p * q := by
  obtain ⟨d, hd⟩ := Option.isSome_iff_exists.mp ((Modular.inverse?_isSome _ _).mpr h)
  exact ⟨_, Option.map_eq_some_iff.mpr ⟨d, hd, rfl⟩, rfl⟩

namespace Genuine

theorem modulus_pos (hkey : key.Genuine) : 0 < key.modulus :=
  Nat.mul_pos hkey.prime_p.pos hkey.prime_q.pos

/-- No product of exponents is zero: two distinct primes are not both 2, so there are at least two
residues to tell 0 from 1. -/
theorem exponents_ne_zero (hkey : key.Genuine) :
    key.publicExponent * key.privateExponent ≠ 0 := by
  intro hzero
  have hone : (key.p - 1) * (key.q - 1) ∣ 1 :=
    Nat.modEq_zero_iff_dvd.mp (hzero ▸ hkey.exponents).symm
  obtain ⟨hp, hq⟩ := mul_eq_one.mp (Nat.dvd_one.mp hone)
  exact hkey.distinct (by omega)

theorem pow_pow (hkey : key.Genuine) (x : Nat) :
    x ^ (key.publicExponent * key.privateExponent) ≡ x [MOD key.modulus] := by
  have hpos := hkey.exponents_ne_zero
  have hcoprime := (Nat.coprime_primes hkey.prime_p hkey.prime_q).mpr hkey.distinct
  refine (Nat.modEq_and_modEq_iff_modEq_mul hcoprime).mp ⟨?_, ?_⟩
  · exact pow_modEq_self hkey.prime_p hpos (hkey.exponents.of_dvd (Nat.dvd_mul_right _ _)) x
  · exact pow_modEq_self hkey.prime_q hpos (hkey.exponents.of_dvd (Nat.dvd_mul_left _ _)) x

/-- Below the modulus the power to one exponent is undone by the power to the other. -/
theorem pow_pow_mod (hkey : key.Genuine) {m n x : Nat} (hx : x < key.modulus)
    (h : m * n = key.publicExponent * key.privateExponent) :
    (x ^ m % key.modulus) ^ n % key.modulus = x := by
  rw [← Nat.pow_mod, ← Nat.pow_mul, h]
  exact Nat.mod_eq_of_modEq (hkey.pow_pow x) hx

end Genuine

end PrivateKey

/-! ### Blocks -/

theorem lt_pow_byteLength (n : Nat) : n < 256 ^ byteLength n := by
  rw [byteLength]
  split
  next h => omega
  next h =>
    calc n < 2 ^ (n.log2 + 1) := Nat.lt_log2_self
      _ ≤ 2 ^ (8 * (n.log2 / 8 + 1)) := Nat.pow_le_pow_right (by omega) (by omega)
      _ = 256 ^ (n.log2 / 8 + 1) := by rw [Nat.pow_mul]

theorem pow_byteLength_le {n : Nat} (h : 0 < n) : 256 ^ (byteLength n - 1) ≤ n := by
  rw [byteLength, if_neg (by omega), Nat.add_sub_cancel]
  calc 256 ^ (n.log2 / 8) = 2 ^ (8 * (n.log2 / 8)) := by rw [Nat.pow_mul]
    _ ≤ 2 ^ n.log2 := Nat.pow_le_pow_right (by omega) (by omega)
    _ ≤ n := Nat.log2_self_le (by omega)

theorem lt_byteLength {length bits n : Nat} (hbits : 8 * length ≤ bits) (h : 2 ^ bits ≤ n) :
    length < byteLength n := by
  have hpos : n ≠ 0 := (Nat.lt_of_lt_of_le (Nat.two_pow_pos _) h).ne'
  have hlog : bits ≤ n.log2 := (Nat.le_log2 hpos).mpr h
  rw [byteLength, if_neg hpos]
  omega

section Block

variable {length : Nat} {header hash block : Bytes}

theorem block?_isSome : (block? length header hash).isSome ↔
    header.length + hash.length + 11 ≤ length := by
  simp [block?]

theorem length_of_block? (h : block? length header hash = some block) : block.length = length := by
  obtain ⟨hfits, rfl⟩ := by simpa [block?] using h
  simp
  omega

theorem block?_eq_zero_cons (h : block? length header hash = some block) :
    ∃ rest, block = 0 :: rest := by
  obtain ⟨-, rfl⟩ := by simpa [block?] using h
  exact ⟨_, rfl⟩

theorem toNat_lt_of_block? (h : block? length header hash = some block) :
    Bytes.toNat block < 256 ^ (length - 1) := by
  obtain ⟨rest, rfl⟩ := block?_eq_zero_cons h
  rw [← length_of_block? h, Bytes.toNat_zero_cons, List.length_cons, Nat.add_sub_cancel]
  exact Bytes.toNat_lt rest

theorem toNat_block_lt {n : Nat} (hn : 0 < n)
    (h : block? (byteLength n) header hash = some block) : Bytes.toNat block < n :=
  (toNat_lt_of_block? h).trans_le (pow_byteLength_le hn)

/-- What stands behind a zero byte, when only bytes 255 stand in front of it. -/
theorem eq_of_filled : {m n : Nat} → {content other : Bytes} →
    List.replicate m 0xff ++ 0 :: content = List.replicate n 0xff ++ 0 :: other → content = other
  | 0, 0, _, _, h => (List.cons.inj h).2
  | 0, n + 1, _, _, h => by simp [List.replicate_succ] at h
  | m + 1, 0, _, _, h => by simp [List.replicate_succ] at h
  | m + 1, n + 1, _, _, h => eq_of_filled (List.cons.inj h).2

theorem content_eq_of_block? {otherHeader otherHash : Bytes}
    (h : block? length header hash = some block)
    (hother : block? length otherHeader otherHash = some block) :
    header ++ hash = otherHeader ++ otherHash := by
  obtain ⟨-, hblock⟩ := by simpa [block?] using h
  obtain ⟨-, hsame⟩ := by simpa [block?] using hother
  rw [← hblock] at hsame
  exact (eq_of_filled (List.cons.inj (List.cons.inj hsame).2).2).symm

end Block

/-! ### Signatures -/

theorem PublicKey.verify_eq_true {key : PublicKey} {header hash signature : Bytes} :
    key.verify header hash signature = true ↔
      signature.length = byteLength key.modulus ∧ Bytes.toNat signature < key.modulus ∧
        block? (byteLength key.modulus) header hash = some (Bytes.ofNat (byteLength key.modulus)
          (Bytes.toNat signature ^ key.exponent % key.modulus)) := by
  simp only [verify, Modular.pow_eq, Bool.and_eq_true, decide_eq_true_eq, and_assoc]
  rw [eq_comm (b := block? _ _ _)]

namespace PrivateKey

variable {key : PrivateKey} {header hash signature : Bytes}

theorem sign?_isSome :
    (key.sign? header hash).isSome ↔
      header.length + hash.length + 11 ≤ byteLength key.modulus := by
  rw [sign?, Option.isSome_map, block?_isSome]

theorem length_of_sign? (h : key.sign? header hash = some signature) :
    signature.length = byteLength key.modulus := by
  obtain ⟨block, -, rfl⟩ := Option.map_eq_some_iff.mp h
  exact Bytes.length_ofNat _ _

/-- A key accepts one signature of a block. -/
theorem Genuine.verify_iff (hkey : key.Genuine) :
    key.publicKey.verify header hash signature = true ↔
      key.sign? header hash = some signature := by
  have hfits : ∀ x, x % key.modulus < 256 ^ byteLength key.modulus := fun x =>
    (Nat.mod_lt x hkey.modulus_pos).trans (lt_pow_byteLength key.modulus)
  rw [PublicKey.verify_eq_true, sign?, Option.map_eq_some_iff]
  simp only [Modular.pow_eq, publicKey]
  constructor
  · rintro ⟨hlength, hlt, hblock⟩
    refine ⟨_, hblock, ?_⟩
    rw [Bytes.toNat_ofNat_of_lt (hfits _), hkey.pow_pow_mod hlt rfl, ← hlength,
      Bytes.ofNat_toNat]
  · rintro ⟨block, hblock, rfl⟩
    have hlt := toNat_block_lt hkey.modulus_pos hblock
    rw [Bytes.toNat_ofNat_of_lt (hfits _), hkey.pow_pow_mod hlt (Nat.mul_comm _ _)]
    refine ⟨Bytes.length_ofNat _ _, Nat.mod_lt _ hkey.modulus_pos, ?_⟩
    nth_rewrite 2 [← length_of_block? hblock]
    rw [Bytes.ofNat_toNat, hblock]

/-- Signing tells contents apart. -/
theorem Genuine.content_eq_of_sign {otherHeader otherHash : Bytes} (hkey : key.Genuine)
    (h : key.sign? header hash = some signature)
    (hother : key.sign? otherHeader otherHash = some signature) :
    header ++ hash = otherHeader ++ otherHash := by
  obtain ⟨-, -, hblock⟩ := PublicKey.verify_eq_true.mp (hkey.verify_iff.mpr h)
  obtain ⟨-, -, hsame⟩ := PublicKey.verify_eq_true.mp (hkey.verify_iff.mpr hother)
  exact content_eq_of_block? hblock hsame

end PrivateKey

end SigningEngine.Rsa
