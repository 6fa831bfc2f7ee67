import Mathlib.GroupTheory.OrderOfElement
import SigningEngine.Crypto.Ecdsa
import SigningEngine.Proofs.Crypto.Der
import SigningEngine.Proofs.Crypto.P256.Curve

/-!
# Every signature on the curve verifies

A signature `(r, s)` of the number `z` with the secret multiple `k` has `s * k = z + r * d` modulo
the order of the group, for the scalar `d` of the key. So the combination that is looked at to
verify it, of the generator and of the `d`-fold generator, is the `k`-fold generator again.

The main statement is `verify_of_sign?`.
-/

namespace SigningEngine.Ecdsa

open P256 (order)

instance : Fact order.Prime := ⟨P256.prime_order⟩

/-- The public point of a key is the multiple of the generator by its scalar. -/
def PrivateKey.Genuine (key : PrivateKey) : Prop :=
  key.point = P256.generator.multiple key.scalar

theorem PrivateKey.ofScalar_genuine (scalar : Nat) : (ofScalar scalar).Genuine := rfl

/-- A random source gives genuine keys. -/
theorem PrivateKey.draw?_genuine {source : Bytes} {key : PrivateKey}
    (h : PrivateKey.draw? source = some key) : key.Genuine := by
  obtain ⟨scalar, -, rfl⟩ := Option.map_eq_some_iff.mp h
  exact ofScalar_genuine scalar

theorem pointNumber?_lt {point : P256.Point} {r : Nat} (h : pointNumber? point = some r) :
    r < order := by
  cases point with
  | infinity => cases h
  | affine x y =>
    cases h
    exact Nat.mod_lt _ (by decide)

theorem numbers?_eq_some {key : PrivateKey} {hash : Bytes} {k r s : Nat}
    (h : numbers? key hash k = some (r, s)) :
    ∃ inverse, pointNumber? (P256.generator.multiple k) = some r ∧
      Modular.inverse? k order = some inverse ∧
      s = inverse * ((Bytes.toNat (signedPart hash) + r * key.scalar) % order) % order ∧
      r ≠ 0 ∧ s ≠ 0 := by
  obtain ⟨x, hx, h⟩ := Option.bind_eq_some_iff.mp h
  obtain ⟨inverse, hinverse, h⟩ := Option.bind_eq_some_iff.mp h
  simp only [Option.ite_none_left_eq_some, Bool.or_eq_true, decide_eq_true_eq, not_or,
    Option.some.injEq, Prod.mk.injEq] at h
  obtain ⟨⟨hr, hs⟩, rfl, rfl⟩ := h
  exact ⟨inverse, hx, hinverse, rfl, hr, hs⟩

/-- Multiples agree whose factors do, modulo a number that takes the element to zero. -/
theorem nsmul_eq_of_cast_eq {G : Type} [AddGroup G] {P : G} {modulus m n : Nat}
    (hP : modulus • P = 0) (h : (m : ZMod modulus) = n) : m • P = n • P := by
  have hdvd := addOrderOf_dvd_of_nsmul_eq_zero hP
  exact nsmul_eq_nsmul_iff_modEq.mpr (((ZMod.natCast_eq_natCast_iff _ _ _).mp h).of_dvd hdvd)

/-- The secret multiple is recovered from a signature. -/
theorem cast_combination {modulus : Nat} [NeZero modulus] {z r s d k inverseK inverseS : Nat}
    (hk : Modular.inverse? k modulus = some inverseK)
    (hs : s = inverseK * ((z + r * d) % modulus) % modulus)
    (hinverse : Modular.inverse? s modulus = some inverseS) :
    ((z * inverseS % modulus + r * inverseS % modulus * d : Nat) : ZMod modulus) = k := by
  have hkUnit := Modular.inverse?_mul hk
  have hsUnit := Modular.inverse?_mul hinverse
  have hsValue : (s : ZMod modulus) = inverseK * (z + r * d) := by
    rw [hs, ZMod.natCast_mod, Nat.cast_mul, ZMod.natCast_mod, Nat.cast_add, Nat.cast_mul]
  rw [Nat.cast_add, ZMod.natCast_mod, Nat.cast_mul, Nat.cast_mul, ZMod.natCast_mod, Nat.cast_mul]
  linear_combination -(inverseS * (z + r * d) : ZMod modulus) * hkUnit + k * hsUnit -
    k * inverseS * hsValue

/-- The combination of the generator and a public point that a signature leads to is the secret
multiple. -/
theorem combination_eq_multiple {key : PrivateKey} (hkey : key.Genuine)
    {z r s k inverseK inverseS : Nat} (hk : Modular.inverse? k order = some inverseK)
    (hs : s = inverseK * ((z + r * key.scalar) % order) % order)
    (hinverse : Modular.inverse? s order = some inverseS) :
    P256.Point.combination (z * inverseS % order) P256.generator (r * inverseS % order) key.point =
      P256.generator.multiple k := by
  obtain ⟨P, hP, horder⟩ := P256.exists_denotes_generator
  have hpoint : (P256.Weighted.ofPoint key.point).Denotes (key.scalar • P) := by
    rw [hkey, P256.multiple_eq hP]
    exact P256.Weighted.denotes_coordinates _
  rw [P256.combination_eq hP hpoint, P256.multiple_eq hP, ← mul_nsmul', ← add_nsmul]
  exact congrArg _ (nsmul_eq_of_cast_eq horder (cast_combination hk hs hinverse))

theorem accepts_numbers? {key : PrivateKey} (hkey : key.Genuine) {hash : Bytes} {k r s : Nat}
    (h : numbers? key hash k = some (r, s)) :
    isScalar r = true ∧ isScalar s = true ∧ key.publicKey.accepts hash r s = true := by
  obtain ⟨inverseK, hr, hk, hs, hrPositive, hsPositive⟩ := numbers?_eq_some h
  have hrSmall := pointNumber?_lt hr
  have hsSmall : s < order := by
    rw [hs]
    exact Nat.mod_lt _ P256.prime_order.pos
  have hcoprime : s.Coprime order :=
    (Nat.coprime_of_lt_prime hsPositive hsSmall P256.prime_order).symm
  obtain ⟨inverseS, hinverse⟩ :=
    Option.isSome_iff_exists.mp ((Modular.inverse?_isSome _ _).mpr hcoprime)
  refine ⟨?_, ?_, ?_⟩
  · simp [isScalar, hrSmall, Nat.pos_of_ne_zero hrPositive]
  · simp [isScalar, hsSmall, Nat.pos_of_ne_zero hsPositive]
  · rw [PublicKey.accepts, hinverse]
    simp only
    rw [PrivateKey.publicKey, combination_eq_multiple hkey hk hs hinverse, hr]
    exact decide_eq_true rfl

/-- A genuine key verifies what it signs. -/
theorem verify_of_sign? {key : PrivateKey} (hkey : key.Genuine) {hash signature : Bytes}
    (h : key.sign? hash = some signature) : key.publicKey.verify hash signature = true := by
  obtain ⟨k, -, h⟩ := Option.bind_eq_some_iff.mp h
  obtain ⟨⟨r, s⟩, hnumbers, h⟩ := Option.bind_eq_some_iff.mp h
  obtain rfl : Der.pair r s = signature := Option.some.inj h
  obtain ⟨hr, hs, haccepts⟩ := accepts_numbers? hkey hnumbers
  have hsize {n : Nat} (hn : isScalar n = true) : n < 256 ^ 32 := by
    simp only [isScalar, Bool.and_eq_true, decide_eq_true_eq] at hn
    exact Nat.lt_trans hn.2 (by decide)
  rw [PublicKey.verify, Der.pair?_pair (hsize hr) (hsize hs)]
  simp only
  rw [hr, hs, haccepts]
  rfl

end SigningEngine.Ecdsa
