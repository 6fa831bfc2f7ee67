import Mathlib.Data.List.Prime
import Mathlib.NumberTheory.LucasPrimality
import SigningEngine.Crypto.Modular.Lemmas

/-!
# Primality by Lucas's test

A number is prime if some base has the full order modulo it. The order is known from the primes that
divide the predecessor of the number, which are smaller and are tested first. The powers are those
of `Modular.pow`, so a test is evaluated by squaring.
-/

namespace SigningEngine.Primality

/-- What a base has to pass for `n`, given the primes of `n - 1` with their exponents. -/
def lucasTest (n base : Nat) (factors : List (Nat × Nat)) : Bool :=
  1 < n && (factors.map fun f => f.1 ^ f.2).prod = n - 1 && Modular.pow base (n - 1) n = 1 &&
    factors.all fun f => Modular.pow base ((n - 1) / f.1) n != 1

theorem cast_pow_eq_one_iff {n : Nat} (hn : 1 < n) (base exponent : Nat) :
    (base : ZMod n) ^ exponent = 1 ↔ Modular.pow base exponent n = 1 := by
  rw [Modular.pow_eq, ← Nat.cast_pow, ← Nat.cast_one, ZMod.natCast_eq_natCast_iff',
    Nat.mod_eq_of_lt hn]

theorem prime_of_lucasTest {n : Nat} (base : Nat) (factors : List (Nat × Nat))
    (hprime : ∀ f ∈ factors, f.1.Prime) (h : lucasTest n base factors = true) : n.Prime := by
  simp only [lucasTest, Bool.and_eq_true, decide_eq_true_eq, List.all_eq_true, bne_iff_ne] at h
  obtain ⟨⟨⟨hn, hprod⟩, hfull⟩, hpart⟩ := h
  refine lucas_primality n (base : ZMod n) ((cast_pow_eq_one_iff hn _ _).mpr hfull) ?_
  intro q hq hdvd
  -- a prime divisor of `n - 1` divides one of the listed powers, so it is one of the listed primes
  rw [← hprod] at hdvd
  obtain ⟨_, hpower, hdvd⟩ := (Prime.dvd_prod_iff hq.prime).mp hdvd
  obtain ⟨f, hf, rfl⟩ := List.mem_map.mp hpower
  obtain rfl := (Nat.prime_dvd_prime_iff_eq hq (hprime f hf)).mp (hq.dvd_of_dvd_pow hdvd)
  exact fun hone => hpart f hf ((cast_pow_eq_one_iff hn _ _).mp hone)

end SigningEngine.Primality
