import Mathlib.Data.ZMod.Basic
import Mathlib.Tactic.Ring
import SigningEngine.Crypto.Modular

/-!
# Powers by squaring, and inverses

Squaring computes the power and its remainder: the recursion halves the exponent and reduces at each
step. Euclid's algorithm keeps both of its numbers multiples of the one to be inverted, by the
factors that go with them, and it ends with their greatest common divisor.
-/

namespace SigningEngine.Modular

theorem pow_eq (base exponent modulus : Nat) :
    pow base exponent modulus = base ^ exponent % modulus := by
  induction exponent using Nat.strongRecOn with
  | ind exponent ih =>
    rw [pow]
    split
    next h => rw [h, Nat.pow_zero]
    next h =>
      have hroot := ih (exponent / 2) (by omega)
      have hsquare : pow base (exponent / 2) modulus * pow base (exponent / 2) modulus % modulus =
          base ^ (2 * (exponent / 2)) % modulus := by
        rw [hroot, ← Nat.mul_mod, ← Nat.pow_add]
        congr 2
        omega
      simp only [hsquare]
      split
      next heven =>
        congr 2
        omega
      next hodd =>
        rw [Nat.mod_mul_mod, ← Nat.pow_succ]
        congr 2
        omega

/-- A factor of the next remainder, as it is kept below the modulus. -/
theorem cast_euclid_factor (modulus t₀ t₁ quotient : Nat) [NeZero modulus] :
    (((t₀ + (modulus - quotient * t₁ % modulus)) % modulus : Nat) : ZMod modulus) =
      t₀ - quotient * t₁ := by
  have hle : quotient * t₁ % modulus ≤ modulus := (Nat.mod_lt _ (NeZero.pos modulus)).le
  rw [ZMod.natCast_mod, Nat.cast_add, Nat.cast_sub hle, ZMod.natCast_mod, ZMod.natCast_self]
  push_cast
  ring

/-- What the algorithm gives takes `a` to one, as long as both of its numbers are multiples of `a`
by their factors. -/
theorem euclid_mul {modulus : Nat} [NeZero modulus] {a r₀ t₀ r₁ t₁ d : Nat}
    (h₀ : (r₀ : ZMod modulus) = t₀ * a) (h₁ : (r₁ : ZMod modulus) = t₁ * a)
    (h : euclid modulus r₀ t₀ r₁ t₁ = some d) : (d : ZMod modulus) * a = 1 := by
  fun_induction euclid modulus r₀ t₀ r₁ t₁ with
  | case1 t₀ t₁ =>
    obtain rfl : t₀ % modulus = d := by simpa using h
    rw [ZMod.natCast_mod, ← h₀, Nat.cast_one]
  | case2 r₀ t₀ t₁ hne => simp at h
  | case3 r₀ t₀ r₁ t₁ hne ih =>
    have hsplit : (r₁ : ZMod modulus) * (r₀ / r₁ : Nat) + (r₀ % r₁ : Nat) = r₀ := by
      rw [← Nat.cast_mul, ← Nat.cast_add, Nat.div_add_mod]
    refine ih h₁ ?_ h
    rw [cast_euclid_factor, eq_sub_of_add_eq' hsplit, h₀, h₁]
    ring

theorem euclid_isSome (modulus r₀ t₀ r₁ t₁ : Nat) :
    (euclid modulus r₀ t₀ r₁ t₁).isSome ↔ r₀.gcd r₁ = 1 := by
  fun_induction euclid modulus r₀ t₀ r₁ t₁ with
  | case1 t₀ t₁ => simp
  | case2 r₀ t₀ t₁ hne => simpa using hne
  | case3 r₀ t₀ r₁ t₁ hne ih =>
    rw [ih, Nat.gcd_comm r₀ r₁, Nat.gcd_rec r₁ r₀, Nat.gcd_comm r₁]

theorem inverse?_mul {a modulus d : Nat} [NeZero modulus] (h : inverse? a modulus = some d) :
    (d : ZMod modulus) * a = 1 :=
  euclid_mul (by simp) (by simp) h

theorem inverse?_isSome (a modulus : Nat) : (inverse? a modulus).isSome ↔ a.Coprime modulus := by
  rw [inverse?, euclid_isSome, Nat.gcd_comm, ← Nat.gcd_rec, Nat.gcd_comm]

end SigningEngine.Modular
