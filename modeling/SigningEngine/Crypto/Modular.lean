/-!
# Arithmetic modulo a number
-/

namespace SigningEngine.Modular

/-- `base ^ exponent` modulo `modulus`, by squaring. -/
def pow (base exponent modulus : Nat) : Nat :=
  if exponent = 0 then 1 % modulus
  else
    let root := pow base (exponent / 2) modulus
    let square := root * root % modulus
    if exponent % 2 = 0 then square else square * base % modulus
termination_by exponent
decreasing_by omega

/-- Euclid's algorithm on `r₀ ≡ t₀ * a` and `r₁ ≡ t₁ * a`: what `a` has to be multiplied with to
give the greatest common divisor of `r₀` and `r₁`, if that is one. -/
def euclid (modulus : Nat) (r₀ t₀ r₁ t₁ : Nat) : Option Nat :=
  if r₁ = 0 then if r₀ = 1 then some (t₀ % modulus) else none
  else
    euclid modulus r₁ t₁ (r₀ % r₁) ((t₀ + (modulus - r₀ / r₁ * t₁ % modulus)) % modulus)
termination_by r₁
decreasing_by exact Nat.mod_lt _ (by omega)

/-- The inverse of `a`, if it is coprime to the modulus. -/
def inverse? (a modulus : Nat) : Option Nat := euclid modulus modulus 0 (a % modulus) 1

end SigningEngine.Modular
