import Mathlib.Tactic.NormNum.Prime
import SigningEngine.Crypto.P256
import SigningEngine.Proofs.Crypto.Primality

/-!
# The field and the group of P-256 have prime size

Each prime comes with a base and with the primes of its predecessor. The smallest of these are found
prime by trial division, the others by Lucas's test in their turn.
-/

namespace SigningEngine.P256

open Primality

theorem prime_fieldSize : fieldSize.Prime := by
  have h₁ : Nat.Prime 66417393611 :=
    prime_of_lucasTest 6 [(2, 1), (5, 1), (53, 1), (173, 1), (197, 1), (3677, 1)]
      (by norm_num) (by decide +kernel)
  have h₂ : Nat.Prime 11290956913871 :=
    prime_of_lucasTest 13 [(2, 1), (5, 1), (17, 1), (66417393611, 1)]
      (by simp only [List.forall_mem_cons, h₁]; norm_num) (by decide +kernel)
  have h₃ : Nat.Prime 204061199 :=
    prime_of_lucasTest 11 [(2, 1), (11, 1), (23, 1), (107, 1), (3769, 1)]
      (by norm_num) (by decide +kernel)
  have h₄ : Nat.Prime 34282281433 :=
    prime_of_lucasTest 17 [(2, 3), (3, 1), (7, 1), (204061199, 1)]
      (by simp only [List.forall_mem_cons, h₃]; norm_num) (by decide +kernel)
  have h₅ : Nat.Prime 46076956964474543 :=
    prime_of_lucasTest 5 [(2, 1), (23, 1), (18169, 1), (78283, 1), (704251, 1)]
      (by norm_num) (by decide +kernel)
  have h₆ : Nat.Prime 774023187263532362759620327192479577272145303 :=
    prime_of_lucasTest 3 [(2, 1), (3, 2), (2411, 1), (34282281433, 1), (11290956913871, 1),
      (46076956964474543, 1)]
      (by simp only [List.forall_mem_cons, h₄, h₂, h₅]; norm_num) (by decide +kernel)
  have h₇ : Nat.Prime 835945042244614951780389953367877943453916927241 :=
    prime_of_lucasTest 11 [(2, 3), (3, 3), (5, 1),
      (774023187263532362759620327192479577272145303, 1)]
      (by simp only [List.forall_mem_cons, h₆]; norm_num) (by decide +kernel)
  exact prime_of_lucasTest 6 [(2, 1), (3, 1), (5, 2), (17, 1), (257, 1), (641, 1), (1531, 1),
    (65537, 1), (490463, 1), (6700417, 1), (835945042244614951780389953367877943453916927241, 1)]
    (by simp only [List.forall_mem_cons, h₇]; norm_num) (by decide +kernel)

theorem prime_order : order.Prime := by
  have h₁ : Nat.Prime 187019741 :=
    prime_of_lucasTest 2 [(2, 2), (5, 1), (9350987, 1)] (by norm_num) (by decide +kernel)
  have h₂ : Nat.Prime 311245691 :=
    prime_of_lucasTest 2 [(2, 1), (5, 1), (7, 1), (17, 1), (29, 2), (311, 1)]
      (by norm_num) (by decide +kernel)
  have h₃ : Nat.Prime 622491383 :=
    prime_of_lucasTest 5 [(2, 1), (311245691, 1)]
      (by simp only [List.forall_mem_cons, h₂]; norm_num) (by decide +kernel)
  have h₄ : Nat.Prime 1002328039319 :=
    prime_of_lucasTest 19 [(2, 1), (126241, 1), (3969899, 1)] (by norm_num) (by decide +kernel)
  have h₅ : Nat.Prime 191039911 :=
    prime_of_lucasTest 3 [(2, 1), (3, 1), (5, 1), (41, 1), (155317, 1)]
      (by norm_num) (by decide +kernel)
  have h₆ : Nat.Prime 208150935158385979 :=
    prime_of_lucasTest 2 [(2, 1), (3, 1), (11, 1), (43, 1), (127, 1), (3023, 1), (191039911, 1)]
      (by simp only [List.forall_mem_cons, h₅]; norm_num) (by decide +kernel)
  have h₇ : Nat.Prime 2624747550333869278416773953 :=
    prime_of_lucasTest 7 [(2, 6), (3, 2), (1297, 1), (16879, 1), (208150935158385979, 1)]
      (by simp only [List.forall_mem_cons, h₆]; norm_num) (by decide +kernel)
  exact prime_of_lucasTest 7 [(2, 4), (3, 1), (71, 1), (131, 1), (373, 1), (3407, 1), (17449, 1),
    (38189, 1), (187019741, 1), (622491383, 1), (1002328039319, 1),
    (2624747550333869278416773953, 1)]
    (by simp only [List.forall_mem_cons, h₁, h₃, h₄, h₇]; norm_num) (by decide +kernel)

end SigningEngine.P256
