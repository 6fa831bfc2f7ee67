import Mathlib.Algebra.Ring.Nat
import Mathlib.Data.List.Induction
import SigningEngine.Bytes

/-!
# The number of a byte string

Writing a number in a given length keeps its lowest bytes, hence the number itself when it fits. A
byte string is the only one of its length with its number.
-/

namespace SigningEngine.Bytes

theorem toNat_ofNat (length n : Nat) : toNat (ofNat length n) = n % 256 ^ length := by
  induction length generalizing n with
  | zero => simp [ofNat, Nat.mod_one]
  | succ length ih =>
    rw [ofNat, toNat_concat, ih, Nat.pow_succ, Nat.mul_comm (256 ^ length) 256, Nat.mod_mul]
    have hbyte : (UInt8.ofNat n).toNat = n % 256 := by simp
    omega

theorem toNat_ofNat_of_lt {length n : Nat} (h : n < 256 ^ length) :
    toNat (ofNat length n) = n := by
  rw [toNat_ofNat, Nat.mod_eq_of_lt h]

theorem toNat_lt (s : Bytes) : toNat s < 256 ^ s.length := by
  induction s using List.reverseRecOn with
  | nil => simp
  | append_singleton s b ih =>
    have hbyte : b.toNat < 256 := b.toNat_lt
    rw [toNat_concat, List.length_append, List.length_singleton, Nat.pow_succ]
    omega

@[simp] theorem ofNat_toNat (s : Bytes) : ofNat s.length (toNat s) = s := by
  induction s using List.reverseRecOn with
  | nil => rfl
  | append_singleton s b ih =>
    have hbyte : b.toNat < 256 := b.toNat_lt
    have hrest : (toNat s * 256 + b.toNat) / 256 = toNat s := by omega
    have hlast : UInt8.ofNat (toNat s * 256 + b.toNat) = b := by
      rw [← UInt8.toNat_inj, UInt8.toNat_ofNat']
      omega
    rw [List.length_append, List.length_singleton, ofNat, toNat_concat, hrest, hlast, ih]

@[simp] theorem toNat_zero_cons (s : Bytes) : toNat (0 :: s) = toNat s := rfl

end SigningEngine.Bytes
