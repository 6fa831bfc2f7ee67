import Mathlib.AlgebraicGeometry.EllipticCurve.Affine.Point
import Mathlib.Tactic.FieldSimp
import SigningEngine.Proofs.Crypto.P256.Primes

/-!
# Weighted coordinates compute in the group of the curve

Coordinates are numbers below a prime, so they stand for elements of a field. Weighted coordinates
stand for a point of the curve over that field. Doubling and adding them gives what stands for the
sum in the group of the curve, in all cases: for the point at infinity, for equal points and for
opposite ones. So multiples are computed as well, and points that are the same in the group get the
same coordinates in the end.

The main statements are `multiple_eq`, `combination_eq` and `exists_denotes_generator`.
-/

namespace SigningEngine.P256

instance : Fact fieldSize.Prime := ⟨prime_fieldSize⟩

/-! ### Coordinates as elements of the field -/

/-- The element of the field that a coordinate stands for. -/
def element (c : Coordinate) : ZMod fieldSize := (c.val : ZMod fieldSize)

@[simp] theorem element_add (a b : Coordinate) : element (a + b) = element a + element b := by
  rw [element, Fin.val_add, ZMod.natCast_mod, Nat.cast_add]
  rfl

@[simp] theorem element_mul (a b : Coordinate) : element (a * b) = element a * element b := by
  rw [element, Fin.val_mul, ZMod.natCast_mod, Nat.cast_mul]
  rfl

@[simp] theorem element_sub (a b : Coordinate) : element (a - b) = element a - element b := by
  rw [element, Fin.sub_def]
  simp only [ZMod.natCast_mod, Nat.cast_add]
  rw [Nat.cast_sub b.isLt.le, ZMod.natCast_self, element, element]
  ring

theorem element_ofNat (n : Nat) : element (Fin.ofNat fieldSize n) = n :=
  ZMod.natCast_mod n fieldSize

@[simp] theorem element_zero : element 0 = 0 := (element_ofNat 0).trans Nat.cast_zero

@[simp] theorem element_one : element 1 = 1 := (element_ofNat 1).trans Nat.cast_one

@[simp] theorem element_literal (n : Nat) [n.AtLeastTwo] :
    element ofNat(n) = OfNat.ofNat n := (element_ofNat n).trans Nat.cast_ofNat

theorem element_inj {a b : Coordinate} : element a = element b ↔ a = b := by
  rw [element, element, ZMod.natCast_eq_natCast_iff', Nat.mod_eq_of_lt a.isLt,
    Nat.mod_eq_of_lt b.isLt, Fin.val_inj]

theorem element_eq_zero {a : Coordinate} : element a = 0 ↔ a = 0 := by
  rw [← element_zero, element_inj]

theorem two_ne_zero : (2 : ZMod fieldSize) ≠ 0 := by
  rw [← element_literal, ne_eq, element_eq_zero]
  decide +kernel

/-! ### The curve -/

/-- The coefficient `b` of the curve. -/
def coefficient : Coordinate := 0x5ac635d8aa3a93e7b3ebbd55769886bc651d06b0cc53b0f63bce3c3e27d2604b

/-- The curve `y² = x³ - 3x + b`. -/
def curve : WeierstrassCurve.Affine (ZMod fieldSize) where
  a₁ := 0
  a₂ := 0
  a₃ := 0
  a₄ := -3
  a₆ := element coefficient

theorem discriminant_ne_zero : curve.Δ ≠ 0 := by
  have hvalue : curve.Δ = element (432 * (4 - coefficient * coefficient)) := by
    simp only [WeierstrassCurve.Δ, WeierstrassCurve.b₂, WeierstrassCurve.b₄, WeierstrassCurve.b₆,
      WeierstrassCurve.b₈, curve, element_mul, element_sub, element_literal]
    ring
  rw [hvalue, ne_eq, element_eq_zero]
  decide +kernel

open WeierstrassCurve.Affine

theorem equation_iff {x y : ZMod fieldSize} :
    curve.Equation x y ↔ y ^ 2 = x ^ 3 - 3 * x + element coefficient := by
  rw [WeierstrassCurve.Affine.equation_iff]
  simp only [curve, zero_mul, add_zero, neg_mul, ← sub_eq_add_neg]

theorem negY_eq (x y : ZMod fieldSize) : curve.negY x y = -y := by
  simp only [negY, curve, zero_mul, sub_zero]

theorem eq_negY_iff {x y : ZMod fieldSize} : y = curve.negY x y ↔ y = 0 := by
  rw [negY_eq, eq_neg_iff_add_eq_zero, ← two_mul, mul_eq_zero, or_iff_right two_ne_zero]

/-- The slope of a tangent. -/
theorem slope_self_mul {x y : ZMod fieldSize} (hy : y ≠ 0) :
    curve.slope x x y y * (2 * y) = 3 * x ^ 2 - 3 := by
  have hne : y ≠ curve.negY x y := fun h => hy (eq_negY_iff.mp h)
  have htwice : y - curve.negY x y = 2 * y := by
    rw [negY_eq]
    ring
  rw [slope_of_Y_ne rfl hne, htwice, div_mul_cancel₀ _ (mul_ne_zero two_ne_zero hy)]
  simp only [curve]
  ring

theorem addX_eq (x₁ x₂ ℓ : ZMod fieldSize) : curve.addX x₁ x₂ ℓ = ℓ ^ 2 - x₁ - x₂ := by
  simp only [addX, curve]
  ring

theorem addY_eq (x₁ x₂ y₁ ℓ : ZMod fieldSize) :
    curve.addY x₁ x₂ y₁ ℓ = ℓ * (x₁ - curve.addX x₁ x₂ ℓ) - y₁ := by
  rw [addY, negY_eq, negAddY]
  ring

namespace Weighted

/-- Weighted coordinates stand for a point of the curve. -/
def Denotes (p : Weighted) : curve.Point → Prop
  | .zero => p.z = 0
  | .some x y _ =>
    element p.z ≠ 0 ∧ element p.x = x * element p.z ^ 2 ∧ element p.y = y * element p.z ^ 3

variable {p q : Weighted} {P Q : curve.Point}

theorem denotes_infinity : infinity.Denotes 0 := rfl

theorem Denotes.eq_zero_iff (h : p.Denotes P) : P = 0 ↔ p.z = 0 := by
  cases P with
  | zero => exact iff_of_true rfl h
  | some x y hcurve =>
      exact iff_of_false (Point.some_ne_zero hcurve) fun hz => h.1 (element_eq_zero.mpr hz)

/-- The coordinates of a double, where `α` is what the slope of the tangent is multiplied with. -/
theorem element_double (p : Weighted) :
    let α := 3 * (element p.x - element p.z ^ 2) * (element p.x + element p.z ^ 2)
    element p.double.x = α ^ 2 - 8 * (element p.x * element p.y ^ 2) ∧
      element p.double.y =
        α * (4 * (element p.x * element p.y ^ 2) - element p.double.x) - 8 * element p.y ^ 4 ∧
      element p.double.z = 2 * element p.y * element p.z := by
  refine ⟨?_, ?_, ?_⟩ <;>
    simp only [double, element_add, element_sub, element_mul, element_literal] <;> ring

/-- The sum of a point with itself. -/
theorem Denotes.double (h : p.Denotes P) : p.double.Denotes (P + P) := by
  obtain ⟨hx, hy, hz⟩ := element_double p
  cases P with
  | zero =>
      have hinfinity : p.z = 0 := h
      show p.double.z = 0
      rw [← element_eq_zero, hz, hinfinity, element_zero, mul_zero]
  | some x y hcurve =>
      obtain ⟨hpz, hpx, hpy⟩ := h
      by_cases hflat : y = 0
      · rw [Point.add_self_of_Y_eq (eq_negY_iff.mpr hflat)]
        show p.double.z = 0
        rw [← element_eq_zero, hz, hpy, hflat, zero_mul, mul_zero, zero_mul]
      · rw [Point.add_self_of_Y_ne fun heq => hflat (eq_negY_iff.mp heq)]
        obtain ⟨ℓ, hℓ⟩ : ∃ ℓ, curve.slope x x y y = ℓ := ⟨_, rfl⟩
        have hslope : ℓ * (2 * y) = 3 * x ^ 2 - 3 := hℓ ▸ slope_self_mul hflat
        have hline : 3 * (element p.x - element p.z ^ 2) * (element p.x + element p.z ^ 2) =
            ℓ * element p.double.z := by
          rw [hz, hpx, hpy]
          linear_combination -(element p.z ^ 4) * hslope
        rw [hline] at hx hy
        have hxSum : element p.double.x = (ℓ ^ 2 - x - x) * element p.double.z ^ 2 := by
          rw [hx, hz, hpx, hpy]
          ring
        refine ⟨?_, ?_, ?_⟩
        · rw [hz, hpy]
          exact mul_ne_zero (mul_ne_zero two_ne_zero (mul_ne_zero hflat (pow_ne_zero 3 hpz))) hpz
        · rw [addX_eq, hℓ, hxSum]
        · rw [addY_eq, addX_eq, hℓ, hy, hxSum, hz, hpx, hpy]
          ring

/-- What tells apart the first coordinates of two points. -/
def runOf (p q : Weighted) : Coordinate := q.x * (p.z * p.z) - p.x * (q.z * q.z)

/-- What tells apart their second coordinates. -/
def riseOf (p q : Weighted) : Coordinate := q.y * (p.z * p.z) * p.z - p.y * (q.z * q.z) * q.z

theorem add_of_runOf_eq_zero (hp : p.z ≠ 0) (hq : q.z ≠ 0) (hrun : runOf p q = 0) :
    p.add q = if riseOf p q = 0 then p.double else infinity := by
  rw [runOf] at hrun
  rw [add, if_neg hp, if_neg hq]
  simp only [hrun, if_true]
  rfl

/-- The coordinates of the sum of two points with different first coordinates. -/
theorem element_add_of_runOf_ne_zero (hp : p.z ≠ 0) (hq : q.z ≠ 0) (hrun : runOf p q ≠ 0) :
    let run := element (runOf p q)
    let rise := element (riseOf p q)
    let v := element p.x * element q.z ^ 2 * run ^ 2
    element (p.add q).x = rise ^ 2 - run ^ 3 - 2 * v ∧
      element (p.add q).y =
        rise * (v - element (p.add q).x) - element p.y * element q.z ^ 3 * run ^ 3 ∧
      element (p.add q).z = element p.z * element q.z * run := by
  rw [runOf] at hrun
  simp only [add, if_neg hp, if_neg hq, if_neg hrun]
  simp only [element_sub, element_mul, element_literal, runOf, riseOf]
  refine ⟨?_, ?_, trivial⟩ <;> ring

section Affine

variable {x₁ y₁ x₂ y₂ : ZMod fieldSize} {first : curve.Nonsingular x₁ y₁}
variable {second : curve.Nonsingular x₂ y₂}

theorem Denotes.z_ne_zero (hp : p.Denotes (.some x₁ y₁ first)) : p.z ≠ 0 :=
  fun hz => hp.1 (element_eq_zero.mpr hz)

theorem element_runOf (hp : p.Denotes (.some x₁ y₁ first)) (hq : q.Denotes (.some x₂ y₂ second)) :
    element (runOf p q) = (x₂ - x₁) * (element p.z * element q.z) ^ 2 := by
  simp only [runOf, element_sub, element_mul, hp.2.1, hq.2.1]
  ring

theorem element_riseOf (hp : p.Denotes (.some x₁ y₁ first))
    (hq : q.Denotes (.some x₂ y₂ second)) :
    element (riseOf p q) = (y₂ - y₁) * (element p.z * element q.z) ^ 3 := by
  simp only [riseOf, element_sub, element_mul, hp.2.2, hq.2.2]
  ring

theorem runOf_eq_zero_iff (hp : p.Denotes (.some x₁ y₁ first))
    (hq : q.Denotes (.some x₂ y₂ second)) : runOf p q = 0 ↔ x₁ = x₂ := by
  rw [← element_eq_zero, element_runOf hp hq, mul_eq_zero,
    or_iff_left (pow_ne_zero 2 (mul_ne_zero hp.1 hq.1)), sub_eq_zero, eq_comm]

theorem riseOf_eq_zero_iff (hp : p.Denotes (.some x₁ y₁ first))
    (hq : q.Denotes (.some x₂ y₂ second)) : riseOf p q = 0 ↔ y₁ = y₂ := by
  rw [← element_eq_zero, element_riseOf hp hq, mul_eq_zero,
    or_iff_left (pow_ne_zero 3 (mul_ne_zero hp.1 hq.1)), sub_eq_zero, eq_comm]

/-- Two points with the same first coordinate are the same, or opposite. -/
theorem Denotes.add_of_X_eq (hp : p.Denotes (.some x₁ y₁ first))
    (hq : q.Denotes (.some x₂ y₂ second)) (hx : x₁ = x₂) :
    (p.add q).Denotes (.some x₁ y₁ first + .some x₂ y₂ second) := by
  have hrise := riseOf_eq_zero_iff hp hq
  rw [add_of_runOf_eq_zero hp.z_ne_zero hq.z_ne_zero ((runOf_eq_zero_iff hp hq).mpr hx)]
  subst hx
  split
  next hy =>
    obtain rfl := hrise.mp hy
    exact hp.double
  next hy =>
    have hopposite := (Y_eq_of_X_eq first.left second.left rfl).resolve_left
      fun heq => hy (hrise.mpr heq)
    rw [Point.add_of_Y_eq rfl hopposite]
    exact denotes_infinity

theorem Denotes.add_of_X_ne (hp : p.Denotes (.some x₁ y₁ first))
    (hq : q.Denotes (.some x₂ y₂ second)) (hx : x₁ ≠ x₂) :
    (p.add q).Denotes (.some x₁ y₁ first + .some x₂ y₂ second) := by
  have hrun := element_runOf hp hq
  have hrise := element_riseOf hp hq
  obtain ⟨hxSum, hySum, hzSum⟩ := element_add_of_runOf_ne_zero hp.z_ne_zero hq.z_ne_zero
    fun heq => hx ((runOf_eq_zero_iff hp hq).mp heq)
  obtain ⟨hpz, hpx, hpy⟩ := hp
  have hscale : element p.z * element q.z ≠ 0 := mul_ne_zero hpz hq.1
  rw [Point.add_of_X_ne hx]
  obtain ⟨ℓ, hℓ⟩ : ∃ ℓ, curve.slope x₁ x₂ y₁ y₂ = ℓ := ⟨_, rfl⟩
  have hslope : ℓ * (x₂ - x₁) = y₂ - y₁ := by
    rw [← hℓ, slope_of_X_ne hx, ← neg_sub y₂, ← neg_sub x₂, neg_div_neg_eq,
      div_mul_cancel₀ _ (sub_ne_zero.mpr (Ne.symm hx))]
  have hline : element (riseOf p q) = ℓ * element (p.add q).z := by
    rw [hzSum, hrun, hrise, ← hslope]
    ring
  rw [hline] at hxSum hySum
  have hxAffine : element (p.add q).x = (ℓ ^ 2 - x₁ - x₂) * element (p.add q).z ^ 2 := by
    rw [hxSum, hzSum, hrun, hpx]
    ring
  refine ⟨?_, ?_, ?_⟩
  · rw [hzSum, hrun]
    exact mul_ne_zero hscale
      (mul_ne_zero (sub_ne_zero.mpr (Ne.symm hx)) (pow_ne_zero 2 hscale))
  · rw [addX_eq, hℓ, hxAffine]
  · rw [addY_eq, addX_eq, hℓ, hySum, hxAffine, hzSum, hrun, hpx, hpy]
    ring

end Affine

theorem Denotes.add (hp : p.Denotes P) (hq : q.Denotes Q) : (p.add q).Denotes (P + Q) := by
  cases P with
  | zero =>
      have hinfinity : p.z = 0 := hp
      rw [Weighted.add, if_pos hinfinity]
      exact (zero_add Q).symm ▸ hq
  | some x₁ y₁ first =>
      cases Q with
      | zero =>
          have hinfinity : q.z = 0 := hq
          rw [Weighted.add, if_neg hp.z_ne_zero, if_pos hinfinity]
          exact (add_zero (Point.some x₁ y₁ first)).symm ▸ hp
      | some x₂ y₂ second =>
          by_cases hx : x₁ = x₂
          · exact hp.add_of_X_eq hq hx
          · exact hp.add_of_X_ne hq hx

theorem Denotes.multiple (h : p.Denotes P) (n : Nat) : (multiple n p).Denotes (n • P) := by
  induction n using Nat.strongRecOn with
  | ind n ih =>
    rw [Weighted.multiple]
    split
    next hzero =>
      rw [hzero, zero_nsmul]
      exact denotes_infinity
    next hzero =>
      have hhalf : (Weighted.multiple (n / 2) p).double.Denotes ((2 * (n / 2)) • P) := by
        rw [mul_nsmul', two_nsmul]
        exact (ih (n / 2) (by omega)).double
      dsimp only
      split
      next heven =>
        have hn : 2 * (n / 2) = n := by omega
        rwa [hn] at hhalf
      next hodd =>
        have hn : 2 * (n / 2) + 1 = n := by omega
        rw [← hn, succ_nsmul, hn]
        exact hhalf.add h

/-! ### Points of the curve by their coordinates -/

/-- The coordinates of an element of the field. -/
def coordinate (e : ZMod fieldSize) : Coordinate := Fin.ofNat fieldSize e.val

@[simp] theorem element_coordinate (e : ZMod fieldSize) : element (coordinate e) = e := by
  rw [coordinate, element_ofNat, ZMod.natCast_zmod_val]

/-- A point of the curve, as points are given. -/
def coordinates : curve.Point → P256.Point
  | .zero => .infinity
  | .some x y _ => .affine (coordinate x) (coordinate y)

theorem denotes_coordinates (P : curve.Point) : (ofPoint (coordinates P)).Denotes P := by
  cases P with
  | zero => exact denotes_infinity
  | some x y hcurve =>
      have hone : element (ofPoint (coordinates (.some x y hcurve))).z = 1 := element_one
      refine ⟨?_, ?_, ?_⟩
      · rw [hone]
        exact one_ne_zero
      · rw [hone, one_pow, mul_one]
        exact element_coordinate x
      · rw [hone, one_pow, mul_one]
        exact element_coordinate y

theorem element_inverse {z : Coordinate} (hz : z ≠ 0) :
    element (Fin.ofNat fieldSize ((Modular.inverse? z.val fieldSize).getD 0)) = (element z)⁻¹ := by
  have hcoprime : z.val.Coprime fieldSize :=
    (Nat.coprime_of_lt_prime (Fin.val_ne_zero_iff.mpr hz) z.isLt prime_fieldSize).symm
  obtain ⟨d, hd⟩ := Option.isSome_iff_exists.mp ((Modular.inverse?_isSome _ _).mpr hcoprime)
  rw [hd, Option.getD_some, element_ofNat]
  exact eq_inv_of_mul_eq_one_left (Modular.inverse?_mul hd)

theorem Denotes.toPoint_eq (h : p.Denotes P) : p.toPoint = coordinates P := by
  cases P with
  | zero =>
      have hinfinity : p.z = 0 := h
      rw [toPoint, if_pos hinfinity]
      rfl
  | some x y hcurve =>
      have hz := h.z_ne_zero
      have hinverse := element_inverse hz
      obtain ⟨hpz, hpx, hpy⟩ := h
      rw [toPoint, if_neg hz]
      dsimp only
      generalize Fin.ofNat fieldSize ((Modular.inverse? p.z.val fieldSize).getD 0) = d at *
      rw [coordinates]
      congr 1
      · rw [← element_inj, element_coordinate, element_mul, element_mul, hinverse, hpx]
        field_simp
      · rw [← element_inj, element_coordinate, element_mul, element_mul, element_mul, hinverse, hpy]
        field_simp

end Weighted

open Weighted

theorem exists_denotes {x y : Coordinate} (h : y * y = x * x * x - 3 * x + coefficient) :
    ∃ P, (ofPoint (.affine x y)).Denotes P := by
  have hequation : curve.Equation (element x) (element y) := by
    rw [equation_iff, pow_two, ← element_mul, h]
    simp only [element_add, element_sub, element_mul, element_literal]
    ring
  refine ⟨.some _ _ ((equation_iff_nonsingular_of_Δ_ne_zero discriminant_ne_zero).mp hequation),
    ?_, ?_, ?_⟩ <;> simp [ofPoint]

/-- The generator is on the curve, and its multiples repeat after the order of the group. -/
theorem exists_denotes_generator :
    ∃ P, (ofPoint generator).Denotes P ∧ order • P = 0 := by
  have hcurve : ∃ P, (ofPoint generator).Denotes P := exists_denotes (by decide +kernel)
  have hinfinity : (multiple order (ofPoint generator)).z = 0 := by decide +kernel
  obtain ⟨P, hP⟩ := hcurve
  refine ⟨P, hP, ?_⟩
  generalize order = n at hinfinity ⊢
  exact (hP.multiple n).eq_zero_iff.mpr hinfinity

theorem multiple_eq {p : Point} {P : curve.Point} (h : (ofPoint p).Denotes P) (n : Nat) :
    p.multiple n = coordinates (n • P) :=
  (h.multiple n).toPoint_eq

theorem combination_eq {p q : Point} {P Q : curve.Point} (hp : (ofPoint p).Denotes P)
    (hq : (ofPoint q).Denotes Q) (m n : Nat) :
    Point.combination m p n q = coordinates (m • P + n • Q) :=
  ((hp.multiple m).add (hq.multiple n)).toPoint_eq

end SigningEngine.P256
