import SigningEngine.Crypto.Modular

/-!
# The curve P-256

The points `(x, y)` with `y² = x³ - 3x + b` over the integers modulo a prime, and the point at
infinity, form a group of prime order. Multiples of a point are computed in coordinates `(X, Y, Z)`
that stand for the point `(X / Z², Y / Z³)`, and for the point at infinity when `Z` is zero, so that
only the end result needs a division.
-/

namespace SigningEngine.P256

/-- The size of the field of coordinates. -/
def fieldSize : Nat := 0xffffffff00000001000000000000000000000000ffffffffffffffffffffffff

/-- The order of the group. -/
def order : Nat := 0xffffffff00000000ffffffffffffffffbce6faada7179e84f3b9cac2fc632551

instance : @NeZero Nat Zero.ofOfNat0 fieldSize := ⟨by decide⟩

abbrev Coordinate := Fin fieldSize

inductive Point where
  | infinity
  | affine (x y : Coordinate)
  deriving DecidableEq, Repr

/-- The point that every public key is a multiple of. -/
def generator : Point :=
  .affine 0x6b17d1f2e12c4247f8bce6e563a440f277037d812deb33a0f4a13945d898c296
    0x4fe342e2fe1a7f9b8ee7eb4a7c0f9e162bce33576b315ececbb6406837bf51f5

structure Weighted where
  x : Coordinate
  y : Coordinate
  z : Coordinate

namespace Weighted

def infinity : Weighted := ⟨1, 1, 0⟩

def ofPoint : Point → Weighted
  | .infinity => infinity
  | .affine x y => ⟨x, y, 1⟩

def toPoint (p : Weighted) : Point :=
  if p.z = 0 then .infinity
  else
    let inverse : Coordinate := Fin.ofNat fieldSize ((Modular.inverse? p.z.val fieldSize).getD 0)
    let square := inverse * inverse
    .affine (p.x * square) (p.y * square * inverse)

def double (p : Weighted) : Weighted :=
  let delta := p.z * p.z
  let gamma := p.y * p.y
  let beta := p.x * gamma
  let alpha := 3 * (p.x - delta) * (p.x + delta)
  let x := alpha * alpha - 8 * beta
  let sum := p.y + p.z
  ⟨x, alpha * (4 * beta - x) - 8 * gamma * gamma, sum * sum - gamma - delta⟩

def add (p q : Weighted) : Weighted :=
  if p.z = 0 then q
  else if q.z = 0 then p
  else
    let p2 := p.z * p.z
    let q2 := q.z * q.z
    let u := p.x * q2
    let s := p.y * q2 * q.z
    let h := q.x * p2 - u
    let r := q.y * p2 * p.z - s
    if h = 0 then if r = 0 then p.double else infinity
    else
      let h2 := h * h
      let h3 := h2 * h
      let v := u * h2
      let x := r * r - h3 - 2 * v
      ⟨x, r * (v - x) - s * h3, p.z * q.z * h⟩

/-- The `n`-fold sum of a point, by doubling. -/
def multiple (n : Nat) (p : Weighted) : Weighted :=
  if n = 0 then infinity
  else
    let half := (multiple (n / 2) p).double
    if n % 2 = 0 then half else half.add p
termination_by n
decreasing_by omega

end Weighted

namespace Point

/-- `m • p + n • q`. -/
def combination (m : Nat) (p : Point) (n : Nat) (q : Point) : Point :=
  ((Weighted.multiple m (.ofPoint p)).add (Weighted.multiple n (.ofPoint q))).toPoint

def multiple (n : Nat) (p : Point) : Point := (Weighted.multiple n (.ofPoint p)).toPoint

end Point

end SigningEngine.P256
