import Attestation.Bytes
import Attestation.Modular

/-!
The elliptic curves `y ^ 2 = x ^ 3 - 3 * x + b` over prime fields, and the arithmetic of their
points in projective coordinates, where no step needs a division.
-/
namespace Attestation.Ecdsa

structure Curve where
  /-- Bytes of a field element and of a scalar. -/
  width : Nat
  prime : Nat
  b : Nat
  baseX : Nat
  baseY : Nat
  /-- The prime order of the base point. -/
  order : Nat

def p256 : Curve where
  width := 32
  prime := 0xffffffff00000001000000000000000000000000ffffffffffffffffffffffff
  b := 0x5ac635d8aa3a93e7b3ebbd55769886bc651d06b0cc53b0f63bce3c3e27d2604b
  baseX := 0x6b17d1f2e12c4247f8bce6e563a440f277037d812deb33a0f4a13945d898c296
  baseY := 0x4fe342e2fe1a7f9b8ee7eb4a7c0f9e162bce33576b315ececbb6406837bf51f5
  order := 0xffffffff00000000ffffffffffffffffbce6faada7179e84f3b9cac2fc632551

def p384 : Curve where
  width := 48
  prime := 0xfffffffffffffffffffffffffffffffffffffffffffffffffffffffffffffffeffffffff0000000000000000ffffffff
  b := 0xb3312fa7e23ee7e4988e056be3f82d19181d9c6efe8141120314088f5013875ac656398d8a2ed19d2a85c8edd3ec2aef
  baseX := 0xaa87ca22be8b05378eb1c71ef320ad746e1d3b628ba79b9859f741e082542a385502f25dbf55296c3a545e3872760ab7
  baseY := 0x3617de4a96262c6f5d9e98bf9292dc29f8f41dbd289a147ce9da3113b5f0b8c00a60b1ce1d7e819d7a431d7c90ea0e5f
  order := 0xffffffffffffffffffffffffffffffffffffffffffffffffc7634d81f4372ddf581a0db248b0a77aecec196accc52973

/-- A point other than the neutral one. -/
structure Point where
  x : Nat
  y : Nat
  deriving DecidableEq, Repr

namespace Curve

def rightSide (c : Curve) (x : Nat) : Nat :=
  Modular.sub c.prime (x * x % c.prime * x + c.b) (3 * x)

def contains (c : Curve) (q : Point) : Bool :=
  q.x < c.prime && q.y < c.prime && q.y * q.y % c.prime == c.rightSide q.x

def base (c : Curve) : Point := ⟨c.baseX, c.baseY⟩

/-- The point `(x / z ^ 2, y / z ^ 3)`, or the neutral one if `z` is zero. -/
structure Projective where
  x : Nat
  y : Nat
  z : Nat

def neutral : Projective := ⟨1, 1, 0⟩

def Projective.ofPoint (q : Point) : Projective := ⟨q.x, q.y, 1⟩

/-- The tangent at a point meets the curve in the negative of its double. -/
def double (c : Curve) (q : Projective) : Projective :=
  let p := c.prime
  let delta := q.z * q.z % p
  let gamma := q.y * q.y % p
  let beta := q.x * gamma % p
  let alpha := 3 * (Modular.sub p q.x delta * (q.x + delta)) % p
  let x := Modular.sub p (alpha * alpha) (8 * beta)
  let y := Modular.sub p (alpha * Modular.sub p (4 * beta) x) (8 * (gamma * gamma))
  ⟨x, y, 2 * q.y * q.z % p⟩

/-- The line through two points meets the curve in the negative of their sum. -/
def add (c : Curve) (q r : Projective) : Projective :=
  let p := c.prime
  if q.z = 0 then r
  else if r.z = 0 then q
  else
    let qz := q.z * q.z % p
    let rz := r.z * r.z % p
    let u := q.x * rz % p
    let v := r.x * qz % p
    let s := q.y * rz % p * r.z % p
    let t := r.y * qz % p * q.z % p
    if u = v then if s = t then c.double q else neutral
    else
      let h := Modular.sub p v u
      let k := Modular.sub p t s
      let h2 := h * h % p
      let h3 := h2 * h % p
      let w := u * h2 % p
      let x := Modular.sub p (k * k) (h3 + 2 * w)
      let y := Modular.sub p (k * Modular.sub p w x) (s * h3)
      ⟨x, y, h * q.z % p * r.z % p⟩

def timesWithin (c : Curve) : Nat → Nat → Projective → Projective
  | 0, _, _ => neutral
  | bits + 1, n, q =>
    if n = 0 then neutral
    else
      let rest := timesWithin c bits (n / 2) (c.double q)
      if n % 2 = 1 then c.add q rest else rest

/-- The sum of `n` copies of a point. -/
def times (c : Curve) (n : Nat) (q : Projective) : Projective := c.timesWithin (n.log2 + 1) n q

/-- The first coordinate of a point other than the neutral one. -/
def firstCoordinate? (c : Curve) (q : Projective) : Option Nat :=
  if q.z % c.prime = 0 then none
  else
    let i := Modular.inv c.prime q.z
    some (q.x * (i * i % c.prime) % c.prime)

/-! Encodings of points. -/

/-- The point over a first coordinate whose second one has the given parity. -/
def decompress? (c : Curve) (x parity : Nat) : Option Point :=
  if x < c.prime then
    (Modular.sqrt? c.prime (c.rightSide x)).map fun y =>
      ⟨x, if y % 2 = parity then y else Modular.sub c.prime 0 y⟩
  else none

/-- The point over a first coordinate with the smaller second one. -/
def decompact? (c : Curve) (x : Nat) : Option Point :=
  (c.decompress? x 0).map fun q => ⟨x, min q.y (Modular.sub c.prime 0 q.y)⟩

def checked? (c : Curve) (q : Point) : Option Point := if c.contains q then some q else none

/-- Reads a point: both coordinates, or the first one and which of the two points over it is
meant. The neutral point is no key. -/
def point? (c : Curve) : Bytes → Option Point
  | [] => none
  | form :: rest =>
    if form = 4 ∧ rest.length = 2 * c.width then
      c.checked? ⟨Bytes.toNat (rest.take c.width), Bytes.toNat (rest.drop c.width)⟩
    else if rest.length = c.width then
      if form = 2 then c.decompress? (Bytes.toNat rest) 0
      else if form = 3 then c.decompress? (Bytes.toNat rest) 1
      else if form = 5 then c.decompact? (Bytes.toNat rest)
      else none
    else none

end Curve

end Attestation.Ecdsa
