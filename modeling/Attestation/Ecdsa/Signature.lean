import Attestation.Der
import Attestation.Ecdsa.Curve

/-!
Signatures on elliptic curves: the pair of scalars, its two encodings, and the check against a
message digest.
-/
namespace Attestation.Ecdsa

/-- Two scalars from one to below the order of the curve. -/
structure Signature (c : Curve) where
  r : Nat
  s : Nat
  inRange : (0 < r ∧ r < c.order) ∧ 0 < s ∧ s < c.order

namespace Signature

def ofScalars? (c : Curve) (r s : Nat) : Option (Signature c) :=
  if h : (0 < r ∧ r < c.order) ∧ 0 < s ∧ s < c.order then some ⟨r, s, h⟩ else none

/-- Reads both scalars side by side, each as wide as a field element. -/
def ofRaw? (c : Curve) (raw : Bytes) : Option (Signature c) :=
  if raw.length = 2 * c.width then
    ofScalars? c (Bytes.toNat (raw.take c.width)) (Bytes.toNat (raw.drop c.width))
  else none

/-- A sequence of two integers. -/
def toDer {c : Curve} (sig : Signature c) : Bytes :=
  (Der.construct Der.sequence
    [Der.unsigned (Bytes.ofNat c.width sig.r), Der.unsigned (Bytes.ofNat c.width sig.s)]).encode

def ofDer? (c : Curve) (der : Bytes) : Option (Signature c) := do
  let outer ← Der.single? der
  match ← outer.inside? Der.sequence with
  | [r, s] =>
    let r ← r.expect? Der.integer >>= Der.unsigned?
    let s ← s.expect? Der.integer >>= Der.unsigned?
    ofScalars? c r s
  | _ => none

end Signature

/-- The number of a digest: its leftmost bytes, at most as many as a scalar has. -/
def digestNumber (c : Curve) (digest : Bytes) : Nat := Bytes.toNat (digest.take c.width)

/-- Whether the scalar `r` is the first coordinate of `(e / s) * base + (r / s) * key`. -/
def verify (c : Curve) (key : Point) (digest : Bytes) (sig : Signature c) : Bool :=
  let w := Modular.inv c.order sig.s
  let u := digestNumber c digest * w % c.order
  let v := sig.r * w % c.order
  let sum := c.add (c.times u (.ofPoint c.base)) (c.times v (.ofPoint key))
  match c.firstCoordinate? sum with
  | none => false
  | some x => x % c.order == sig.r

end Attestation.Ecdsa
