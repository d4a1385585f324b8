/-!
Finite binary floating-point numbers with 53 significant bits, and the correctly rounded operations
on them. All arithmetic is exact on natural numbers until the one rounding at the end.
-/
namespace Attestation

/-- The number `± significand * 2 ^ exponent`. The significand is below `2 ^ 53`, the exponent not
below `-1074`, and the exponent is the least one possible for the number. -/
structure Binary64 where
  negative : Bool
  significand : Nat
  exponent : Int
  deriving DecidableEq, Repr

namespace Binary64

def leastExponent : Int := -1074

def greatestExponent : Int := 971

def zero : Binary64 := ⟨false, 0, leastExponent⟩

def neg (x : Binary64) : Binary64 := { x with negative := !x.negative }

def isZero (x : Binary64) : Bool := x.significand == 0

/-- The quotient rounded to the nearest natural number, a half to the even one. -/
def roundQuotient (num den : Nat) : Nat :=
  let q := num / den
  let r := num % den
  if 2 * r < den then q
  else if den < 2 * r then q + 1
  else q + q % 2

/-- `num / den` scaled by `2 ^ (-e)`, as a fraction. -/
def scaled (num den : Nat) (e : Int) : Nat × Nat :=
  if 0 ≤ e then (num, den <<< e.toNat) else (num <<< (-e).toNat, den)

/-- The exponent that leaves 53 bits before the point, or the least one if that is greater. -/
def exponentFor (num den : Nat) : Int :=
  let guess : Int := max (Int.ofNat num.log2 - Int.ofNat den.log2 - 52) leastExponent
  let (n, d) := scaled num den guess
  if n < d <<< 52 then max (guess - 1) leastExponent else guess

/-- The nearest number to `num / den`, a tie to the even significand; `none` past the greatest. -/
def ofQuotient? (num den : Nat) : Option Binary64 :=
  if num = 0 then some zero
  else
    let e := exponentFor num den
    let (n, d) := scaled num den e
    let m := roundQuotient n d
    let (m, e) := if m = 1 <<< 53 then (1 <<< 52, e + 1) else (m, e)
    if greatestExponent < e then none else some ⟨false, m, e⟩

/-- The magnitude as a fraction. -/
def fraction (x : Binary64) : Nat × Nat :=
  if 0 ≤ x.exponent then (x.significand <<< x.exponent.toNat, 1)
  else (x.significand, 1 <<< (-x.exponent).toNat)

def withSign (negative : Bool) (x : Binary64) : Binary64 := { x with negative := negative }

def mul? (x y : Binary64) : Option Binary64 :=
  let (a, b) := x.fraction
  let (c, d) := y.fraction
  (ofQuotient? (a * c) (b * d)).map (withSign (x.negative != y.negative))

/-- Division by a number that is not zero. -/
def div? (x y : Binary64) : Option Binary64 :=
  let (a, b) := x.fraction
  let (c, d) := y.fraction
  (ofQuotient? (a * d) (b * c)).map (withSign (x.negative != y.negative))

/-- The nearest number to a power of ten up to `10 ^ 308`. -/
def powerOfTen (k : Nat) : Binary64 := (ofQuotient? (Nat.pow 10 k) 1).getD zero

def divPowerOfTenWithin : Nat → Binary64 → Nat → Binary64
  | 0, x, _ => x
  | steps + 1, x, k =>
    if k ≤ 308 then (x.div? (powerOfTen k)).getD zero
    else if x.isZero then x
    else divPowerOfTenWithin steps ((x.div? (powerOfTen 308)).getD zero) (k - 308)

/-- Divides by `10 ^ k`, in steps of `10 ^ 308`, each of them rounded. -/
def divPowerOfTen (x : Binary64) (k : Nat) : Binary64 := divPowerOfTenWithin (k / 308 + 1) x k

/-- Reads `significand * 10 ^ exponent` in two roundings: of the significand, then of its product
or quotient with a rounded power of ten. `none` if the result is too large. -/
def ofDecimal? (significand : Nat) (exponent : Int) : Option Binary64 := do
  let x ← ofQuotient? significand 1
  if exponent < 0 then return x.divPowerOfTen (-exponent).toNat
  else if exponent ≤ 308 then x.mul? (powerOfTen exponent.toNat)
  else if x.isZero then return x
  else none

/-- The magnitude without its fractional part. -/
def truncate (x : Binary64) : Nat :=
  let (n, d) := x.fraction
  n / d

/-- Whether a number is at least zero; so is the negative zero. -/
def isNonnegative (x : Binary64) : Bool := !x.negative || x.isZero

/-!
The shortest decimal that reads back: of all decimals closer to the number than to its neighbours,
those with the fewest digits, and of these the nearest.
-/

/-- The bounds of the decimals that round to the number, and the number itself, over a common
denominator. -/
structure Interval where
  low : Nat
  value : Nat
  high : Nat
  denominator : Nat
  /-- Whether the bounds themselves round to the number. -/
  closed : Bool

/-- The bounds are half way to the neighbours; the lower neighbour of a power of two is nearer. -/
def interval (x : Binary64) : Interval :=
  let below := if x.significand = 1 <<< 52 ∧ leastExponent < x.exponent then 1 else 2
  let scale : Nat := 1 <<< (x.exponent - 2).toNat
  { low := (4 * x.significand - below) * scale
    value := 4 * x.significand * scale
    high := (4 * x.significand + 2) * scale
    denominator := 1 <<< (2 - x.exponent).toNat
    closed := x.significand % 2 == 0 }

namespace Interval

/-- Whether `digits * unit / per` lies within the bounds. -/
def covers (i : Interval) (digits unit per : Nat) : Bool :=
  let n := digits * unit * i.denominator
  if i.closed then decide (i.low * per ≤ n ∧ n ≤ i.high * per)
  else decide (i.low * per < n ∧ n < i.high * per)

/-- The nearest multiple of `10 ^ power` within the bounds, as its factor. -/
def onGrid? (i : Interval) (power : Int) : Option Nat :=
  let unit := Nat.pow 10 power.toNat
  let per := Nat.pow 10 (-power).toNat
  let below := i.value * per / (i.denominator * unit)
  let twice := 2 * i.value * per
  let middle := (2 * below + 1) * unit * i.denominator
  let upFirst := middle < twice ∨ middle = twice ∧ below % 2 = 1
  let order := if upFirst then [below + 1, below] else [below, below + 1]
  order.find? fun d => decide (0 < d) && i.covers d unit per

end Interval

/-- The digits and the power of ten of the shortest decimal of a number other than zero. -/
def shortest (x : Binary64) : Nat × Int :=
  let i := x.interval
  let magnitude : Int := Int.ofNat i.value.log2 - Int.ofNat i.denominator.log2
  let start : Int := magnitude * 30103 / 100000 + 2
  let found := (List.range 24).findSome? fun k =>
    let power := start - Int.ofNat k
    (i.onGrid? power).map (·, power)
  found.getD (0, 0)

end Binary64

end Attestation
