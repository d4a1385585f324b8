import Attestation.Instant
import Attestation.Json.Basic

/-!
The time during which a token is valid, in whole seconds since 1970 with some leeway at both ends.
-/
namespace Attestation.Jwt.Lifetime

inductive Error where
  | beforeEpoch
  | noExpiry
  | notNumericDate (name : String)
  | expired
  | notYetValid
  deriving DecidableEq, Repr

/-- Seconds by which the clocks of issuer and verifier may differ. -/
def leeway : Nat := 60

/-- Seconds are counted in 64 bits; where a count would be greater it stays at the greatest. -/
def greatest : Nat := 1 <<< 64 - 1

def saturate (n : Nat) : Nat := min n greatest

/-- The whole seconds of a number that is at least zero. -/
def seconds? : Number → Option Nat
  | .integer n => if 0 ≤ n then some (saturate n.toNat) else none
  | .real x => if x.isNonnegative then some (saturate x.truncate) else none

/-- A time among the claims; an absent one and one that is null are the same. -/
def numericDate (claims : Json) (name : String) : Except Error (Option Nat) :=
  match claims.get? name with
  | none => .ok none
  | some .null => .ok none
  | some (.number n) => (seconds? n).elim (.error (.notNumericDate name)) fun s => .ok (some s)
  | some _ => .error (.notNumericDate name)

def checkAt (claims : Json) (now : Nat) : Except Error Unit := do
  match ← numericDate claims "exp" with
  | none => .error .noExpiry
  | some expiry =>
    if saturate (expiry + leeway) < now then .error .expired
    else
      match ← numericDate claims "nbf" with
      | none => return ()
      | some start => if saturate (now + leeway) < start then .error .notYetValid else return ()

def check (claims : Json) (now : Instant) : Except Error Unit :=
  if now < 0 then .error .beforeEpoch else checkAt claims now.wholeSeconds

end Attestation.Jwt.Lifetime
