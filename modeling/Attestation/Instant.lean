/-!
Points in time.
-/
namespace Attestation

/-- Nanoseconds since the first of January 1970, before it negative. -/
abbrev Instant := Int

namespace Instant

def perSecond : Nat := 1000000000

def ofSeconds (seconds : Nat) : Instant := Int.ofNat (perSecond * seconds)

/-- The whole seconds of a time that is not before 1970. -/
def wholeSeconds (now : Instant) : Nat := now.toNat / perSecond

/-- Nanoseconds from one time to another that is not before it. -/
def since? (start now : Instant) : Option Nat :=
  if start ≤ now then some (now - start).toNat else none

end Instant

end Attestation
