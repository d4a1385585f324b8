import Attestation.Der.ObjectId

/-!
Arcs of object identifiers, and the names registered for their members.
-/
namespace Attestation.ObjectId

/-- The numbers that the members of an arc begin with, and the names of the members. A name goes
with the last number; names of consecutive numbers form a run, which is given by its first number. -/
structure Arc where
  path : List Nat
  runs : List (Nat × List String)

namespace Arc

/-- The name in a run that starts at `first`. -/
def nameInRun? (n first : Nat) (names : List String) : Option String :=
  if first ≤ n then names[n - first]? else none

def name? (arc : Arc) (n : Nat) : Option String :=
  arc.runs.findSome? fun run => nameInRun? n run.1 run.2

end Arc

end Attestation.ObjectId
