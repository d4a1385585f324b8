import Attestation.Der.ObjectId.Directory
import Attestation.Der.ObjectId.Security
import Attestation.Der.ObjectId.Services

/-!
The registered names of object identifiers. Where an identifier has several names, the shortest one
stands for it.
-/
namespace Attestation.ObjectId

def arcs : List Arc := directoryArcs ++ serviceArcs ++ securityArcs

/-- The name of the identifier with the given numbers. -/
def nameOf? (numbers : List Nat) : Option String := do
  let last ← numbers.getLast?
  let arc ← arcs.find? (·.path == numbers.dropLast)
  arc.name? last

/-- The name of an identifier. One with leading zeros in its encoding is another identifier than the
registered one, and has no name. -/
def name? (id : ObjectId) : Option String := do
  let numbers ← id.numbers?
  if ofNumbers numbers = id then nameOf? numbers else none

end Attestation.ObjectId
