/-!
Sets of characters, as tables of character properties give them.
-/
namespace Attestation.Text

/-- The numbers at which membership changes, in increasing order: the first member, the first
character after it that is none, and so on. -/
structure CharSet where
  changes : List Nat

namespace CharSet

def contains (s : CharSet) (c : Char) : Bool :=
  (s.changes.takeWhile (· ≤ c.toNat)).length % 2 == 1

end CharSet

end Attestation.Text
