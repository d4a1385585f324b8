import Attestation.Binary64
import Attestation.Table

/-!
Structured values: the claims of tokens, the documents of key sets and the configuration.
-/
namespace Attestation

inductive Number where
  /-- A whole number from `-2 ^ 63` to `2 ^ 64 - 1`, written without fraction and exponent. -/
  | integer (n : Int)
  | real (x : Binary64)
  deriving DecidableEq, Repr

/-- The members of an object are in increasing order of name, each name once. -/
inductive Json where
  | null
  | bool (b : Bool)
  | number (n : Number)
  | string (s : String)
  | array (items : List Json)
  | object (members : List (String × Json))
  deriving Inhabited

namespace Json

def nat (n : Nat) : Json := number (.integer n)

/-- The object with the given members; the later of two members of one name stands. -/
def ofMembers (members : List (String × Json)) : Json :=
  object (members.foldl (fun ms m => insertEntry m.1 m.2 ms) [])

def strings (xs : List String) : Json := array (xs.map string)

def orNull : Option Json → Json
  | none => null
  | some v => v

/-- The member of an object with the given name. -/
def get? : Json → String → Option Json
  | object members, name => members.lookup name
  | _, _ => none

def asString? : Json → Option String
  | string s => some s
  | _ => none

end Json

end Attestation
