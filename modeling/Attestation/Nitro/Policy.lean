import Attestation.EnclaveId
import Attestation.Nitro.Document

/-!
What an authentic document must state, and the identifier of the enclave it describes.
-/
namespace Attestation.Nitro

inductive Violation where
  | missingRegister (index : Nat)
  | debugMode
  | otherKey
  deriving DecidableEq, Repr

def Violation.reason : Violation → String
  | missingRegister index => "PCR" ++ toString index ++ " is missing"
  | debugMode => "enclave is running in debug mode"
  | otherKey => "enclave public key does not match the expected key"

namespace Policy

def register (d : Document) (index : Nat) : Except Violation Bytes :=
  match d.registers.get? index with
  | some value => .ok value
  | none => .error (.missingRegister index)

/-- The document holds the expected key, which is given in base64. -/
def holdsKey (d : Document) (expected : String) : Bool :=
  d.publicKey.map (Base64.encode Base64.standard) == some expected

/-- The identifier is the digest of the first three registers. An enclave in debug mode reports a
first register of zeros. -/
def enclaveId (d : Document) (expectedKey : Option String) : Except Violation EnclaveId := do
  let boot ← register d 0
  let kernel ← register d 1
  let application ← register d 2
  if boot.all (· == 0) then .error .debugMode
  else if expectedKey.any (!holdsKey d ·) then .error .otherKey
  else return EnclaveId.digestOf (boot ++ kernel ++ application)

end Policy

end Attestation.Nitro
