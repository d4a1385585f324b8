import Attestation.ConfidentialSpace.Scope
import Attestation.EnclaveId
import Attestation.Json.Basic
import Attestation.Platform

/-!
What verification hands out.
-/
namespace Attestation

structure EnclaveClaims where
  enclaveId : EnclaveId
  platform : Platform
  /-- The verified claims, kept for audit. -/
  rawClaims : Json
  /-- Where a workload is deployed, on the platform that says so. -/
  workload : Option ConfidentialSpace.Scope

def ConfidentialSpace.Scope.toJson (s : Scope) : Json :=
  .ofMembers [("environment", .string s.environment.name),
    ("identity_scope", .string s.identityScope.name)]

namespace EnclaveClaims

/-- An absent workload is left out. -/
def toJson (c : EnclaveClaims) : Json :=
  .ofMembers <|
    [("enclave_id", .string c.enclaveId.text), ("platform", .string c.platform.name),
      ("raw_claims", c.rawClaims)] ++ c.workload.toList.map fun s => ("workload", s.toJson)

end EnclaveClaims

end Attestation
