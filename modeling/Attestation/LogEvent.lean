import Attestation.VerificationError

/-!
What a verification reports beside its result.
-/
namespace Attestation

inductive LogEvent where
  | keys (warning : KeyCache.Warning)
  | rejected (violation : Violation)
  | nitroVerified (id : EnclaveId)
  | azureVerified (id : EnclaveId) (location : String)
  | gcpVerified (approval : ConfidentialSpace.Approval) (image : String) (debug : Bool)
  deriving DecidableEq, Repr

namespace LogEvent

def isWarning : LogEvent → Bool
  | keys _ => true
  | rejected _ => true
  | _ => false

def message : LogEvent → String
  | keys warning => warning.message
  | rejected violation =>
    violation.platform.name ++ " attestation rejected by policy: " ++ violation.reason
  | nitroVerified id => "verified nitro enclave " ++ id.text
  | azureVerified id location =>
    "verified azure confidential container " ++ id.text ++ " in " ++ location
  | gcpVerified approval image debug =>
    "verified confidential space workload " ++ approval.enclaveId.text ++ " (" ++ image ++
      ", debug: " ++ (if debug then "true" else "false") ++
      ", env: " ++ approval.scope.environment.name ++
      ", scope: " ++ approval.scope.identityScope.title ++ ")"

/-- The line of an event, which begins with its level. -/
def line (e : LogEvent) : String := (if e.isWarning then "WARN " else "INFO ") ++ e.message

end LogEvent

end Attestation
