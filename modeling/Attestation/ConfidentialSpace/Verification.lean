import Attestation.EnclaveClaims
import Attestation.Jwt.Verification
import Attestation.LogEvent

/-!
Judgement of the claims of Confidential Space, and the platform as the one issuer of its tokens.
-/
namespace Attestation.ConfidentialSpace

def issuer : Jwt.Issuer where
  keysUrl := "https://www.googleapis.com/service_accounts/v1/metadata/jwk/" ++
    "signer@confidentialspace-sign.iam.gserviceaccount.com"
  expected := ⟨"https://confidentialcomputing.googleapis.com", some "https://sts.googleapis.com"⟩

def judge (rules : EnvironmentPolicy) (claims : Json) :
    Except VerificationError (EnclaveClaims × LogEvent) :=
  match Payload.ofJson? claims with
  | none => .error (.badFormat .gcpClaims)
  | some payload => do
    let approval ← (Policy.approve payload rules).mapError fun v => .policyViolation (.gcp v)
    return (
      { enclaveId := approval.enclaveId
        platform := .gcp
        rawClaims := claims
        workload := some approval.scope },
      .gcpVerified approval payload.imageReference payload.isDebug)

end Attestation.ConfidentialSpace
