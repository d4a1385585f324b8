import Attestation.Configuration
import Attestation.EnclaveClaims
import Attestation.Jwt.Verification
import Attestation.LogEvent

/-!
Judgement of the claims of an Azure attestation service, and the service as an issuer of tokens.
-/
namespace Attestation.Azure

def issuer (endpoint : String) : Jwt.Issuer where
  keysUrl := PlatformConfig.certificatesUrl endpoint
  expected := ⟨PlatformConfig.issuer endpoint, none⟩

def judge (regions : List String) (expectedKey : Option String) (claims : Json) :
    Except VerificationError (EnclaveClaims × LogEvent) :=
  match Payload.ofJson? claims with
  | none => .error (.badFormat .azureClaims)
  | some payload => do
    let id ← (Policy.enclaveId payload expectedKey regions).mapError fun v =>
      .policyViolation (.azure v)
    return ({ enclaveId := id, platform := .azure, rawClaims := claims, workload := none },
      .azureVerified id payload.runtime.location)

end Attestation.Azure
