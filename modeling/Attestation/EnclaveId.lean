import Attestation.Base64
import Attestation.Digest.Sha2

/-!
Identifiers of enclaves.
-/
namespace Attestation

/-- A deterministic fingerprint of verified claims, used to look an enclave up in an allow list. -/
structure EnclaveId where
  text : String
  deriving DecidableEq, Repr

namespace EnclaveId

/-- The base64 text of the SHA-256 digest of a preimage. -/
def digestOf (preimage : Bytes) : EnclaveId :=
  ⟨Base64.encode Base64.standard (Sha2.sha256 preimage)⟩

end EnclaveId

end Attestation
