import Attestation.Jwt.Evidence
import Attestation.Jwt.Identity
import Attestation.Jwt.VerificationKey

/-!
Whether a token was signed by a key and says what is expected of its issuer. Claims are handed out
only after that.
-/
namespace Attestation.Jwt.Evidence

def checkSignature (e : Evidence) (key : VerificationKey) : Except Fault Unit :=
  if !key.algorithms.contains e.header.algorithm then .error .invalidAlgorithm
  else if key.verify e.signedBytes e.signature e.header.algorithm then .ok ()
  else .error .invalidSignature

def claims? (e : Evidence) : Option Json := Json.parse? e.payload

def identity? (e : Evidence) : Option Identity := Json.Tree.parse? e.payload >>= Identity.ofTree?

/-- The claims of a token whose signature and identity are as expected. Its lifetime is another
matter. -/
def authenticate (e : Evidence) (key : VerificationKey) (expected : Expectations)
    (order : SearchOrder) : Except Fault Json := do
  e.checkSignature key
  match e.claims?, e.identity? with
  | some claims, some identity =>
    identity.check expected order
    return claims
  | _, _ => .error .unreadableClaims

end Attestation.Jwt.Evidence
