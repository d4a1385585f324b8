/-!
What can be wrong with a token or with the key it is checked against.
-/
namespace Attestation.Jwt

inductive Fault where
  | invalidToken
  | invalidSignature
  | invalidCurveKey
  | signingFailed
  | invalidRsaKey (reason : String)
  | invalidAlgorithmName
  | invalidKeyFormat
  | missingClaim (name : String)
  | expired
  | invalidIssuer
  | invalidAudience
  | invalidSubject
  | immature
  | invalidAlgorithm
  | missingAlgorithm
  | unreadableClaims
  | unreadableBase64
  deriving DecidableEq, Repr

namespace Fault

def text : Fault → String
  | invalidToken => "InvalidToken"
  | invalidSignature => "InvalidSignature"
  | invalidCurveKey => "InvalidEcdsaKey"
  | signingFailed => "RsaFailedSigning"
  | invalidRsaKey reason => "RSA key invalid: " ++ reason
  | invalidAlgorithmName => "InvalidAlgorithmName"
  | invalidKeyFormat => "InvalidKeyFormat"
  | missingClaim name => "Missing required claim: " ++ name
  | expired => "ExpiredSignature"
  | invalidIssuer => "InvalidIssuer"
  | invalidAudience => "InvalidAudience"
  | invalidSubject => "InvalidSubject"
  | immature => "ImmatureSignature"
  | invalidAlgorithm => "InvalidAlgorithm"
  | missingAlgorithm => "MissingAlgorithm"
  | unreadableClaims => "JSON error: unreadable claims"
  | unreadableBase64 => "Base64 error: unreadable text"

end Fault

end Attestation.Jwt
