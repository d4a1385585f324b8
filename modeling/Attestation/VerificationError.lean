import Attestation.Azure.Policy
import Attestation.ConfidentialSpace.Policy
import Attestation.Ecdsa.P384
import Attestation.Jwt.Evidence
import Attestation.Jwt.Fault
import Attestation.Jwt.Lifetime
import Attestation.KeyCache
import Attestation.Nitro.Envelope
import Attestation.Nitro.Policy
import Attestation.Nitro.Root
import Attestation.Platform
import Attestation.TrustStore

/-!
Why evidence is refused. The kind of an error tells which stage refused it.
-/
namespace Attestation

inductive ErrorKind where
  | badFormat
  | signatureInvalid
  | certChainInvalid
  | keyFetchError
  | tokenExpired
  | tokenNotYetValid
  | audienceMismatch
  | issuerMismatch
  | policyViolation
  deriving DecidableEq, Repr

/-- The evidence cannot be read. -/
inductive FormatError where
  | envelope (cause : Nitro.Envelope.Error)
  | document (cause : Nitro.Document.Error)
  | certificate (cause : Certificate.Error)
  | token (cause : Jwt.Evidence.Error)
  | fault (cause : Jwt.Fault)
  | beforeEpoch
  | noExpiry
  | notNumericDate (name : String)
  | azureClaims
  | gcpClaims
  deriving DecidableEq, Repr

def FormatError.message : FormatError → String
  | envelope cause => cause.message
  | document cause => cause.message
  | certificate cause => cause.message
  | token cause => cause.message
  | fault cause => "malformed token: " ++ cause.text
  | beforeEpoch => "verification time is before the epoch"
  | noExpiry => "token has no exp claim"
  | notNumericDate name => name ++ " is not a NumericDate"
  | azureClaims => "unexpected MAA claims: not the expected members"
  | gcpClaims => "unexpected Confidential Space claims: not the expected members"

/-- The signature does not belong to the evidence. -/
inductive SignatureError where
  | leafKey (cause : Certificate.Error)
  | leaf (cause : Ecdsa.P384.Error)
  | token
  | algorithm (cause : Jwt.Fault)
  deriving DecidableEq, Repr

def SignatureError.message : SignatureError → String
  | leafKey cause => cause.message
  | leaf cause => cause.message
  | token => "token signature does not verify"
  | algorithm cause => "unacceptable signing algorithm: " ++ cause.text

/-- The certificates do not lead to the root. -/
inductive ChainError where
  | setup (cause : Nitro.RootError)
  | root (cause : TrustStore.Error)
  | path (cause : TrustStore.Error)
  deriving DecidableEq, Repr

def ChainError.message : ChainError → String
  | setup cause => cause.message
  | root cause => cause.message
  | path cause => "failed to verify attestation certificate chain: " ++ cause.message

/-- There is no key to verify a token with. -/
inductive KeyError where
  | cache (cause : KeyCache.Error)
  | unusable (cause : Jwt.Fault)
  deriving DecidableEq, Repr

def KeyError.message : KeyError → String
  | cache cause => cause.message
  | unusable cause => "unusable verification key: " ++ cause.text

/-- Authentic claims that a platform's policy does not accept. -/
inductive Violation where
  | nitro (cause : Nitro.Violation)
  | azure (cause : Azure.Violation)
  | gcp (cause : ConfidentialSpace.Violation)
  deriving DecidableEq, Repr

def Violation.reason : Violation → String
  | nitro cause => cause.reason
  | azure cause => cause.reason
  | gcp cause => cause.reason

def Violation.platform : Violation → Platform
  | nitro _ => .nitro
  | azure _ => .azure
  | gcp _ => .gcp

inductive VerificationError where
  | badFormat (cause : FormatError)
  | signatureInvalid (cause : SignatureError)
  | certChainInvalid (cause : ChainError)
  | keyFetch (cause : KeyError)
  | tokenExpired
  | tokenNotYetValid
  | audienceMismatch
  | issuerMismatch
  | policyViolation (violation : Violation)
  deriving DecidableEq, Repr

namespace VerificationError

def kind : VerificationError → ErrorKind
  | badFormat _ => .badFormat
  | signatureInvalid _ => .signatureInvalid
  | certChainInvalid _ => .certChainInvalid
  | keyFetch _ => .keyFetchError
  | tokenExpired => .tokenExpired
  | tokenNotYetValid => .tokenNotYetValid
  | audienceMismatch => .audienceMismatch
  | issuerMismatch => .issuerMismatch
  | policyViolation _ => .policyViolation

def message : VerificationError → String
  | badFormat cause => "malformed evidence: " ++ cause.message
  | signatureInvalid cause => "invalid signature: " ++ cause.message
  | certChainInvalid cause => "invalid certificate chain: " ++ cause.message
  | keyFetch cause => "unable to obtain verification key: " ++ cause.message
  | tokenExpired => "token has expired"
  | tokenNotYetValid => "token is not valid yet"
  | audienceMismatch => "token audience mismatch"
  | issuerMismatch => "token issuer mismatch"
  | policyViolation violation => "policy violation: " ++ violation.reason

/-- The stage that a fault of a token belongs to. -/
def ofFault : Jwt.Fault → VerificationError
  | .expired => tokenExpired
  | .immature => tokenNotYetValid
  | .invalidAudience => audienceMismatch
  | .invalidIssuer => issuerMismatch
  | .missingClaim name =>
    if name = "aud" then audienceMismatch
    else if name = "iss" then issuerMismatch
    else badFormat (.fault (.missingClaim name))
  | .invalidSignature => signatureInvalid .token
  | .invalidAlgorithm => signatureInvalid (.algorithm .invalidAlgorithm)
  | .invalidAlgorithmName => signatureInvalid (.algorithm .invalidAlgorithmName)
  | .missingAlgorithm => signatureInvalid (.algorithm .missingAlgorithm)
  | .invalidCurveKey => keyFetch (.unusable .invalidCurveKey)
  | .invalidRsaKey reason => keyFetch (.unusable (.invalidRsaKey reason))
  | .invalidKeyFormat => keyFetch (.unusable .invalidKeyFormat)
  | fault => badFormat (.fault fault)

def ofLifetime : Jwt.Lifetime.Error → VerificationError
  | .beforeEpoch => badFormat .beforeEpoch
  | .noExpiry => badFormat .noExpiry
  | .notNumericDate name => badFormat (.notNumericDate name)
  | .expired => tokenExpired
  | .notYetValid => tokenNotYetValid

end VerificationError

end Attestation
