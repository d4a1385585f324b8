import Attestation.Azure.Verification
import Attestation.ConfidentialSpace.Verification
import Attestation.Nitro.Verification

/-!
Verification of evidence of one configured platform. Beside the key cache there is no state; what a
verification asks for and what it reports are part of its outcome.
-/
namespace Attestation

inductive Engine where
  | nitro (root : Certificate)
  | azure (endpoint : String) (regions : List String)
  | gcp (rules : ConfidentialSpace.EnvironmentPolicy)

structure Outcome where
  result : Except VerificationError EnclaveClaims
  cache : KeyCache
  fetched : List String
  log : List LogEvent

namespace Engine

inductive SetupError where
  | nitro (cause : Nitro.RootError)
  deriving DecidableEq, Repr

def SetupError.message : SetupError → String
  | nitro cause => "failed to set up Nitro verification: " ++ cause.message

def ofConfig : PlatformConfig → Except SetupError Engine
  | .nitro root => ((Nitro.readRoot root).map Engine.nitro).mapError .nitro
  | .azure endpoint regions => .ok (.azure endpoint regions)
  | .gcp rules => .ok (.gcp rules)

def platform : Engine → Platform
  | nitro _ => .nitro
  | azure _ _ => .azure
  | gcp _ => .gcp

/-- What is reported of a result: that it passed, or that the policy refused it. -/
def report : Except VerificationError (EnclaveClaims × LogEvent) → List LogEvent
  | .ok (_, passed) => [passed]
  | .error (.policyViolation violation) => [.rejected violation]
  | .error _ => []

def conclude (l : Jwt.Lookup (EnclaveClaims × LogEvent)) : Outcome where
  result := l.result.map (·.1)
  cache := l.cache
  fetched := l.fetched
  log := l.warnings.map .keys ++ report l.result

/-- Nitro evidence carries its own keys, so the cache is left alone. -/
def verifyNitro (root : Certificate) (cache : KeyCache) (evidence : Bytes)
    (publicKey : Option String) (now : Instant) : Outcome :=
  let result := Nitro.verify root evidence publicKey now
  conclude ⟨result.map fun c => (c, .nitroVerified c.enclaveId), cache, [], []⟩

/-- Verifies evidence. The public key is the one, in base64, that the workload claims to hold:
Nitro compares it when it is given, Azure demands it, Confidential Space has no use for it. Nitro
evidence has no claims to look for in any order. -/
def verify (engine : Engine) (source : KeySource) (cache : KeyCache) (evidence : Bytes)
    (publicKey : Option String) (now : Instant) (order : Jwt.SearchOrder) : Outcome :=
  match engine with
  | nitro root => verifyNitro root cache evidence publicKey now
  | azure endpoint regions =>
    conclude ((Jwt.verify cache source (Azure.issuer endpoint) evidence now order).andThen
      (Azure.judge regions publicKey))
  | gcp rules =>
    conclude ((Jwt.verify cache source ConfidentialSpace.issuer evidence now order).andThen
      (ConfidentialSpace.judge rules))

/-- Verifies Nitro evidence against the root of the platform. -/
def verifyNitroDefault (cache : KeyCache) (evidence : Bytes) (publicKey : Option String)
    (now : Instant) : Outcome :=
  match Nitro.readRoot Nitro.rootCertificate with
  | .ok root => verifyNitro root cache evidence publicKey now
  | .error cause => ⟨.error (.certChainInvalid (.setup cause)), cache, [], []⟩

end Engine

end Attestation
