import Attestation.Jwt.Authenticity
import Attestation.VerificationError

/-!
Verification of tokens. The header of a token names a key, the key is looked up where the issuer
publishes it, and the claims are handed out once signature, identity and lifetime have passed.
-/
namespace Attestation.Jwt

/-- What is known of the issuer of a token: who it is, and where its keys are. -/
structure Issuer where
  keysUrl : String
  expected : Expectations
  deriving DecidableEq, Repr

/-- A result with the state of the key cache after it and the trace of what was asked of it. -/
structure Lookup (α : Type) where
  result : Except VerificationError α
  cache : KeyCache
  fetched : List String
  warnings : List KeyCache.Warning

/-- Goes on with a result; the cache is not touched any more. -/
def Lookup.andThen {α β : Type} (l : Lookup α) (next : α → Except VerificationError β) : Lookup β :=
  { l with result := l.result >>= next }

def readToken (evidence : Bytes) : Except VerificationError (Evidence × String) :=
  (do
    let token ← Evidence.ofBytes evidence
    let id ← token.keyId
    return (token, id)).mapError fun e => .badFormat (.token e)

/-- Looks up the key that a token names. -/
def findKey (cache : KeyCache) (source : KeySource) (url id : String) (now : Instant) :
    Lookup VerificationKey :=
  let r := cache.resolve source url id now
  ⟨r.answer.mapError fun e => .keyFetch (.cache e), r.cache, r.fetched, r.warnings⟩

/-- The claims of a token that the key signed, from the expected issuer, at a time when it is valid. -/
def claimsOf (token : Evidence) (key : VerificationKey) (expected : Expectations) (now : Instant)
    (order : SearchOrder) : Except VerificationError Json := do
  let claims ← (token.authenticate key expected order).mapError VerificationError.ofFault
  (Lifetime.check claims now).mapError VerificationError.ofLifetime
  return claims

/-- A token that cannot be read, or that names no key, asks for nothing. -/
def verify (cache : KeyCache) (source : KeySource) (issuer : Issuer) (evidence : Bytes)
    (now : Instant) (order : SearchOrder) : Lookup Json :=
  match readToken evidence with
  | .error e => ⟨.error e, cache, [], []⟩
  | .ok (token, id) =>
    (findKey cache source issuer.keysUrl id now).andThen fun key =>
      claimsOf token key issuer.expected now order

end Attestation.Jwt
