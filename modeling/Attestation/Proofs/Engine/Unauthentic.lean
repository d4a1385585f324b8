import Attestation.Proofs.Engine.Stages
import Attestation.Proofs.Engine.Tokens

/-!
Tokens that nobody vouches for. A token is refused before its claims count for anything, so that who
makes up claims can change nothing about the outcome by what they say.
-/
namespace Attestation

open Checks

namespace Jwt

/-- The evidence reads as a token, and this is its header segment. -/
def ReadsAs (evidence : Bytes) (header : List Char) (token : Evidence) : Prop :=
  ∃ text payload signature, Utf8.decodeChars? evidence = some text ∧
    Text.trim text = header ++ '.' :: (payload ++ '.' :: signature) ∧
    Evidence.parse text = .ok token

/-- Nobody vouches for a token: it names no key, or the key is not found where its issuer publishes
keys, or the key did not sign it. -/
inductive Unvouched (cache : KeyCache) (source : KeySource) (url : String) (now : Instant)
    (token : Evidence) : Prop where
  | unnamed (hid : token.header.keyId = none)
  | unresolved (id : String) (cause : KeyCache.Error) (hid : token.header.keyId = some id)
      (hkey : (cache.resolve source url id now).answer = .error cause)
  | unsigned (id : String) (key : VerificationKey) (hid : token.header.keyId = some id)
      (hkey : (cache.resolve source url id now).answer = .ok key)
      (hsigned : key.verify token.signedBytes token.signature token.header.algorithm = false)

/-- What a key that signed nothing says against the token. -/
def misfit (algorithm : Algorithm) (key : VerificationKey) : VerificationError :=
  .signatureInvalid <|
    if key.algorithms.contains algorithm then .token else .algorithm .invalidAlgorithm

/-- The verification of a token of which no more than the header can be trusted to be there. -/
def refuse (cache : KeyCache) (source : KeySource) (url : String) (header : Header)
    (now : Instant) : Lookup Json :=
  match header.keyId with
  | none => ⟨.error (.badFormat (.token .noKeyId)), cache, [], []⟩
  | some id =>
    (findKey cache source url id now).andThen fun key => .error (misfit header.algorithm key)

/-- A refusal that has nothing to do with claims: neither with their time, issuer and audience, nor
with a policy, nor with the way they are written. -/
structure Blind (e : VerificationError) : Prop where
  lifetime : ∀ cause, e ≠ .ofLifetime cause
  issuer : e ≠ .issuerMismatch
  audience : e ≠ .audienceMismatch
  policy : ∀ violation, e ≠ .policyViolation violation
  format : ∀ cause, e = .badFormat cause → cause = .token .noKeyId

variable {cache : KeyCache} {source : KeySource} {issuer : Issuer} {now : Instant}
  {evidence evidence' : Bytes} {header : List Char} {token token' : Evidence}

theorem blind_noKeyId : Blind (.badFormat (.token .noKeyId)) where
  lifetime cause := by cases cause <;> simp [VerificationError.ofLifetime]
  issuer := by simp
  audience := by simp
  policy violation := by simp
  format cause h := by simpa using h.symm

theorem blind_of_kind {e : VerificationError}
    (h : e.kind = .keyFetchError ∨ e.kind = .signatureInvalid) : Blind e where
  lifetime cause he := by
    subst he
    cases cause <;> simp [VerificationError.ofLifetime, VerificationError.kind] at h
  issuer he := by simp [he, VerificationError.kind] at h
  audience he := by simp [he, VerificationError.kind] at h
  policy violation he := by simp [he, VerificationError.kind] at h
  format cause he := by simp [he, VerificationError.kind] at h

theorem refuse_result (cache : KeyCache) (source : KeySource) (url : String) (header : Header)
    (now : Instant) :
    ∃ e, (refuse cache source url header now).result = .error e ∧ Blind e := by
  unfold refuse
  cases header.keyId with
  | none => exact ⟨_, rfl, blind_noKeyId⟩
  | some id =>
    dsimp only [Lookup.andThen, findKey]
    cases (cache.resolve source url id now).answer with
    | error cause => exact ⟨_, rfl, blind_of_kind (.inl rfl)⟩
    | ok key => exact ⟨_, rfl, blind_of_kind (.inr rfl)⟩

/-! The claims of such a token are not reached. -/

/-- Two tokens with the same header segment have the same header. -/
theorem ReadsAs.header_eq (h : ReadsAs evidence header token)
    (h' : ReadsAs evidence' header token') : token.header = token'.header := by
  obtain ⟨_, _, _, _, hsegments, hparse⟩ := h
  obtain ⟨_, _, _, _, hsegments', hparse'⟩ := h'
  obtain ⟨⟨bytes, hbytes, hheader⟩, _⟩ := ofSegments_eq_ok (parse_eq_ok hsegments hparse)
  obtain ⟨⟨bytes', hbytes', hheader'⟩, _⟩ := ofSegments_eq_ok (parse_eq_ok hsegments' hparse')
  obtain rfl : bytes = bytes' := Option.some.inj (hbytes.symm.trans hbytes')
  exact Option.some.inj (hheader.symm.trans hheader')

theorem ReadsAs.readToken_eq_ok (h : ReadsAs evidence header token) {id : String}
    (hid : token.header.keyId = some id) : readToken evidence = .ok (token, id) := by
  obtain ⟨text, _, _, htext, _, hparse⟩ := h
  exact Jwt.readToken_eq_ok.2 ⟨text, htext, hparse, hid⟩

theorem ReadsAs.readToken_eq_error (h : ReadsAs evidence header token)
    (hid : token.header.keyId = none) :
    readToken evidence = .error (.badFormat (.token .noKeyId)) := by
  obtain ⟨text, _, _, htext, _, hparse⟩ := h
  have hbytes : Evidence.ofBytes evidence = .ok token := by
    simp only [Evidence.ofBytes, htext, hparse]
  have hname : token.keyId = .error .noKeyId := by simp only [Evidence.keyId, hid]
  simp only [readToken, hbytes]
  -- The name is asked for last, and there is none.
  change (token.keyId >>= fun id => pure (token, id)).mapError _ = _
  rw [hname]
  rfl

theorem claimsOf_of_unsigned {key : VerificationKey}
    (h : key.verify token.signedBytes token.signature token.header.algorithm = false)
    (expected : Expectations) (now : Instant) (order : SearchOrder) :
    claimsOf token key expected now order = .error (misfit token.header.algorithm key) := by
  have hfault : ∃ fault, token.checkSignature key = .error fault ∧
      VerificationError.ofFault fault = misfit token.header.algorithm key := by
    unfold Evidence.checkSignature misfit
    cases key.algorithms.contains token.header.algorithm with
    | false => exact ⟨_, rfl, rfl⟩
    | true =>
      rw [h]
      exact ⟨_, rfl, rfl⟩
  obtain ⟨fault, hcheck, hmisfit⟩ := hfault
  rw [claimsOf, Evidence.authenticate, hcheck, ← hmisfit]
  rfl

/-- A token that nobody vouches for is refused on the strength of its header. -/
theorem verify_eq_refuse (hread : ReadsAs evidence header token)
    (h : Unvouched cache source issuer.keysUrl now token) (order : SearchOrder) :
    verify cache source issuer evidence now order =
      refuse cache source issuer.keysUrl token.header now := by
  unfold refuse
  cases h with
  | unnamed hid =>
    rw [hid]
    exact verify_of_unread (hread.readToken_eq_error hid)
  | unresolved id cause hid hkey =>
    rw [hid, verify_of_read (hread.readToken_eq_ok hid)]
    simp only [Lookup.andThen, findKey, hkey]
    rfl
  | unsigned id key hid hkey hsigned =>
    rw [hid, verify_of_read (hread.readToken_eq_ok hid)]
    simp only [Lookup.andThen, findKey, hkey]
    change Lookup.mk (claimsOf token key issuer.expected now order) _ _ _ = _
    rw [claimsOf_of_unsigned hsigned]
    rfl

end Jwt

namespace Engine

/-- Two tokens with one header segment that nobody vouches for have one and the same outcome: the
refusal, the requests, the cache and what is reported, and the refusal is not about claims, in
whatever orders those would have been looked for. -/
theorem verify_unvouched {engine : Engine} {issuer : Jwt.Issuer}
    (hissuer : engine.issuer? = some issuer) {source : KeySource} {cache : KeyCache}
    {now : Instant} {header : List Char} {evidence evidence' : Bytes} {token token' : Jwt.Evidence}
    (hread : Jwt.ReadsAs evidence header token) (hread' : Jwt.ReadsAs evidence' header token')
    (h : Jwt.Unvouched cache source issuer.keysUrl now token)
    (h' : Jwt.Unvouched cache source issuer.keysUrl now token') (publicKey : Option String)
    (order order' : Jwt.SearchOrder) :
    engine.verify source cache evidence publicKey now order =
        engine.verify source cache evidence' publicKey now order' ∧
      ∃ e, (engine.verify source cache evidence publicKey now order).result = .error e ∧
        Jwt.Blind e := by
  obtain ⟨judge, hverify⟩ := verify_of_issuer hissuer publicKey
  rw [hverify, hverify, Jwt.verify_eq_refuse hread h, Jwt.verify_eq_refuse hread' h',
    hread.header_eq hread']
  refine ⟨rfl, ?_⟩
  obtain ⟨e, hresult, hblind⟩ :=
    Jwt.refuse_result cache source issuer.keysUrl token'.header now
  refine ⟨e, ?_, hblind⟩
  simp only [conclude, Jwt.Lookup.andThen, hresult]
  rfl

/-! Two tokens with made-up claims, under a signature that was made for other claims. -/

def strayHeader : List Char :=
  Base64.encodeChars Base64.urlSafe (Utf8.encode "\x7b\"alg\":\"ES256\",\"kid\":\"k\"\x7d")

def straySignature : Bytes :=
  Bytes.ofNat 32 Ecdsa.p256.baseX ++
    Bytes.ofNat 32 0xec1522e6c3795ae2736394af3fca4a3970e08d3d470107cbae1604388e7f3db1

def strayText (payload : String) : List Char :=
  strayHeader ++ '.' :: (Base64.encodeChars Base64.urlSafe (Utf8.encode payload) ++
    '.' :: Base64.encodeChars Base64.urlSafe straySignature)

def strayToken (payload : String) : Jwt.Evidence where
  token := String.ofList (strayText payload)
  header := {
    type := none
    algorithm := .es256
    contentType := none
    keySetUrl := none
    key := none
    keyId := some "k"
    certificateUrl := none
    certificates := none
    sha1Thumbprint := none
    sha256Thumbprint := none }
  payload := Utf8.encode payload
  signature := straySignature
  signedBytes := Utf8.encodeChars
    (strayHeader ++ '.' :: Base64.encodeChars Base64.urlSafe (Utf8.encode payload))

def strayKey : Jwt.VerificationKey :=
  .curvePoint (4 :: (Bytes.ofNat 32 Ecdsa.p256.baseX ++ Bytes.ofNat 32 Ecdsa.p256.baseY))

theorem strayToken_readsAs {payload : String}
    (htext : Utf8.decodeChars? (Utf8.encodeChars (strayText payload)) = some (strayText payload))
    (htrim : Text.trim (strayText payload) = strayText payload)
    (hparse : (Jwt.Evidence.parse (strayText payload)).toOption = some (strayToken payload)) :
    Jwt.ReadsAs (Utf8.encodeChars (strayText payload)) strayHeader (strayToken payload) :=
  ⟨strayText payload, _, _, htext, htrim, toOption_eq_some.1 hparse⟩

theorem strayToken_unvouched {payload : String}
    (hsigned : strayKey.verify (strayToken payload).signedBytes straySignature .es256 = false) :
    Jwt.Unvouched Azure.specimenCache Azure.noSource (Azure.issuer "https://i").keysUrl
      1700000000000000000 (strayToken payload) := by
  have hkey : (Azure.specimenCache.resolve Azure.noSource (Azure.issuer "https://i").keysUrl "k"
      1700000000000000000).answer.toOption = some strayKey := by decide +kernel
  exact .unsigned "k" strayKey rfl (toOption_eq_some.1 hkey) hsigned

def strayOutcome (payload : String) : Outcome :=
  (azure "https://i" []).verify Azure.noSource Azure.specimenCache
    (Utf8.encodeChars (strayText payload)) (some "k") 1700000000000000000 .standard

set_option maxRecDepth 100000 in
theorem verify_unvouched_stray :
    strayOutcome "\x7b\"iss\":\"https://i\",\"exp\":1700003600\x7d" =
        strayOutcome "\x7b\"iss\":\"https://j\",\"exp\":0\x7d" ∧
      ∃ e, (strayOutcome "\x7b\"iss\":\"https://i\",\"exp\":1700003600\x7d").result = .error e ∧
        Jwt.Blind e := by
  refine verify_unvouched rfl
    (strayToken_readsAs (by decide +kernel) (by decide +kernel) (by decide +kernel))
    (strayToken_readsAs (by decide +kernel) (by decide +kernel) (by decide +kernel))
    (strayToken_unvouched ?_) (strayToken_unvouched ?_) (some "k") .standard .standard
  · decide +kernel
  · decide +kernel

end Engine

end Attestation
